import AuditRules.Proofs.Comparator.Lowered
import AuditRules.Proofs.Registry.Satisfies

namespace AuditRules

open Evaluation (Related SameOutcome)

variable {engine : PatternEngine}

namespace Registry

open SequenceRule

variable {limits : Limits} {checkId : String} {fields : Fields} {key : String}
  {args : List Fields} {ignoreCase : Bool} {names cased : String → Prop}

theorem delegated_lowered (n : Nat) {arg xs ys : Fields}
    (harg : ∀ entry ∈ arg, entry.2.PlainTexts) (hxs : xs.Rel Value.LoweredAnywhere ys) :
    Related .outcomes Likeness.outcomes.verdicts
      ((builtins engine limits).delegated checkId n (mappingRule "match" (.object arg) true)
        (.object xs))
      ((builtins engine limits).delegated checkId n (mappingRule "match" (.object arg) true)
        (.object ys)) := by
  cases n with
  | zero => exact .throw _
  | succ n =>
    have hcompare : Related .outcomes Likeness.outcomes.verdicts
        (MappingRule.compareFields ((builtins engine limits).context checkId n) .entries true
          (.object arg) (.object xs) xs)
        (MappingRule.compareFields ((builtins engine limits).context checkId n) .entries true
          (.object arg) (.object ys) ys) :=
      MappingRule.compareFields_lowered harg hxs
    exact hcompare.of_result_eq
      (delegated_mappingRule engine limits checkId n .entries (.object arg) true xs)
      (delegated_mappingRule engine limits checkId n .entries (.object arg) true ys)

def PlainArgs (key : String) (names : String → Prop) (args : List Fields) : Prop :=
  ∀ arg ∈ args, ∀ entry ∈ arg, entry.2.Plain fun s ↦ entry.1 = key → names s

theorem pairsAlike_lowered (n : Nat) {arg : Fields} {v w : Value}
    (harg : ∀ entry ∈ arg, entry.2.PlainTexts) (hv : v.LoweredAt key cased w) :
    PairsAlike .outcomes ((builtins engine limits).context checkId n)
      ((builtins engine limits).context checkId n) true (v, arg) (w, arg) := by
  cases hv with
  | other => exact .refl Likeness.verdicts_refl _
  | element hkeys h => exact delegated_lowered n harg (Value.LoweredAt.element hkeys h).rel

theorem run_lowered (h : (builtins engine limits).Keyed fields key args true)
    (hnames : Value.Unmistakable names cased) (hargs : PlainArgs key names args)
    {items items' : List Value} (hitems : List.Forall₂ (Value.LoweredAt key cased) items items') :
    SameOutcome ((builtins engine limits).run checkId (.object fields) (.array items))
      ((builtins engine limits).run checkId (.object fields) (.array items')) := by
  have hhits (v w : Value) (hv : v.LoweredAt key cased w) (arg : Fields) (harg : arg ∈ args) :
      hits key v arg = hits key w arg := hits_lowered hnames (hargs arg harg) hv
  let ctx := (builtins engine limits).context checkId limits.nesting
  have hpairs : List.Forall₂ (PairsAlike .outcomes ctx ctx true) (keyedPairs key args items)
      (keyedPairs key args items') := by
    refine (keyedPairs_related hitems hhits).imp ?_
    rintro ⟨v, arg⟩ ⟨w, _⟩ ⟨hv, rfl, harg⟩
    have hplain (entry) (hentry : entry ∈ arg) : entry.2.PlainTexts :=
      (hargs arg harg entry hentry).mono fun _ _ ↦ trivial
    exact pairsAlike_lowered limits.nesting hplain hv
  have hcompare : Related .outcomes Likeness.outcomes.verdicts
      (compareKeyed ctx true key args (.array items) items)
      (compareKeyed ctx true key args (.array items') items') :=
    compareKeyed_related trivial hpairs
  apply Related.sameOutcome
  exact hcompare.of_result_eq (evaluate_keyed h checkId limits.nesting items)
    (evaluate_keyed h checkId limits.nesting items')

/-- Keyed rules that ignore case answer the same on elements with texts in lower case. Their
arguments have `names` under the key; of the texts that the elements have under the key those that
are `cased` may be lowered, and of their other texts any. -/
def CaseBlind (engine : PatternEngine) (limits : Limits) (checkId : String)
    (names cased : String → Prop) : Prop :=
  ∀ (fields : Fields) (key : String) (args : List Fields),
    (builtins engine limits).Keyed fields key args true → PlainArgs key names args →
    ∀ items items' : List Value, List.Forall₂ (Value.LoweredAt key cased) items items' →
      SameOutcome ((builtins engine limits).run checkId (.object fields) (.array items))
        ((builtins engine limits).run checkId (.object fields) (.array items'))

def namedRule (name : String) : Fields :=
  [(Rule.typeKey, .string "list"), (Rule.ignoreCaseKey, .bool true),
    ("match_any_if_keyvalue_matches", .object [("match_key", .string "name"),
      ("args", .array [.object [("name", .string name)]])])]

theorem namedRule_keyed (engine : PatternEngine) (limits : Limits) (name : String) :
    (builtins engine limits).Keyed (namedRule name) "name" [[("name", .string name)]] true :=
  ⟨⟨"list", rfl, rfl⟩, rfl, rfl⟩

theorem hits_named (name s : String) :
    hits "name" (.object [("name", .string s)]) [("name", .string name)] = (s == name) := rfl

theorem unmistakable_of_caseBlind (h : CaseBlind engine limits checkId names cased) :
    Value.Unmistakable names cased := by
  intro s hs t ht
  -- A rule about `s` alone tells, by whether it applies, if the only element has that name.
  have hrule := namedRule_keyed engine limits s
  have hargs : PlainArgs "name" names [[("name", .string s)]] := by
    simp only [PlainArgs, List.forall_mem_singleton]
    exact .string fun _ ↦ hs
  have hitems : List.Forall₂ (Value.LoweredAt "name" cased) [.object [("name", .string t)]]
      [.object [("name", .string (LetterCase.lower t))]] := by
    refine .cons (.element rfl ?_) .nil
    simp only [List.zip_cons_cons, List.zip_nil_right, List.mem_singleton, Prod.mk.injEq]
    rintro _ _ ⟨rfl, rfl⟩
    exact .text fun _ ↦ ht
  have hsame := (h _ _ _ hrule hargs _ _ hitems).notApplicable_iff
  rw [run_keyed_notApplicable_iff hrule, run_keyed_notApplicable_iff hrule] at hsame
  simpa [← hits_iff, hits_named] using not_congr hsame

/-- Whether data is written in lower case plays no part in a keyed rule that ignores case just where
no text under the key is mistaken for a name, or a name for another text, once it is lowered. -/
theorem caseBlind_iff (limits : Limits) (checkId : String) (names cased : String → Prop) :
    CaseBlind engine limits checkId names cased ↔ Value.Unmistakable names cased := by
  constructor
  · exact unmistakable_of_caseBlind
  · intro hnames fields key args hrule hargs items items' hitems
    exact run_lowered hrule hnames hargs hitems

theorem caseBlind_attributes :
    CaseBlind Pattern.engine .default "check" (fun _ ↦ True) (fun _ ↦ False) := by
  apply (caseBlind_iff .default "check" _ _).2
  intro s _ t ht
  exact ht.elim

def activeService (name : String) : Value :=
  .object [("name", .string name), ("running", .bool true)]

theorem run_capitals :
    (activeService "RSYNC").LoweredAt "name" (fun _ ↦ True) (activeService "rsync") ∧
    ((builtins Pattern.engine .default).run "check"
      (.object ((Rule.ignoreCaseKey, .bool true) :: stoppedService))
      (.array [activeService "RSYNC"])).result =
        .ok (.notApplicable "Check Passed. No element with a matching 'name' value") ∧
    ((builtins Pattern.engine .default).run "check"
      (.object ((Rule.ignoreCaseKey, .bool true) :: stoppedService))
      (.array [activeService "rsync"])).result =
        .ok (.fail ("list::match_any_if_keyvalue_matches failure. Got=" ++
          (Value.array [activeService "rsync"]).render 2048)) := by
  refine ⟨.element rfl ?_, rfl, rfl⟩
  have hlower : LetterCase.lower "RSYNC" = "rsync" := by decide +kernel
  simp only [List.zip_cons_cons, List.zip_nil_right, List.mem_cons, Prod.mk.injEq]
  rintro _ _ (⟨rfl, rfl⟩ | ⟨rfl, rfl⟩ | h)
  · rw [← hlower]
    exact .text fun _ ↦ trivial
  · exact .same _
  · cases h

end Registry

end AuditRules
