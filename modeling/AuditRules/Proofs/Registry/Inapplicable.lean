import AuditRules.Proofs.Comparator.Keyed
import AuditRules.Proofs.Registry.Filtered

namespace AuditRules

open Evaluation (YieldsOnly)

variable {engine : PatternEngine}

def Verdict.Decided (v : Verdict) : Prop := v.outcome ≠ .notApplicable

theorem Verdict.decided_pass (message : String) : (pass message).Decided := by
  simp [Decided, pass]

theorem Verdict.decided_fail (message : String) : (fail message).Decided := by
  simp [Decided, fail]

theorem Verdict.decided_ofBool (passed : Bool) (failure : String) :
    (ofBool passed failure).Decided := by
  cases passed with
  | true => exact decided_pass _
  | false => exact decided_fail _

theorem NumberRule.compare_decided (ctx : Context) (rule : Rule) (actual : Value) :
    YieldsOnly Verdict.Decided (compare ctx rule actual) := by
  refine .bind fun found ↦ .bind fun _ ↦ ?_
  split
  · exact Verdict.decided_fail _
  · exact .liftM_bind fun _ ↦ Verdict.decided_ofBool _ _
  · unfold compareAny
    split
    · exact .liftM_bind fun _ ↦ Verdict.decided_ofBool _ _
    · exact trivial

theorem TextRule.compare_decided (ctx : Context) (rule : Rule) (actual : Value) :
    YieldsOnly Verdict.Decided (compare engine ctx rule actual) := by
  refine .bind fun found ↦ .bind fun _ ↦ ?_
  split
  · exact Verdict.decided_fail _
  · exact .bind fun _ ↦ Verdict.decided_ofBool _ _

theorem BooleanRule.compare_decided (ctx : Context) (rule : Rule) (actual : Value) :
    YieldsOnly Verdict.Decided (compare ctx rule actual) := by
  refine .bind fun found ↦ .bind fun _ ↦ ?_
  split
  · exact trivial
  · exact Verdict.decided_ofBool _ _
  · exact Verdict.decided_fail _

theorem MappingRule.compare_decided (ctx : Context) (rule : Rule) (actual : Value) :
    YieldsOnly Verdict.Decided (compare ctx rule actual) := by
  refine .bind fun found ↦ .bind fun _ ↦ ?_
  split
  · rename_i fields
    unfold compareFields
    split
    · refine .bind fun pattern ↦ .bind fun reason ↦ ?_
      cases reason with
      | none => exact Verdict.decided_pass _
      | some reason => exact Verdict.decided_fail _
    · exact .bind fun candidates ↦ .bind fun _ ↦ Verdict.decided_ofBool _ _
    · exact .bind fun keys ↦ Verdict.decided_ofBool _ _
    · exact .bind fun keys ↦ Verdict.decided_ofBool _ _
  · exact Verdict.decided_fail _

namespace SequenceRule

variable {ctx : Context} {ignoreCase : Bool}

theorem compareAll_decided (actual : Value) (items : List Value) : ∀ patterns : List Value,
    YieldsOnly Verdict.Decided (compareAll ctx ignoreCase actual items patterns)
  | [] => Verdict.decided_pass _
  | _ :: rest => by
    refine .bind fun found ↦ ?_
    cases found with
    | true => exact compareAll_decided actual items rest
    | false => exact Verdict.decided_fail _

/-- List rules apply to every list, but for keyed ones and those below a filter. -/
theorem compareItems_decided {rule : ListRule} (hkeyed : ∀ key args, rule ≠ .keyed key args)
    (hfiltered : ∀ filter inner, rule ≠ .filtered filter inner) (actual : Value)
    (items : List Value) :
    YieldsOnly Verdict.Decided (compareItems ctx rule ignoreCase actual items) := by
  cases rule with
  | size => exact .bind fun _ ↦ Verdict.decided_ofBool _ _
  | exactly =>
    cases items with
    | nil => exact .bind fun _ ↦ Verdict.decided_fail _
    | cons first rest =>
      rw [compareItems, compareExactly_cons]
      refine .bind fun settled ↦ ?_
      cases settled with
      | true => exact Verdict.decided_pass _
      | false => exact .bind fun _ ↦ Verdict.decided_ofBool _ _
  | any => exact .bind fun _ ↦ Verdict.decided_ofBool _ _
  | all patterns => exact compareAll_decided actual items patterns
  | keyed key args => exact absurd rfl (hkeyed key args)
  | filtered filter inner => exact absurd rfl (hfiltered filter inner)

theorem scanPairs_notApplicable {mismatched : Bool} {pairs : List (Value × Fields)}
    (hrule : ∀ item arg, YieldsOnly Verdict.Decided
      (ctx.delegate (mappingRule "match" (.object arg) ignoreCase) item))
    (h : (scanPairs ctx ignoreCase mismatched pairs).result = .ok .notApplicable) :
    pairs = [] := by
  cases pairs with
  | nil => rfl
  | cons pair rest =>
    obtain ⟨item, arg⟩ := pair
    rcases scanPairs_cons h with ⟨-, ho⟩ | ⟨-, hrest⟩ | ⟨⟨v, hv, ho⟩, -⟩
    · cases ho
    · -- After a pair that fails the scan can only pass or fail.
      obtain ⟨hpassed, hfailed⟩ := scanPairs_ok hrest
      have hnone := mt hpassed.2 nofun
      exact nomatch hfailed.2 ⟨hnone, .inl rfl⟩
    · exact absurd ho ((hrule item arg).accepts hv)

theorem compareKeyed_notApplicable {key : String} {args : List Fields} {actual : Value}
    {items : List Value} {v : Verdict}
    (hrule : ∀ item arg, YieldsOnly Verdict.Decided
      (ctx.delegate (mappingRule "match" (.object arg) ignoreCase) item))
    (h : (compareKeyed ctx ignoreCase key args actual items).result = .ok v)
    (hv : v.outcome = .notApplicable) : ∀ item ∈ items, ∀ arg ∈ args, ¬ Hit key item arg := by
  have hscan := scan_of_compareKeyed h
  rw [hv] at hscan
  have hnil := scanPairs_notApplicable hrule hscan
  intro item hitem arg harg hhit
  have hmem := mem_keyedPairs.2 ⟨hitem, harg, hhit⟩
  rw [hnil] at hmem
  cases hmem

theorem compare_notApplicable {rule : Rule} {actual : Value} {v : Verdict}
    (h : (compare ctx rule actual).result = .ok v) (hv : v.outcome = .notApplicable) :
    ∃ parsed items, ListRule.parse rule = .ok parsed ∧ actual = .array items ∧
      (compareItems ctx parsed rule.ignoreCase actual items).result = .ok v := by
  obtain ⟨parsed, hparsed, h⟩ := Evaluation.exists_of_result_bind_ok h
  obtain ⟨-, -, h⟩ := Evaluation.exists_of_result_bind_ok h
  cases actual with
  | array items => exact ⟨parsed, items, hparsed, rfl, h⟩
  | null | bool | number | string | object =>
    obtain ⟨-, -, h⟩ := Evaluation.exists_of_result_bind_ok h
    rw [← Except.ok.inj h] at hv
    cases hv

end SequenceRule

namespace Registry

open SequenceRule

theorem delegated_ok {limits : Limits} {checkId : String} {n : Nat} (hn : n ≤ limits.nesting)
    {spec actual : Value} {v : Verdict}
    (h : ((builtins engine limits).delegated checkId n spec actual).result = .ok v) :
    ((builtins engine limits).run checkId spec actual).result = .ok v := by
  have heval : ((builtins engine limits).evaluate checkId n spec actual).result = .ok v := by
    rcases delegated_deeper limits checkId n spec actual with ⟨e, he, -⟩ | heq
    · rw [h] at he; cases he
    · exact heq ▸ h
  rcases evaluate_deeper limits checkId hn spec actual with ⟨e, he, -⟩ | heq
  · rw [heval] at he; cases he
  · exact heq ▸ heval

theorem keep_eq_filter {limits : Limits} {checkId : String} {n : Nat} (hn : n ≤ limits.nesting)
    {rule : Value} {items kept : List Value}
    (h : (keep ((builtins engine limits).context checkId n) rule items).result = .ok kept) :
    kept = items.filter ((builtins engine limits).accepts checkId rule) := by
  induction items generalizing kept with
  | nil => exact (Except.ok.inj h).symm
  | cons item rest ih =>
    obtain ⟨passed, hpassed, h⟩ := Evaluation.exists_of_result_bind_ok h
    obtain ⟨keptRest, hrest, h⟩ := Evaluation.exists_of_result_bind_ok h
    obtain ⟨v, hv, hpassed⟩ := Evaluation.exists_of_result_bind_ok hpassed
    have haccepts : (builtins engine limits).accepts checkId rule item = passed :=
      (accepts_of_ok (delegated_ok hn hv)).trans (Except.ok.inj hpassed)
    rw [List.filter_cons, haccepts, ← ih hrest]
    exact (Except.ok.inj h).symm

theorem delegated_mappingRule_decided (engine : PatternEngine) (limits : Limits)
    (checkId : String) (n : Nat) (ignoreCase : Bool) (item : Value) (arg : Fields) :
    YieldsOnly Verdict.Decided
      ((builtins engine limits).delegated checkId n (mappingRule "match" (.object arg) ignoreCase)
        item) := by
  cases n with
  | zero => exact trivial
  | succ n =>
    have hmode : "match" ∈ Comparator.mapping.modes := by decide
    have hasks := mappingRule_asks hmode (.object arg) ignoreCase
    rw [delegated, mappingRule, evaluate_asks hasks (by simp [builtin])]
    exact MappingRule.compare_decided _ _ item

/-- A keyed rule does not apply just where no element has the key value of an argument. -/
theorem run_keyed_notApplicable_iff {limits : Limits} {checkId : String} {fields : Fields}
    {key : String} {args : List Fields} {ignoreCase : Bool}
    (h : (builtins engine limits).Keyed fields key args ignoreCase) (items : List Value) :
    (∃ v, ((builtins engine limits).run checkId (.object fields) (.array items)).result = .ok v ∧
      v.outcome = .notApplicable) ↔ ∀ item ∈ items, ∀ arg ∈ args, ¬ Hit key item arg := by
  rw [run_result, evaluate_keyed h]
  constructor
  · rintro ⟨v, hv, houtcome⟩
    apply compareKeyed_notApplicable _ hv houtcome
    intro item arg
    exact delegated_mappingRule_decided engine limits checkId limits.nesting ignoreCase item arg
  · intro hnone
    exact compareKeyed_no_hit hnone _

/-- Why a rule does not apply to a value: it is a keyed list rule and no element of a list has the
key value of an argument, or it is a list rule with a filter and its inner rule does not apply to
the elements that pass the filter. -/
inductive Inapplicable (engine : PatternEngine) (limits : Limits) (checkId : String) :
    Value → Value → Prop
  | keyed {fields : Fields} {items : List Value} {key : String} {args : List Fields}
      (htag : fields.get? Rule.typeKey = some (.string "list"))
      (hrule : ListRule.parse ⟨fields⟩ = .ok (.keyed key args))
      (hnone : ∀ item ∈ items, ∀ arg ∈ args, ¬ Hit key item arg) :
      Inapplicable engine limits checkId (.object fields) (.array items)
  | filtered {fields : Fields} {items : List Value} {filter rule : Fields}
      (htag : fields.get? Rule.typeKey = some (.string "list"))
      (hrule : ListRule.parse ⟨fields⟩ = .ok (.filtered filter rule))
      (hinner : Inapplicable engine limits checkId (innerRule rule)
        (.array (items.filter ((builtins engine limits).accepts checkId (filterRule filter))))) :
      Inapplicable engine limits checkId (.object fields) (.array items)

/-- One step: only a list rule with keyed arguments or a filter does not apply, and one with a
filter only if what it delegates does not. -/
theorem evaluate_notApplicable_step {limits : Limits} {checkId : String} {n : Nat}
    (hn : n ≤ limits.nesting) {spec actual : Value} {v : Verdict}
    (hdelegated : ∀ inner kept,
      ((builtins engine limits).delegated checkId n inner kept).result = .ok v →
        Inapplicable engine limits checkId inner kept)
    (h : ((builtins engine limits).evaluate checkId n spec actual).result = .ok v)
    (hv : v.outcome = .notApplicable) : Inapplicable engine limits checkId spec actual := by
  have hdecided {x : Evaluation Verdict} (hx : YieldsOnly Verdict.Decided x)
      (hok : x.result = .ok v) : False := hx.accepts hok hv
  rcases evaluate_routes (builtins engine limits) checkId n spec actual with
    ⟨e, he, -⟩ | ⟨fields, tag, c, rfl, htag, hc, heq⟩
  · rw [h] at he; cases he
  · obtain ⟨hmem, hname⟩ := of_get?_builtins hc
    rw [heq] at h
    rcases mem_builtin.1 hmem with rfl | rfl | rfl | rfl | rfl
    · exact (hdecided (NumberRule.compare_decided _ _ actual) h).elim
    · exact (hdecided (TextRule.compare_decided _ _ actual) h).elim
    · exact (hdecided (BooleanRule.compare_decided _ _ actual) h).elim
    · exact (hdecided (MappingRule.compare_decided _ _ actual) h).elim
    · obtain rfl := List.mem_singleton.1 hname
      obtain ⟨parsed, items, hparsed, rfl, h⟩ := compare_notApplicable h hv
      cases parsed with
      | keyed key args =>
        exact .keyed htag hparsed (compareKeyed_notApplicable
          (fun item arg ↦ delegated_mappingRule_decided engine limits checkId n _ item arg) h hv)
      | filtered filter rule =>
        obtain ⟨kept, hkept, h⟩ := Evaluation.exists_of_result_bind_ok h
        obtain ⟨-, -, h⟩ := Evaluation.exists_of_result_bind_ok h
        rw [keep_eq_filter hn hkept] at h
        exact .filtered htag hparsed (hdelegated _ _ h)
      | size | exactly | any | all =>
        exact (hdecided (compareItems_decided (by simp) (by simp) _ items) h).elim

theorem evaluate_notApplicable {limits : Limits} {checkId : String} {n : Nat}
    (hn : n ≤ limits.nesting) {spec actual : Value} {v : Verdict}
    (h : ((builtins engine limits).evaluate checkId n spec actual).result = .ok v)
    (hv : v.outcome = .notApplicable) : Inapplicable engine limits checkId spec actual := by
  induction n generalizing spec actual with
  | zero => exact evaluate_notApplicable_step hn nofun h hv
  | succ n ih =>
    exact evaluate_notApplicable_step hn (fun _ _ h ↦ ih (Nat.le_of_succ_le hn) h) h hv

/-- No rule silently fails to apply: one that does not is a keyed list rule below any number of
filters, put to a list of which the filters leave no element that has the key value of an
argument. -/
theorem run_notApplicable {limits : Limits} {checkId : String} {spec actual : Value} {v : Verdict}
    (h : ((builtins engine limits).run checkId spec actual).result = .ok v)
    (hv : v.outcome = .notApplicable) : Inapplicable engine limits checkId spec actual :=
  evaluate_notApplicable (Nat.le_refl limits.nesting) h hv

def rootService : Fields :=
  [("match_any_if_keyvalue_matches", .object [("match_key", .string "name"),
    ("args", .array [.object [("name", .string "rsync"), ("user", .string "root")]])])]

def runningServices : List Value :=
  [.object [("name", .string "cron"), ("running", .bool true)],
    .object [("name", .string "rsync"), ("running", .bool false)]]

theorem run_rootService : ∃ v,
    ((builtins Pattern.engine .default).run "check"
      (filteredRule [("running", .bool true)] rootService)
      (.array runningServices)).result = .ok v ∧ v.outcome = .notApplicable ∧
    Inapplicable Pattern.engine .default "check"
      (filteredRule [("running", .bool true)] rootService) (.array runningServices) :=
  ⟨_, rfl, rfl, run_notApplicable rfl rfl⟩

end Registry

end AuditRules
