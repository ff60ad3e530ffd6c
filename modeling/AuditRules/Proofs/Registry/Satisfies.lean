import AuditRules.Proofs.Comparator.Reading
import AuditRules.Proofs.Comparator.Satisfies
import AuditRules.Proofs.Registry.Inapplicable

namespace AuditRules

open Evaluation (YieldsOnly Determines)

variable {engine : PatternEngine}

namespace Registry

open SequenceRule

variable {limits : Limits} {checkId : String} {n : Nat}

theorem delegated_accepts (hn : n ≤ limits.nesting) (rule actual : Value) :
    YieldsOnly (fun v ↦ v.passed = (builtins engine limits).accepts checkId rule actual)
      ((builtins engine limits).delegated checkId n rule actual) := by
  refine Evaluation.Ensures.iff.2 ⟨?_, fun _ _ ↦ trivial⟩
  intro v hv
  exact (accepts_of_ok (delegated_ok hn hv)).symm

theorem delegated_numberRule (engine : PatternEngine) (limits : Limits) (checkId : String)
    (n : Nat) (mode : NumberRule.Mode) (expected actual : Value) :
    (builtins engine limits).delegated checkId (n + 1) (numberRule mode.key expected) actual =
      NumberRule.compare ((builtins engine limits).context checkId n)
        ⟨[(Rule.typeKey, .string "number"), (mode.key, expected)]⟩ actual := by
  have hmode : mode.key ∈ Comparator.number.modes := by cases mode <;> decide
  exact evaluate_asks (numberRule_asks hmode expected) (by simp [builtin]) limits checkId n actual

theorem passesNumber_readable (expressions : List Value) (i : Int)
    (hread : ∀ e ∈ expressions, (NumberExpression.parse e).isOk = true) :
    ∃ passed, (passesNumber ((builtins engine limits).context checkId (n + 1))
        (numberRule "match_any" (.array expressions)) i).result = .ok passed ∧
      (passed = true ↔ ∃ e ∈ expressions, HoldsOf i e) := by
  have hmode : "match_any" ∈ Comparator.number.modes := by decide
  have hasks : Fields.Asks _ .number NumberRule.Mode.any.key (.array expressions) :=
    numberRule_asks hmode (.array expressions)
  let ctx := (builtins engine limits).context checkId n
  have hquantity : (Value.ofInt i).toQuantity? = some (.ofInt i) := rfl
  obtain ⟨v, hv, hiff⟩ := NumberRule.compare_readable hasks hread ctx hquantity
  have hdelegated : ((builtins engine limits).delegated checkId (n + 1)
      (numberRule "match_any" (.array expressions)) (.ofInt i)).result = .ok v :=
    (congrArg Evaluation.result (delegated_numberRule engine limits checkId n .any _ _)).trans hv
  exact ⟨v.passed, Evaluation.result_tryCatch_ok (passes_result hdelegated) _, hiff⟩

theorem passesNumber_any (expressions : List Value) (i : Int)
    (hread : ∀ e ∈ expressions, (NumberExpression.parse e).isOk = true) :
    Determines (∃ e ∈ expressions, HoldsOf i e)
      (passesNumber ((builtins engine limits).context checkId n)
        (numberRule "match_any" (.array expressions)) i) := by
  cases n with
  | zero => exact trivial
  | succ n =>
    obtain ⟨passed, hpassed, hiff⟩ := passesNumber_readable expressions i hread
    exact Evaluation.Ensures.of_ok hpassed hiff

theorem delegated_mappingRule (engine : PatternEngine) (limits : Limits) (checkId : String)
    (n : Nat) (mode : MappingRule.Mode) (expected : Value) (ignoreCase : Bool) (entries : Fields) :
    ((builtins engine limits).delegated checkId (n + 1) (mappingRule mode.key expected ignoreCase)
      (.object entries)).result =
        (MappingRule.compareFields ((builtins engine limits).context checkId n) mode ignoreCase
          expected (.object entries) entries).result := by
  have hmode : mode.key ∈ Comparator.mapping.modes := by cases mode <;> decide
  have hasks : Fields.Asks _ .mapping mode.key expected :=
    mappingRule_asks hmode expected ignoreCase
  have hcase : (Rule.mk [(Rule.typeKey, .string "dict"), (mode.key, expected),
      (Rule.ignoreCaseKey, .bool ignoreCase)]).ignoreCase = ignoreCase := by cases mode <;> rfl
  have hcompare :=
    MappingRule.compare_object hasks ((builtins engine limits).context checkId n) entries
  rw [hcase] at hcompare
  change ((builtins engine limits).evaluate checkId n (.object _) _).result = _
  rw [evaluate_asks hasks (by simp [builtin])]
  exact hcompare

theorem candidate_determines (engine : PatternEngine) (checkId : String)
    (hn : n + 1 ≤ limits.nesting) (ignoreCase : Bool) (c : Value) (entries : Fields) :
    Determines ((builtins engine limits).accepts checkId (mappingRule "match" c ignoreCase)
        (.object entries) = true)
      (do return (← MappingRule.mismatch? ((builtins engine limits).context checkId n) ignoreCase
        (← MappingRule.expectedMapping .any c) entries).isNone) := by
  refine Evaluation.Ensures.iff.2 ⟨?_, fun _ _ ↦ trivial⟩
  intro found hfound
  obtain ⟨v, hv, hpassed⟩ := MappingRule.candidate_result hfound (.object entries)
  have hsingle := delegated_mappingRule engine limits checkId n .entries c ignoreCase entries
  have haccepts : (builtins engine limits).accepts checkId (mappingRule "match" c ignoreCase)
      (.object entries) = v.passed := accepts_of_ok (delegated_ok hn (hsingle.trans hv))
  rw [haccepts, hpassed]

theorem passes_any (hn : n ≤ limits.nesting) (ignoreCase : Bool) (candidates : List Value)
    (entries : Fields) :
    Determines (∃ c ∈ candidates, (builtins engine limits).accepts checkId
        (mappingRule "match" c ignoreCase) (.object entries) = true)
      (passes ((builtins engine limits).context checkId n)
        (mappingRule "match_any" (.array candidates) ignoreCase) (.object entries)) := by
  cases n with
  | zero => exact trivial
  | succ n =>
    refine Evaluation.Ensures.iff.2 ⟨?_, fun _ _ ↦ trivial⟩
    intro passed hpassed
    obtain ⟨v, hv, hpassed⟩ := Evaluation.exists_of_result_bind_ok hpassed
    have hcompare :=
      delegated_mappingRule engine limits checkId n .any (.array candidates) ignoreCase entries
    obtain ⟨cs, hcs, hsearch⟩ := Evaluation.exists_of_result_bind_ok (hcompare.symm.trans hv)
    obtain ⟨found, hfound, hverdict⟩ := Evaluation.exists_of_result_bind_ok hsearch
    obtain rfl : candidates = cs := Except.ok.inj hcs
    have hcandidates := Determines.anyM fun c (_ : c ∈ candidates) ↦
      candidate_determines engine checkId hn ignoreCase c entries
    have hiff := hcandidates.accepts hfound
    rw [← hiff, ← Except.ok.inj hpassed, ← Except.ok.inj hverdict, Verdict.passed_ofBool]

theorem context_accepts (hn : n ≤ limits.nesting) (ignoreCase : Bool) :
    Accepts ((builtins engine limits).accepts checkId) ignoreCase
      ((builtins engine limits).context checkId n) where
  rule rule v := delegated_accepts hn rule v
  numbers expressions i hread := passesNumber_any expressions i hread
  mappings candidates entries := passes_any hn ignoreCase candidates entries

/-- Some element satisfies some pattern, each put to the other in a rule of its own. -/
def SomeSatisfies (r : Registry) (checkId : String) (ignoreCase : Bool)
    (items patterns : List Value) : Prop :=
  ∃ item ∈ items, ∃ p ∈ patterns, Satisfies (r.accepts checkId) ignoreCase item p

theorem SomeSatisfies.of_perm {r : Registry} {ignoreCase : Bool}
    {items items' patterns patterns' : List Value} (hitems : items.Perm items')
    (hpatterns : patterns.Perm patterns')
    (h : SomeSatisfies r checkId ignoreCase items patterns) :
    SomeSatisfies r checkId ignoreCase items' patterns' := by
  obtain ⟨item, hitem, p, hp, hsatisfies⟩ := h
  exact ⟨item, hitems.subset hitem, p, hpatterns.subset hp, hsatisfies⟩

theorem run_anyRule_outcome {fields : Fields} {patterns : List Value}
    (h : fields.Asks .sequence "match_any" (.array patterns)) {items : List Value} {v : Verdict}
    (hv : ((builtins engine limits).run checkId (.object fields) (.array items)).result = .ok v) :
    (v.outcome = .passed ↔
      SomeSatisfies (builtins engine limits) checkId (Rule.mk fields).ignoreCase items patterns) ∧
    (v.outcome = .failed ↔ ¬ SomeSatisfies (builtins engine limits) checkId
      (Rule.mk fields).ignoreCase items patterns) := by
  rw [run_result, evaluate_array h (parse_any h)] at hv
  exact compareAny_outcome (context_accepts (Nat.le_refl _) _) hv

/-- A rule that asks for some element to satisfy some pattern passes, if it is answered, just where
there are such an element and such a pattern, in whatever order they come. -/
theorem run_anyRule {fields : Fields} {patterns : List Value}
    (h : fields.Asks .sequence "match_any" (.array patterns)) {items : List Value} {v : Verdict}
    (hv : ((builtins engine limits).run checkId (.object fields) (.array items)).result = .ok v) :
    ((v.outcome = .passed ↔
      SomeSatisfies (builtins engine limits) checkId (Rule.mk fields).ignoreCase items patterns) ∧
      (v.outcome = .failed ↔ ¬ SomeSatisfies (builtins engine limits) checkId
        (Rule.mk fields).ignoreCase items patterns)) ∧
    ∀ (fields' : Fields) (patterns' items' : List Value) (v' : Verdict),
      fields'.Asks .sequence "match_any" (.array patterns') →
      (Rule.mk fields').ignoreCase = (Rule.mk fields).ignoreCase →
      patterns.Perm patterns' → items.Perm items' →
      ((builtins engine limits).run checkId (.object fields') (.array items')).result = .ok v' →
      v'.outcome = v.outcome := by
  have hfirst := run_anyRule_outcome h hv
  refine ⟨hfirst, ?_⟩
  intro fields' patterns' items' v' h' hcase hpatterns hitems hv'
  have hsecond := run_anyRule_outcome h' hv'
  rw [hcase] at hsecond
  by_cases hsome : SomeSatisfies (builtins engine limits) checkId (Rule.mk fields).ignoreCase items
      patterns
  · rw [hfirst.1.2 hsome, hsecond.1.2 (hsome.of_perm hitems hpatterns)]
  · have hnone : ¬ SomeSatisfies (builtins engine limits) checkId (Rule.mk fields).ignoreCase items'
        patterns' := fun hsome' ↦ hsome (hsome'.of_perm hitems.symm hpatterns.symm)
    rw [hfirst.2.2 hsome, hsecond.2.2 hnone]

def cronOrSshd : Fields :=
  [(Rule.typeKey, .string "list"),
    ("match_any", .array [.string "cron", .object [("name", .string "sshd")]])]

def daemons : List Value :=
  [.string "ntpd", .object [("name", .string "sshd"), ("root", .bool true)]]

theorem run_cronOrSshd :
    cronOrSshd.Asks .sequence "match_any"
      (.array [.string "cron", .object [("name", .string "sshd")]]) ∧
    ∃ v, ((builtins Pattern.engine .default).run "check" (.object cronOrSshd)
      (.array daemons)).result = .ok v ∧ v.outcome = .passed ∧
      SomeSatisfies (builtins Pattern.engine .default) "check" false daemons
        [.string "cron", .object [("name", .string "sshd")]] := by
  have hasks : cronOrSshd.Asks .sequence "match_any"
      (.array [.string "cron", .object [("name", .string "sshd")]]) :=
    Fields.asks_written (by decide) (by decide) (by decide) _
  have hrun : ((builtins Pattern.engine .default).run "check" (.object cronOrSshd)
      (.array daemons)).result = .ok .checkPassed := rfl
  exact ⟨hasks, _, hrun, rfl, (run_anyRule hasks hrun).1.1.1 rfl⟩

theorem run_allRule_result {fields : Fields} {patterns : List Value}
    (h : fields.Asks .sequence "match_all" (.array patterns)) {items : List Value} {v : Verdict}
    (hv : ((builtins engine limits).run checkId (.object fields) (.array items)).result = .ok v) :
    (v = .checkPassed ∧ ∀ p ∈ patterns,
      Meets ((builtins engine limits).accepts checkId) (Rule.mk fields).ignoreCase items p) ∨
    ∃ p, FirstUnmet
      (Meets ((builtins engine limits).accepts checkId) (Rule.mk fields).ignoreCase items)
      patterns p ∧ v = .fail (unmetMessage limits.rendering (.array items) p) := by
  rw [run_result, evaluate_array h (parse_all h)] at hv
  exact compareAll_result (context_accepts (Nat.le_refl _) _) hv

/-- A rule with several required patterns passes, if it is answered, just where each of them has an
element, and otherwise names the first one that has none. The order of elements and patterns does
not decide. -/
theorem run_allRule {fields : Fields} {patterns : List Value}
    (h : fields.Asks .sequence "match_all" (.array patterns)) {items : List Value} {v : Verdict}
    (hv : ((builtins engine limits).run checkId (.object fields) (.array items)).result = .ok v) :
    ((v.outcome = .passed ↔ ∀ p ∈ patterns,
        Meets ((builtins engine limits).accepts checkId) (Rule.mk fields).ignoreCase items p) ∧
      (v.outcome = .failed ↔ ∃ p, FirstUnmet (Meets ((builtins engine limits).accepts checkId)
        (Rule.mk fields).ignoreCase items) patterns p ∧
          v.message = unmetMessage limits.rendering (.array items) p)) ∧
    ∀ (fields' : Fields) (patterns' items' : List Value) (v' : Verdict),
      fields'.Asks .sequence "match_all" (.array patterns') →
      (Rule.mk fields').ignoreCase = (Rule.mk fields).ignoreCase →
      patterns.Perm patterns' → items.Perm items' →
      ((builtins engine limits).run checkId (.object fields') (.array items')).result = .ok v' →
      v'.outcome = v.outcome := by
  have hfirst := run_allRule_result h hv
  refine ⟨outcome_of_met hfirst, ?_⟩
  intro fields' patterns' items' v' h' hcase hpatterns hitems hv'
  have hsecond := run_allRule_result h' hv'
  have hall : (∀ p ∈ patterns', Meets ((builtins engine limits).accepts checkId)
        (Rule.mk fields').ignoreCase items' p) ↔
      ∀ p ∈ patterns, Meets ((builtins engine limits).accepts checkId)
        (Rule.mk fields).ignoreCase items p := by
    simp only [Meets, hcase, hpatterns.mem_iff, hitems.mem_iff]
  rcases hfirst with ⟨rfl, hmet⟩ | ⟨p, hunmet, rfl⟩
  · rw [(outcome_of_met hsecond).1.2 (hall.2 hmet)]
    rfl
  · rcases hsecond with ⟨rfl, hmet⟩ | ⟨p', -, rfl⟩
    · exact absurd (hall.1 hmet) hunmet.not_forall
    · rfl

def sshdAndCron : Fields :=
  [(Rule.typeKey, .string "list"),
    ("match_all", .array [.string "sshd", .object [("name", .string "cron")]])]

def onlySshd : List Value := [.object [("name", .string "ntpd")], .string "sshd"]

theorem run_sshdAndCron :
    sshdAndCron.Asks .sequence "match_all"
      (.array [.string "sshd", .object [("name", .string "cron")]]) ∧
    ∃ v, ((builtins Pattern.engine .default).run "check" (.object sshdAndCron)
      (.array onlySshd)).result = .ok v ∧
      v.outcome = .failed ∧ ∃ p,
        FirstUnmet (Meets ((builtins Pattern.engine .default).accepts "check") false onlySshd)
          [.string "sshd", .object [("name", .string "cron")]] p ∧
          v.message = unmetMessage 2048 (.array onlySshd) p := by
  have hasks : sshdAndCron.Asks .sequence "match_all"
      (.array [.string "sshd", .object [("name", .string "cron")]]) :=
    Fields.asks_written (by decide) (by decide) (by decide) _
  have hrun : ((builtins Pattern.engine .default).run "check" (.object sshdAndCron)
      (.array onlySshd)).result =
        .ok (.fail (unmetMessage 2048 (.array onlySshd) (.object [("name", .string "cron")]))) :=
    rfl
  exact ⟨hasks, _, hrun, rfl, (run_allRule hasks hrun).1.2.1 rfl⟩

end Registry

end AuditRules
