import AuditRules.Proofs.Comparator.Mapping
import AuditRules.Proofs.Registry.Satisfies
import AuditRules.Proofs.Value.Whole

namespace AuditRules

open Evaluation (ErrsOnly)

variable {engine : PatternEngine}

theorem Verdict.Decided.outcome_iff {v : Verdict} {P : Prop} (h : v.Decided)
    (hP : v.passed = true ↔ P) : (v.outcome = .passed ↔ P) ∧ (v.outcome = .failed ↔ ¬ P) := by
  rw [← hP, Verdict.passed]
  cases houtcome : v.outcome with
  | passed | failed => simp
  | notApplicable => exact absurd houtcome h

namespace SequenceRule

variable {item pattern : Value} {i : Int}

theorem toWhole?_of_shape (h : item.shape = .whole i) : item.toWhole? = some i := by
  unfold Value.shape at h
  split at h
  · rename_i hwhole
    rwa [← Shape.whole.inj h]
  · cases h
  · cases h

theorem untyped_of_readable (h : (NumberExpression.parse pattern).isOk = true) :
    pattern.nestedRule? = none ∧ pattern.isObject = false := by
  cases pattern with
  | number | string => exact ⟨rfl, rfl⟩
  | null | bool | array | object => cases h

/-- Equality with an expression adds nothing to what the expression says of an integer. -/
theorem satisfies_readable_iff (accepts : Value → Value → Bool) (hitem : item.shape = .whole i)
    (hread : (NumberExpression.parse pattern).isOk = true) :
    Satisfies accepts false item pattern ↔ HoldsOf i pattern := by
  obtain ⟨hrule, hobject⟩ := untyped_of_readable hread
  simp only [Satisfies, hitem, ScalarSatisfies, hrule, hobject, true_and]
  constructor
  · rintro (hholds | hequal)
    · exact hholds
    · rw [Value.equalFolded_false] at hequal
      exact Value.holds_of_equal (toWhole?_of_shape hitem) hequal
  · exact .inl

theorem scalarSatisfies_readable (ctx : Context) (ignoreCase : Bool)
    (hread : (NumberExpression.parse pattern).isOk = true) :
    scalarSatisfies ctx ignoreCase item pattern = pure (item.equalFolded ignoreCase pattern) := by
  obtain ⟨hrule, hobject⟩ := untyped_of_readable hread
  simp [scalarSatisfies, hrule, hobject]

end SequenceRule

namespace Registry

open SequenceRule

variable {limits : Limits} {checkId : String} {patterns : List Value} {item : Value} {i : Int}

theorem expressionsPass_answered (n : Nat) (patterns : List Value) (i : Int) :
    ErrsOnly (fun _ ↦ False)
      (expressionsPass ((builtins engine limits).context checkId (n + 1)) patterns i) := by
  unfold expressionsPass
  dsimp only
  split
  · exact trivial
  · have hread : ∀ e ∈ patterns.filter fun p ↦ (NumberExpression.parse p).isOk,
        (NumberExpression.parse e).isOk = true := fun e he ↦ (List.mem_filter.1 he).2
    obtain ⟨passed, hpassed, -⟩ := passesNumber_readable _ i hread
    exact .of_ok hpassed trivial

theorem itemSatisfiesAny_answered (n : Nat) (hitem : item.shape = .whole i)
    (hread : ∀ p ∈ patterns, (NumberExpression.parse p).isOk = true) (ignoreCase : Bool) :
    ErrsOnly (fun _ ↦ False) (itemSatisfiesAny ((builtins engine limits).context checkId (n + 1))
      ignoreCase patterns item) := by
  rw [itemSatisfiesAny_eq, hitem]
  apply (expressionsPass_answered n patterns i).bind
  intro passed _
  cases passed with
  | true => exact trivial
  | false =>
    apply Evaluation.Ensures.anyM
    intro p hp
    rw [scalarSatisfies_readable _ _ (hread p hp)]
    exact trivial

theorem run_anyRule_whole {any : Fields} (hl : 0 < limits.nesting) (hitem : item.shape = .whole i)
    (hread : ∀ p ∈ patterns, (NumberExpression.parse p).isOk = true)
    (hany : any.Asks .sequence "match_any" (.array patterns))
    (hcase : (Rule.mk any).ignoreCase = false) (checkId : String) :
    ∃ v, ((builtins engine limits).run checkId (.object any) (.array [item])).result = .ok v ∧
      (v.outcome = .passed ↔ ∃ p ∈ patterns, HoldsOf i p) ∧
      (v.outcome = .failed ↔ ¬ ∃ p ∈ patterns, HoldsOf i p) := by
  obtain ⟨n, hn⟩ := Nat.exists_eq_add_one_of_ne_zero (Nat.ne_of_gt hl)
  have hanswered : ErrsOnly (fun _ ↦ False)
      (compareAny ((builtins engine limits).context checkId limits.nesting) (Rule.mk any).ignoreCase
        patterns (.array [item]) [item]) := by
    rw [hn]
    refine .bind (.anyM ?_) fun _ _ ↦ trivial
    intro item' hmem
    obtain rfl := List.mem_singleton.1 hmem
    exact itemSatisfiesAny_answered n hitem hread _
  have hrun : ((builtins engine limits).run checkId (.object any) (.array [item])).result =
      (compareAny ((builtins engine limits).context checkId limits.nesting) (Rule.mk any).ignoreCase
        patterns (.array [item]) [item]).result :=
    evaluate_array hany (parse_any hany) limits checkId limits.nesting [item]
  cases hv : ((builtins engine limits).run checkId (.object any) (.array [item])).result with
  | error e => exact (hanswered.allows (hrun.symm.trans hv)).elim
  | ok v =>
    have houtcome := run_anyRule_outcome hany hv
    have hsome :
        SomeSatisfies (builtins engine limits) checkId (Rule.mk any).ignoreCase [item] patterns ↔
          ∃ p ∈ patterns, HoldsOf i p := by
      simp only [SomeSatisfies, List.mem_singleton, exists_eq_left, hcase]
      apply exists_congr
      intro p
      exact and_congr_right fun hp ↦ satisfies_readable_iff _ hitem (hread p hp)
    rw [hsome] at houtcome
    exact ⟨v, rfl, houtcome⟩

theorem run_numberRule_whole {number : Fields} (hitem : item.shape = .whole i)
    (hread : ∀ p ∈ patterns, (NumberExpression.parse p).isOk = true)
    (hnumber : number.Asks .number "match_any" (.array patterns)) (limits : Limits)
    (checkId : String) :
    ∃ w, ((builtins engine limits).run checkId (.object number) item).result = .ok w ∧
      (w.outcome = .passed ↔ ∃ p ∈ patterns, HoldsOf i p) ∧
      (w.outcome = .failed ↔ ¬ ∃ p ∈ patterns, HoldsOf i p) := by
  obtain ⟨x, hx, hequal⟩ := Value.toQuantity?_of_toWhole? (toWhole?_of_shape hitem)
  have hmem : Comparator.number ∈ builtin engine := by simp [builtin]
  have hrun := evaluate_asks hnumber hmem limits checkId limits.nesting item
  obtain ⟨w, hw, hpassed⟩ := NumberRule.compare_readable hnumber hread
    ((builtins engine limits).context checkId limits.nesting) hx
  simp only [NumberExpression.holds_congr hequal] at hpassed
  have hdecided := (NumberRule.compare_decided _ _ item).accepts hw
  exact ⟨w, (congrArg Evaluation.result hrun).trans hw, hdecided.outcome_iff hpassed⟩

/-- An element that holds an integer, alone in a list, has the same outcome under number expressions
as in a rule on numbers. -/
theorem run_wholeElement {any number : Fields} (hl : 0 < limits.nesting)
    (hitem : item.shape = .whole i)
    (hread : ∀ p ∈ patterns, (NumberExpression.parse p).isOk = true)
    (hany : any.Asks .sequence "match_any" (.array patterns))
    (hcase : (Rule.mk any).ignoreCase = false)
    (hnumber : number.Asks .number "match_any" (.array patterns)) (checkId : String) :
    ∃ v w, ((builtins engine limits).run checkId (.object any) (.array [item])).result = .ok v ∧
      ((builtins engine limits).run checkId (.object number) item).result = .ok w ∧
      v.outcome = w.outcome := by
  obtain ⟨v, hv, hpassed, hfailed⟩ := run_anyRule_whole hl hitem hread hany hcase checkId
  obtain ⟨w, hw, hpassed', hfailed'⟩ := run_numberRule_whole hitem hread hnumber limits checkId
  refine ⟨v, w, hv, hw, ?_⟩
  by_cases hsome : ∃ p ∈ patterns, HoldsOf i p
  · rw [hpassed.2 hsome, hpassed'.2 hsome]
  · rw [hfailed.2 hsome, hfailed'.2 hsome]

def processId : Value := .string " 9007199254740993 "

def processIds : Value := .array [.string "< 1024", .string "9007199254740992"]

def processRule (tag : String) : Fields := [(Rule.typeKey, .string tag), ("match_any", processIds)]

theorem run_processId :
    0 < Limits.default.nesting ∧ processId.shape = .whole 9007199254740993 ∧
    (∀ p ∈ [Value.string "< 1024", .string "9007199254740992"],
      (NumberExpression.parse p).isOk = true) ∧
    (processRule "list").Asks .sequence "match_any" processIds ∧
    (Rule.mk (processRule "list")).ignoreCase = false ∧
    (processRule "number").Asks .number "match_any" processIds ∧
    ∃ v w, ((builtins Pattern.engine .default).run "check" (.object (processRule "list"))
        (.array [processId])).result = .ok v ∧
      ((builtins Pattern.engine .default).run "check" (.object (processRule "number"))
        processId).result = .ok w ∧ v.outcome = w.outcome := by
  have hl : 0 < Limits.default.nesting := by decide
  have hitem : processId.shape = .whole 9007199254740993 := rfl
  have hread : ∀ p ∈ [Value.string "< 1024", .string "9007199254740992"],
      (NumberExpression.parse p).isOk = true := by decide +kernel
  have hany : (processRule "list").Asks .sequence "match_any" processIds :=
    Fields.asks_written (by decide) (by decide) (by decide) _
  have hnumber : (processRule "number").Asks .number "match_any" processIds :=
    Fields.asks_written (by decide) (by decide) (by decide) _
  exact ⟨hl, hitem, hread, hany, rfl, hnumber,
    run_wholeElement hl hitem hread hany rfl hnumber "check"⟩

end Registry

end AuditRules
