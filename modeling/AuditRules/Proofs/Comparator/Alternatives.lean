import AuditRules.Proofs.Comparator.Mapping
import AuditRules.Proofs.Comparator.Reading
import AuditRules.Proofs.Comparator.Satisfies

namespace AuditRules

variable {engine : PatternEngine}

/-- The first answer that is no failure, or a failure if there is none. -/
def disjunction : List (Except RuleError Outcome) → Except RuleError Outcome
  | [] => .ok .failed
  | .ok .failed :: rest => disjunction rest
  | first :: _ => first

/-- The error, whatever mode of a rule it is about. -/
def RuleError.modeless : RuleError → RuleError
  | .invalidRule comparator _ reason => .invalidRule comparator "" reason
  | e => e

/-- The outcome, whatever is said of it, or the error, whatever mode it is about. -/
def Evaluation.answer (x : Evaluation Verdict) : Except RuleError Outcome :=
  (x.result.map Verdict.outcome).mapError RuleError.modeless

theorem disjunction_failed {xs : List (Except RuleError Outcome)} (h : ∀ x ∈ xs, x = .ok .failed) :
    disjunction xs = .ok .failed := by
  induction xs with
  | nil => rfl
  | cons x xs ih =>
    rw [h x List.mem_cons_self]
    exact ih fun y hy ↦ h y (List.mem_cons_of_mem x hy)

theorem mapError_disjunction (f : RuleError → RuleError) (xs : List (Except RuleError Outcome)) :
    (disjunction xs).mapError f = disjunction (xs.map (·.mapError f)) := by
  induction xs with
  | nil => rfl
  | cons x xs ih =>
    cases x with
    | error e => rfl
    | ok outcome =>
      cases outcome with
      | failed => exact ih
      | passed => rfl
      | notApplicable => rfl

def Outcome.ofFound (found : Bool) : Outcome := if found then .passed else .failed

/-- A search in a list is the disjunction of the searches for its elements. -/
theorem map_anyM {α : Type} (p : α → Except RuleError Bool) (xs : List α) :
    (xs.anyM p).map Outcome.ofFound = disjunction (xs.map fun x ↦ (p x).map Outcome.ofFound) := by
  induction xs with
  | nil => rfl
  | cons x xs ih =>
    rw [List.map_cons, List.anyM]
    cases p x with
    | error e => rfl
    | ok found =>
      cases found with
      | true => rfl
      | false => exact ih

theorem Evaluation.result_anyM {α : Type} (p : α → Evaluation Bool) (xs : List α) :
    (xs.anyM p).result = xs.anyM fun x ↦ (p x).result := by
  induction xs with
  | nil => rfl
  | cons x xs ih =>
    rw [List.anyM, List.anyM]
    cases hx : (p x).result with
    | error e => exact result_bind_error hx _
    | ok found =>
      rw [result_bind_ok hx]
      cases found with
      | true => rfl
      | false => exact ih

theorem Evaluation.outcome_ofBool (x : Evaluation Bool) (message : String) :
    (do return .ofBool (← x) message : Evaluation Verdict).result.map Verdict.outcome =
      x.result.map Outcome.ofFound := by
  cases hx : x.result with
  | error e => rw [result_bind_error hx]; rfl
  | ok found =>
    rw [result_bind_ok hx]
    exact congrArg Except.ok (Verdict.outcome_ofBool found message)

theorem Reading.answer_ofAlternatives {concerns : Value → Bool}
    {test : Value → Except RuleError (Value → Bool)} (cs : List Value) (v : Value) :
    (ofAlternatives concerns test cs).answer v =
      disjunction (cs.map fun c ↦ (ofAlternatives concerns test [c]).answer v) := by
  unfold answer
  simp only [ofAlternatives_concerns]
  cases concerns v with
  | false =>
    refine (disjunction_failed fun x hx ↦ ?_).symm
    obtain ⟨c, -, rfl⟩ := List.mem_map.1 hx
    rfl
  | true =>
    simp only [if_true, search_single]
    rw [← anyM_eq_search]
    exact map_anyM _ cs

theorem Reading.evaluations_disjunction {concerns : Value → Bool}
    {test : Value → Except RuleError (Value → Bool)} {cs : List Value} {v : Value}
    {all : Evaluation Verdict} {each : Value → Evaluation Verdict}
    (hall : all.result.map Verdict.outcome = (ofAlternatives concerns test cs).answer v)
    (heach : ∀ c ∈ cs, (each c).answer =
      ((ofAlternatives concerns test [c]).answer v).mapError RuleError.modeless) :
    all.answer = disjunction (cs.map fun c ↦ (each c).answer) := by
  rw [Evaluation.answer, hall, answer_ofAlternatives, mapError_disjunction, List.map_map,
    List.map_congr_left heach]
  rfl

namespace NumberRule

theorem compare_any_answer {fields : Fields} {candidates : List Value}
    (h : fields.Asks .number Mode.any.key (.array candidates)) {single : Value → Fields}
    (hsingle : ∀ p ∈ candidates, (single p).Asks .number Mode.one.key p) (ctx : Context)
    (actual : Value) : (compare ctx ⟨fields⟩ actual).answer =
      disjunction (candidates.map fun p ↦ (compare ctx ⟨single p⟩ actual).answer) := by
  have hone : ∀ p ∈ candidates, (compare ctx ⟨single p⟩ actual).answer =
      ((reading .one p).answer actual).mapError RuleError.modeless :=
    fun p hp ↦ congrArg _ (result_asks .one (hsingle p hp) ctx actual)
  exact Reading.evaluations_disjunction (result_asks .any h ctx actual) hone

end NumberRule

namespace TextRule

theorem answer_candidate (ignoreCase : Bool) (p actual : Value) :
    ((Reading.ofAlternatives concerns (test engine .any ignoreCase) [p]).answer actual).mapError
        RuleError.modeless =
      ((reading engine .equal ignoreCase p).answer actual).mapError RuleError.modeless := by
  have hreading : reading engine .equal ignoreCase p =
      .ofAlternatives concerns (test engine .equal ignoreCase) [p] := rfl
  rw [hreading]
  unfold Reading.answer
  simp only [Reading.ofAlternatives_concerns, Reading.search_single, test, condition, expectedText]
  cases concerns actual <;> cases p.toText? <;> rfl

theorem compare_any_answer {fields : Fields} {candidates : List Value}
    (h : fields.Asks (.text engine) Mode.any.key (.array candidates)) {single : Value → Fields}
    (hsingle : ∀ p ∈ candidates, (single p).Asks (.text engine) Mode.equal.key p)
    (hcase : ∀ p ∈ candidates, (Rule.mk (single p)).ignoreCase = (Rule.mk fields).ignoreCase)
    (ctx : Context) (actual : Value) : (compare engine ctx ⟨fields⟩ actual).answer =
      disjunction (candidates.map fun p ↦ (compare engine ctx ⟨single p⟩ actual).answer) := by
  have hone : ∀ p ∈ candidates, (compare engine ctx ⟨single p⟩ actual).answer =
      ((Reading.ofAlternatives concerns (test engine .any (Rule.mk fields).ignoreCase) [p]).answer
        actual).mapError RuleError.modeless := by
    intro p hp
    rw [answer_candidate, ← hcase p hp, ← result_asks .equal (hsingle p hp) ctx actual]
    rfl
  exact Reading.evaluations_disjunction (result_asks .any h ctx actual) hone

end TextRule

namespace MappingRule

theorem answer_candidate (ctx : Context) (ignoreCase : Bool) (p actual : Value) (xs : Fields) :
    (((do return (← mismatch? ctx ignoreCase (← expectedMapping .any p) xs).isNone :
      Evaluation Bool).result.map Outcome.ofFound).mapError RuleError.modeless) =
      (compareFields ctx .entries ignoreCase p actual xs).answer := by
  cases p with
  | null | bool | number | string | array => rfl
  | object pattern =>
    rw [compareFields, expectedMapping, expectedMapping, Evaluation.liftM_ok_bind,
      Evaluation.liftM_ok_bind, Evaluation.answer]
    cases hreason : (mismatch? ctx ignoreCase pattern xs).result with
    | error e =>
      rw [Evaluation.result_bind_error hreason, Evaluation.result_bind_error hreason]
      rfl
    | ok reason =>
      rw [Evaluation.result_bind_ok hreason, Evaluation.result_bind_ok hreason]
      cases reason <;> rfl

theorem compareFields_any_answer (ctx : Context) (ignoreCase : Bool) (candidates : List Value)
    (actual : Value) (xs : Fields) :
    (compareFields ctx .any ignoreCase (.array candidates) actual xs).answer =
      disjunction (candidates.map fun p ↦
        (compareFields ctx .entries ignoreCase p actual xs).answer) := by
  have hcandidate : ∀ p ∈ candidates, (compareFields ctx .entries ignoreCase p actual xs).answer =
      (((do return (← mismatch? ctx ignoreCase (← expectedMapping .any p) xs).isNone :
        Evaluation Bool).result.map Outcome.ofFound).mapError RuleError.modeless) :=
    fun p _ ↦ (answer_candidate ctx ignoreCase p actual xs).symm
  have hsearch : (compareFields ctx .any ignoreCase (.array candidates) actual xs).result.map
      Verdict.outcome = (candidates.anyM fun p ↦
        (do return (← mismatch? ctx ignoreCase (← expectedMapping .any p) xs).isNone :
          Evaluation Bool).result).map Outcome.ofFound := by
    rw [← Evaluation.result_anyM, compareFields, expectedMappings, Evaluation.liftM_ok_bind]
    exact Evaluation.outcome_ofBool _ _
  rw [Evaluation.answer, hsearch, map_anyM, mapError_disjunction, List.map_map,
    List.map_congr_left hcandidate]
  rfl

theorem compare_scalar_answer {mode : Mode} {fields : Fields} {expected v : Value}
    (h : fields.Asks .mapping mode.key expected) (hv : v.isObject = false) (ctx : Context) :
    (compare ctx ⟨fields⟩ v).answer = .ok .failed := by
  obtain ⟨message, hresult⟩ := compare_scalar h hv ctx
  rw [Evaluation.answer, hresult]
  rfl

theorem compare_any_answer {fields : Fields} {candidates : List Value}
    (h : fields.Asks .mapping Mode.any.key (.array candidates)) {single : Value → Fields}
    (hsingle : ∀ p ∈ candidates, (single p).Asks .mapping Mode.entries.key p)
    (hcase : ∀ p ∈ candidates, (Rule.mk (single p)).ignoreCase = (Rule.mk fields).ignoreCase)
    (ctx : Context) (actual : Value) : (compare ctx ⟨fields⟩ actual).answer =
      disjunction (candidates.map fun p ↦ (compare ctx ⟨single p⟩ actual).answer) := by
  cases actual with
  | object xs =>
    have hone : ∀ p ∈ candidates, (compare ctx ⟨single p⟩ (.object xs)).answer =
        (compareFields ctx .entries (Rule.mk fields).ignoreCase p (.object xs) xs).answer := by
      intro p hp
      rw [Evaluation.answer, compare_object (hsingle p hp), hcase p hp]
      rfl
    rw [List.map_congr_left hone, ← compareFields_any_answer, Evaluation.answer, compare_object h]
    rfl
  | null | bool | number | string | array =>
    rw [compare_scalar_answer h rfl]
    refine (disjunction_failed fun x hx ↦ ?_).symm
    obtain ⟨p, hp, rfl⟩ := List.mem_map.1 hx
    exact compare_scalar_answer (hsingle p hp) rfl ctx

end MappingRule

namespace Registry

/-- A rule with a list of candidates answers as the first of the rules with one of them does that
does not fail, and fails if all of them do. -/
theorem run_anyRule_answer (limits : Limits) (checkId : String) {c : Comparator}
    (hc : c = .number ∨ c = .text engine ∨ c = .mapping) {fields : Fields} {candidates : List Value}
    (h : fields.Asks c "match_any" (.array candidates)) {single : Value → Fields}
    (hsingle : ∀ p ∈ candidates, (single p).Asks c "match" p)
    (hcase : ∀ p ∈ candidates, (Rule.mk (single p)).ignoreCase = (Rule.mk fields).ignoreCase)
    (actual : Value) : ((builtins engine limits).run checkId (.object fields) actual).answer =
      disjunction (candidates.map fun p ↦
        ((builtins engine limits).run checkId (.object (single p)) actual).answer) := by
  have hbuiltin : c ∈ builtin engine := by rcases hc with rfl | rfl | rfl <;> simp [builtin]
  have hrun : ∀ {written : Fields} {mode : String} {payload : Value}, written.Asks c mode payload →
      ((builtins engine limits).run checkId (.object written) actual).answer =
        (c.compare ((builtins engine limits).context checkId limits.nesting) ⟨written⟩
          actual).answer := by
    intro written mode payload hasks
    rw [Evaluation.answer, run_result, evaluate_asks hasks hbuiltin]
    rfl
  rw [hrun h, List.map_congr_left fun p hp ↦ hrun (hsingle p hp)]
  rcases hc with rfl | rfl | rfl
  · exact NumberRule.compare_any_answer h hsingle _ actual
  · exact TextRule.compare_any_answer h hsingle hcase _ actual
  · exact MappingRule.compare_any_answer h hsingle hcase _ actual

def owners : List Value := [.string "root", .array [], .string "wheel"]

def ownersRule : Fields :=
  [(Rule.typeKey, .string "string"), ("match_any", .array owners), (Rule.ignoreCaseKey, .bool true)]

def ownerRule (owner : Value) : Fields :=
  [(Rule.typeKey, .string "string"), ("match", owner), (Rule.ignoreCaseKey, .bool true)]

theorem run_ownersRule : ownersRule.Asks (.text Pattern.engine) "match_any" (.array owners) ∧
    (∀ p ∈ owners, (ownerRule p).Asks (.text Pattern.engine) "match" p) ∧
    (∀ p ∈ owners, (Rule.mk (ownerRule p)).ignoreCase = (Rule.mk ownersRule).ignoreCase) ∧
    (∀ actual, ((builtins Pattern.engine .default).run "check" (.object ownersRule) actual).answer =
      disjunction (owners.map fun p ↦
        ((builtins Pattern.engine .default).run "check" (.object (ownerRule p)) actual).answer)) ∧
    ((builtins Pattern.engine .default).run "check" (.object ownersRule) (.string "wheel")).answer =
      .error (.invalidRule "string" "" "expected a string, got []") := by
  have hany : ownersRule.Asks (.text Pattern.engine) "match_any" (.array owners) :=
    Fields.asks_written (by decide) (by decide) (by decide) (.array owners)
  have hsingle : ∀ p ∈ owners, (ownerRule p).Asks (.text Pattern.engine) "match" p :=
    fun p _ ↦ Fields.asks_written (by decide) (by decide) (by decide) p
  have hcase : ∀ p ∈ owners,
      (Rule.mk (ownerRule p)).ignoreCase = (Rule.mk ownersRule).ignoreCase := fun _ _ ↦ rfl
  have hrun := run_anyRule_answer .default "check" (.inr (.inl rfl)) hany hsingle hcase
  refine ⟨hany, hsingle, hcase, hrun, ?_⟩
  rw [hrun]
  rfl

end Registry

end AuditRules
