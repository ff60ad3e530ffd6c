import AuditRules.Proofs.Comparator

namespace AuditRules

variable {engine : PatternEngine}

/-- What a rule asks of the values that it concerns: tests that are tried in turn, and the fault, if
there is one, at which reading stopped. -/
structure Reading where
  concerns : Value → Bool
  tests : List (Value → Bool)
  fault : Option RuleError

namespace Reading

/-- Whether a value passes one of the tests. A fault shows only where it passes none. -/
def search (r : Reading) (v : Value) : Except RuleError Bool :=
  if r.tests.any (· v) then .ok true
  else
    match r.fault with
    | some e => .error e
    | none => .ok false

def answer (r : Reading) (v : Value) : Except RuleError Outcome :=
  if r.concerns v then (r.search v).map fun found ↦ if found then .passed else .failed
  else .ok .failed

def ofAlternatives (concerns : Value → Bool) (test : Value → Except RuleError (Value → Bool)) :
    List Value → Reading
  | [] => ⟨concerns, [], none⟩
  | c :: cs =>
    match test c with
    | .ok t => { ofAlternatives concerns test cs with
        tests := t :: (ofAlternatives concerns test cs).tests }
    | .error e => ⟨concerns, [], some e⟩

variable {concerns : Value → Bool} {test : Value → Except RuleError (Value → Bool)}

theorem ofAlternatives_concerns (cs : List Value) :
    (ofAlternatives concerns test cs).concerns = concerns := by
  induction cs with
  | nil => rfl
  | cons c cs ih =>
    rw [ofAlternatives]
    cases test c with
    | ok t => exact ih
    | error e => rfl

/-- Alternatives tried one by one, each as it is read, answer as their reading does. -/
theorem anyM_eq_search (v : Value) (cs : List Value) :
    (cs.anyM fun c ↦ do return (← test c) v) = (ofAlternatives concerns test cs).search v := by
  induction cs with
  | nil => rfl
  | cons c cs ih =>
    rw [List.anyM, ofAlternatives]
    cases test c with
    | error e => rfl
    | ok t =>
      -- A test that passes ends the search on both sides; otherwise the rest decides.
      have hstep : (do return (← (Except.ok t : Except RuleError _)) v) = .ok (t v) := rfl
      rw [hstep]
      cases ht : t v with
      | true =>
        simp [search, ht]
        rfl
      | false =>
        simp only [search, ht, List.any_cons, Bool.false_or] at ih ⊢
        exact ih

theorem search_single (c v : Value) :
    (ofAlternatives concerns test [c]).search v = (do return (← test c) v) := by
  rw [ofAlternatives]
  cases test c with
  | error e => rfl
  | ok t =>
    cases ht : t v <;>
      simp [search, ofAlternatives, ht, bind, Except.bind, pure, Except.pure]

def passes (r : Reading) (v : Value) : Bool := r.concerns v && r.tests.any (· v)

def exhausts (r : Reading) (v : Value) : Bool := r.concerns v && !r.tests.any (· v)

theorem answer_exhausted {r : Reading} {e : RuleError} (hfault : r.fault = some e) {v : Value}
    (h : r.exhausts v = true) : r.answer v = .error e := by
  obtain ⟨hconcerns, hnone⟩ := Bool.and_eq_true_iff.1 h
  have hany : r.tests.any (· v) = false := by simpa only [Bool.not_eq_true'] using hnone
  simp only [answer, hconcerns, if_true, search, hany, hfault, Bool.false_eq_true, if_false]
  rfl

theorem answer_decided {r : Reading} {v : Value} (h : r.fault = none ∨ r.exhausts v = false) :
    r.answer v = .ok (if r.passes v then .passed else .failed) := by
  unfold answer search passes
  cases hconcerns : r.concerns v with
  | false => rfl
  | true =>
    cases hany : r.tests.any (· v) with
    | true => rfl
    | false =>
      have hfault : r.fault = none := by simpa [exhausts, hconcerns, hany] using h
      rw [hfault]
      rfl

theorem ofAlternatives_readable {cs : List Value} (h : ∀ c ∈ cs, ∃ t, test c = .ok t) :
    (ofAlternatives concerns test cs).fault = none ∧
    ∀ v, (ofAlternatives concerns test cs).tests.any (· v) = true ↔
      ∃ c ∈ cs, ∃ t, test c = .ok t ∧ t v = true := by
  induction cs with
  | nil => simp [ofAlternatives]
  | cons c cs ih =>
    obtain ⟨t, ht⟩ := h c List.mem_cons_self
    obtain ⟨hfault, htests⟩ := ih fun c' hc' ↦ h c' (List.mem_cons_of_mem c hc')
    rw [ofAlternatives, ht]
    refine ⟨hfault, ?_⟩
    intro v
    have hhead : (∃ t', test c = .ok t' ∧ t' v = true) ↔ t v = true := by simp [ht]
    simp only [List.any_cons, Bool.or_eq_true, htests v, List.mem_cons, exists_eq_or_imp, hhead]

end Reading

theorem Verdict.outcome_ofBool (passed : Bool) (failure : String) :
    (ofBool passed failure).outcome = if passed then .passed else .failed := by
  cases passed <;> rfl

namespace NumberRule

def concerns (v : Value) : Bool := v.toQuantity?.isSome

def test (candidate : Value) : Except RuleError (Value → Bool) := do
  let expression ← NumberExpression.parse candidate
  return fun v ↦ v.toQuantity?.any expression.holds

def reading : Mode → Value → Reading
  | .one, expected => .ofAlternatives concerns test [expected]
  | .any, .array candidates => .ofAlternatives concerns test candidates
  | .any, _ =>
    ⟨concerns, [], some (.invalidRule comparator Mode.any.key "expected a list of expressions")⟩

def read (rule : Rule) : Except RuleError Reading := do
  let (mode, expected) ← rule.select comparator modes
  return reading mode expected

theorem reading_concerns (mode : Mode) (expected : Value) :
    (reading mode expected).concerns = concerns := by
  cases mode with
  | one => exact Reading.ofAlternatives_concerns _
  | any =>
    cases expected with
    | array candidates => exact Reading.ofAlternatives_concerns _
    | null | bool | number | string | object => rfl

theorem test_eq {v : Value} {q : Quantity} (hq : v.toQuantity? = some q) (c : Value) :
    (do return (← test c) v : Except RuleError Bool) =
      (do return (← NumberExpression.parse c).holds q) := by
  unfold test
  cases NumberExpression.parse c with
  | ok e => simp [hq, bind, Except.bind, pure, Except.pure]
  | error e => rfl

theorem compareOne_outcome {v : Value} {q : Quantity} (hq : v.toQuantity? = some q) (site : Site)
    (expected : Value) : (compareOne site expected v q).map Verdict.outcome =
      ((reading .one expected).search v).map fun found ↦ if found then .passed else .failed := by
  rw [reading, Reading.search_single, test_eq hq, compareOne]
  cases NumberExpression.parse expected with
  | error e => rfl
  | ok e => exact congrArg Except.ok (Verdict.outcome_ofBool _ _)

theorem compareAny_outcome {v : Value} {q : Quantity} (hq : v.toQuantity? = some q) (site : Site)
    (expected : Value) : (compareAny site expected v q).map Verdict.outcome =
      ((reading .any expected).search v).map fun found ↦ if found then .passed else .failed := by
  cases expected with
  | array candidates =>
    rw [reading, ← Reading.anyM_eq_search, funext (test_eq hq), compareAny]
    cases (candidates.anyM fun c ↦ do return (← NumberExpression.parse c).holds q :
      Except RuleError Bool) with
    | error e => rfl
    | ok found => exact congrArg Except.ok (Verdict.outcome_ofBool _ _)
  | null | bool | number | string | object => rfl

theorem compare_outcome (ctx : Context) (rule : Rule) (actual : Value) :
    (compare ctx rule actual).result.map Verdict.outcome =
      read rule >>= fun r ↦ r.answer actual := by
  rw [compare, read]
  cases rule.select comparator modes with
  | error e => rfl
  | ok found =>
    obtain ⟨mode, expected⟩ := found
    have hread : (do
        let (mode, expected) ← (.ok (mode, expected) : Except RuleError (Mode × Value))
        return reading mode expected) = .ok (reading mode expected) := rfl
    rw [hread, Evaluation.liftM_ok_bind, Evaluation.result_bind_ok rfl]
    change _ = (reading mode expected).answer actual
    rw [Reading.answer, reading_concerns, concerns]
    cases hq : actual.toQuantity? with
    | none => rfl
    | some q =>
      cases mode with
      | one => exact compareOne_outcome hq ctx.toSite expected
      | any => exact compareAny_outcome hq ctx.toSite expected

theorem result_asks {fields : Fields} {payload : Value} (mode : Mode)
    (h : fields.Asks .number mode.key payload) (ctx : Context) (actual : Value) :
    (compare ctx ⟨fields⟩ actual).result.map Verdict.outcome =
      (reading mode payload).answer actual := by
  rw [compare_outcome, read, select_asks mode h]
  rfl

theorem exists_test {v : Value} {q : Quantity} (hq : v.toQuantity? = some q) (c : Value) :
    (∃ t, test c = .ok t ∧ t v = true) ↔
      ∃ e, NumberExpression.parse c = .ok e ∧ e.holds q = true := by
  unfold test
  cases NumberExpression.parse c with
  | ok e => simp [hq, bind, Except.bind, pure, Except.pure]
  | error e => simp [bind, Except.bind]

theorem compare_readable {fields : Fields} {expressions : List Value}
    (h : fields.Asks .number Mode.any.key (.array expressions))
    (hread : ∀ c ∈ expressions, (NumberExpression.parse c).isOk = true) (ctx : Context)
    {actual : Value} {q : Quantity} (hq : actual.toQuantity? = some q) :
    ∃ v, (compare ctx ⟨fields⟩ actual).result = .ok v ∧
      (v.passed = true ↔ ∃ c ∈ expressions, ∃ e, NumberExpression.parse c = .ok e ∧
        e.holds q = true) := by
  let r := reading .any (.array expressions)
  have htest : ∀ c ∈ expressions, ∃ t, test c = .ok t := by
    intro c hc
    obtain ⟨e, he⟩ := isOk_iff.1 (hread c hc)
    rw [test, he]
    exact ⟨_, rfl⟩
  have hreadable : r.fault = none ∧ ∀ v, r.tests.any (· v) = true ↔
      ∃ c ∈ expressions, ∃ t, test c = .ok t ∧ t v = true :=
    Reading.ofAlternatives_readable htest
  obtain ⟨hfault, htests⟩ := hreadable
  have hanswer : (compare ctx ⟨fields⟩ actual).result.map Verdict.outcome =
      .ok (if r.passes actual then .passed else .failed) := by
    rw [result_asks .any h]
    exact Reading.answer_decided (.inl hfault)
  obtain ⟨v, hv, houtcome⟩ := map_eq_ok_iff.1 hanswer
  have hconcerns : r.concerns actual = true := by
    rw [reading_concerns, concerns, hq]
    rfl
  have hpasses : v.passed = r.tests.any (· actual) := by
    rw [Verdict.passed, houtcome, Reading.passes, hconcerns, Bool.true_and]
    cases r.tests.any (· actual) <;> rfl
  refine ⟨v, hv, ?_⟩
  rw [hpasses, htests]
  simp only [exists_test hq]

end NumberRule

namespace TextRule

def concerns (v : Value) : Bool := v.toText?.isSome

def patternMatch (engine : PatternEngine) (ignoreCase : Bool) (pattern : String) :
    Except RuleError (String → Bool) :=
  match engine ignoreCase pattern with
  | .ok isMatch => .ok isMatch
  | .error reason => .error (.invalidPattern pattern reason)

def condition (engine : PatternEngine) (mode : Mode) (ignoreCase : Bool) (candidate : Value) :
    Except RuleError (String → Bool) := do
  let expected ← expectedText mode candidate
  match mode with
  | .pattern => patternMatch engine ignoreCase expected
  | .equal | .any => return fun text ↦ equal ignoreCase text expected

def test (engine : PatternEngine) (mode : Mode) (ignoreCase : Bool) (candidate : Value) :
    Except RuleError (Value → Bool) := do
  let holds ← condition engine mode ignoreCase candidate
  return fun v ↦ v.toText?.any holds

def reading (engine : PatternEngine) (mode : Mode) (ignoreCase : Bool) (expected : Value) :
    Reading :=
  match mode, expected with
  | .any, .array candidates => .ofAlternatives concerns (test engine .any ignoreCase) candidates
  | .any, _ =>
    ⟨concerns, [], some (.invalidRule comparator Mode.any.key "expected a list of strings")⟩
  | mode, expected => .ofAlternatives concerns (test engine mode ignoreCase) [expected]

def read (engine : PatternEngine) (rule : Rule) : Except RuleError Reading := do
  let (mode, expected) ← rule.select comparator modes
  return reading engine mode rule.ignoreCase expected

theorem reading_concerns (mode : Mode) (ignoreCase : Bool) (expected : Value) :
    (reading engine mode ignoreCase expected).concerns = concerns := by
  cases mode with
  | equal | pattern => exact Reading.ofAlternatives_concerns _
  | any =>
    cases expected with
    | array candidates => exact Reading.ofAlternatives_concerns _
    | null | bool | number | string | object => rfl

theorem test_eq {v : Value} {text : String} (hv : v.toText? = some text) (mode : Mode)
    (ignoreCase : Bool) (c : Value) :
    (do return (← test engine mode ignoreCase c) v : Except RuleError Bool) =
      (do return (← condition engine mode ignoreCase c) text) := by
  unfold test
  cases condition engine mode ignoreCase c with
  | ok holds => simp [hv, bind, Except.bind, pure, Except.pure]
  | error e => rfl

theorem satisfied_eq {v : Value} {text : String} (hv : v.toText? = some text) (mode : Mode)
    (ignoreCase : Bool) (expected : Value) :
    satisfied engine mode ignoreCase expected text =
      (reading engine mode ignoreCase expected).search v := by
  cases mode with
  | equal =>
    rw [reading, Reading.search_single, test_eq hv, satisfied, condition]
    · cases expectedText .equal expected <;> rfl
    · nofun
    · nofun
  | pattern =>
    rw [reading, Reading.search_single, test_eq hv, satisfied, condition]
    · cases expectedText .pattern expected with
      | error e => rfl
      | ok pattern =>
        change matchesPattern engine ignoreCase pattern text =
          (do return (← patternMatch engine ignoreCase pattern) text)
        unfold matchesPattern patternMatch
        cases engine ignoreCase pattern <;> rfl
    · nofun
    · nofun
  | any =>
    cases expected with
    | array candidates =>
      have hcandidate : ∀ c,
          (do return (← test engine .any ignoreCase c) v : Except RuleError Bool) =
          (do return equal ignoreCase text (← expectedText .any c)) := by
        intro c
        rw [test_eq hv, condition]
        cases expectedText .any c <;> rfl
      rw [reading, ← Reading.anyM_eq_search, funext hcandidate, satisfied]
    | null | bool | number | string | object => rfl

theorem compare_outcome (engine : PatternEngine) (ctx : Context) (rule : Rule) (actual : Value) :
    (compare engine ctx rule actual).result.map Verdict.outcome =
      read engine rule >>= fun r ↦ r.answer actual := by
  rw [compare, read]
  cases rule.select comparator modes with
  | error e => rfl
  | ok found =>
    obtain ⟨mode, expected⟩ := found
    have hread : (do
        let (mode, expected) ← (.ok (mode, expected) : Except RuleError (Mode × Value))
        return reading engine mode rule.ignoreCase expected) =
          .ok (reading engine mode rule.ignoreCase expected) := rfl
    rw [hread, Evaluation.liftM_ok_bind, Evaluation.result_bind_ok rfl]
    change _ = (reading engine mode rule.ignoreCase expected).answer actual
    rw [Reading.answer, reading_concerns, concerns]
    cases hv : actual.toText? with
    | none => rfl
    | some text =>
      dsimp only
      rw [satisfied_eq hv]
      cases (reading engine mode rule.ignoreCase expected).search actual with
      | error e => rfl
      | ok found => exact congrArg Except.ok (Verdict.outcome_ofBool _ _)

theorem result_asks {fields : Fields} {payload : Value} (mode : Mode)
    (h : fields.Asks (.text engine) mode.key payload) (ctx : Context) (actual : Value) :
    (compare engine ctx ⟨fields⟩ actual).result.map Verdict.outcome =
      (reading engine mode (Rule.mk fields).ignoreCase payload).answer actual := by
  rw [compare_outcome, read, select_asks mode h]
  rfl

end TextRule

namespace BooleanRule

def reading (expected : Value) : Except RuleError Reading :=
  match expected.toBool? with
  | some e => .ok ⟨fun v ↦ v.toBool?.isSome, [fun v ↦ v.toBool? == some e], none⟩
  | none => .error (.invalidRule comparator modeKey
      ("expected a boolean, got " ++ expected.compact))

def read (rule : Rule) : Except RuleError Reading := do
  let (_, expected) ← rule.select comparator [(modeKey, ())]
  reading expected

theorem read_fault {rule : Rule} {r : Reading} (h : read rule = .ok r) : r.fault = none := by
  obtain ⟨⟨⟨⟩, expected⟩, -, hread⟩ := exists_of_bind_ok h
  change reading expected = .ok r at hread
  unfold reading at hread
  split at hread
  · rw [← Except.ok.inj hread]
  · cases hread

theorem compare_outcome (ctx : Context) (rule : Rule) (actual : Value) :
    (compare ctx rule actual).result.map Verdict.outcome =
      read rule >>= fun r ↦ r.answer actual := by
  rw [compare, read]
  cases rule.select comparator [(modeKey, ())] with
  | error e => rfl
  | ok found =>
    obtain ⟨⟨⟩, expected⟩ := found
    have hread : (do
        let (_, expected) ← (.ok ((), expected) : Except RuleError (Unit × Value))
        reading expected) = reading expected := rfl
    rw [hread, Evaluation.liftM_ok_bind, Evaluation.result_bind_ok rfl, reading]
    cases expected.toBool? with
    | none => rfl
    | some e =>
      cases ha : actual.toBool? with
      | none =>
        change Except.ok Outcome.failed = Reading.answer _ actual
        simp [Reading.answer, ha]
      | some a =>
        change Except.ok _ = Reading.answer _ actual
        cases a <;> cases e <;> simp [Reading.answer, Reading.search, ha] <;> rfl

end BooleanRule

end AuditRules
