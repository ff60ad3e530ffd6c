import AuditRules.Proofs.Registry.Mapping
import AuditRules.Proofs.Registry.Paired
import AuditRules.Proofs.Registry.Whole

namespace AuditRules

variable {engine : PatternEngine}

theorem Value.ofInt_equal_iff {m n : Int} (hm : (Number.integer m).IsJson)
    (hn : (Number.integer n).IsJson) : (ofInt m).equal (ofInt n) = true ↔ m = n := by
  rw [ofInt, ofInt, equal]
  exact Number.equal_iff hm hn

namespace Registry

open SequenceRule

variable {limits : Limits} {checkId : String} {rule : Fields}

theorem accepts_iff {r : Registry} {spec actual : Value} : r.accepts checkId spec actual = true ↔
    ∃ v, (r.run checkId spec actual).result = .ok v ∧ v.passed = true := by
  rw [accepts]
  cases (r.run checkId spec actual).result <;> simp [Except.toOption]

theorem accepts_numberRule_iff {p actual : Value} {e : NumberExpression} {q : Quantity}
    (h : rule.Asks .number "match" p) (hp : NumberExpression.parse p = .ok e)
    (hq : actual.toQuantity? = some q) :
    (builtins engine limits).accepts checkId (.object rule) actual = true ↔ e.holds q = true := by
  let ctx := (builtins engine limits).context checkId limits.nesting
  have hmode : rule.Asks .number NumberRule.Mode.one.key p := h
  have hcompare : ∃ failure, (NumberRule.compare ctx ⟨rule⟩ actual).result =
      .ok (.ofBool (e.holds q) failure) := by
    rw [NumberRule.compare, NumberRule.select_asks .one hmode, Evaluation.liftM_ok_bind,
      Evaluation.result_bind_ok rfl, hq]
    simp only [NumberRule.compareOne, hp, Evaluation.result_liftM]
    exact ⟨_, rfl⟩
  obtain ⟨failure, hcompare⟩ := hcompare
  have hrun : ((builtins engine limits).run checkId (.object rule) actual).result =
      .ok (.ofBool (e.holds q) failure) := by
    rw [run_result, evaluate_asks h (by simp [builtin])]
    exact hcompare
  rw [accepts_of_ok hrun, Verdict.passed_ofBool]

theorem accepts_numberRule_ofInt {a b : Int} (h : rule.Asks .number "match" (.ofInt a)) :
    (builtins engine limits).accepts checkId (.object rule) (.ofInt b) = true ↔
      (Quantity.ofInt b).equal (.ofInt a) = true := by
  have hparse : NumberExpression.parse (.ofInt a) = .ok ⟨.equal, .ofInt a⟩ := rfl
  have hquantity : (Value.ofInt b).toQuantity? = some (.ofInt b) := rfl
  rw [accepts_numberRule_iff h hparse hquantity, NumberExpression.holds_equal]

theorem accepts_entry_iff {key : String} {actual : Fields} {a b : Int}
    (h : rule.Asks .mapping "match" (.object [(key, .ofInt a)]))
    (hget : actual.get? key = some (.ofInt b)) :
    (builtins engine limits).accepts checkId (.object rule) (.object actual) = true ↔
      (Value.ofInt b).equal (.ofInt a) = true := by
  simp only [accepts_patternRule_iff h, List.mem_singleton, forall_eq, hget, Option.some.injEq,
    exists_eq_left']
  rw [MappingRule.valueMismatch?_whole rfl (.inl rfl)]
  change (Except.ok (if (Value.ofInt b).equal (.ofInt a) then none else some _) :
    Except RuleError (Option String)) = .ok none ↔ _
  cases (Value.ofInt b).equal (.ofInt a) <;> simp

theorem equal_of_accepts_exactly {a b : Int}
    (h : rule.Asks .sequence "match" (.array [.ofInt a]))
    (haccepts :
      (builtins engine limits).accepts checkId (.object rule) (.array [.ofInt b]) = true) :
    (Quantity.ofInt b).equal (.ofInt a) = true ∨ (Value.ofInt b).equal (.ofInt a) = true := by
  obtain ⟨v, hv, hpassed⟩ := accepts_iff.1 haccepts
  have hparse : ListRule.parse ⟨rule⟩ = .ok (.exactly [.ofInt a]) :=
    parse_asks (fun v ↦ ListRule.exactly <$> ListRule.items "match" v) h (by simp [ListRule.modes])
  rw [run_result, evaluate_array h hparse] at hv
  obtain ⟨-, hsettled | ⟨σ, hσ⟩⟩ := compareExactly_passed hv hpassed
  · obtain ⟨first, rest, i, e, others, w, hitems, hshape, hexpected, hw, hpassed⟩ :=
      settledByFirst_of_delegated hsettled
    obtain ⟨rfl, -⟩ := List.cons.inj hitems
    obtain ⟨rfl, -⟩ := List.cons.inj hexpected
    have haccepts := accepts_iff.2 ⟨w, hw, hpassed⟩
    have hnumber := (accepts_numberRule_ofInt (numberRule_asks List.mem_cons_self _)).1 haccepts
    -- The element may have been brought into the signed range, which does not show once rounded.
    obtain ⟨x, hx, hequal⟩ := Value.toQuantity?_of_toWhole? (toWhole?_of_shape hshape)
    have hb : Quantity.ofInt b = .finite x := Option.some.inj hx
    rw [hb]
    rw [← NumberExpression.holds_equal, ← NumberExpression.holds_congr hequal,
      NumberExpression.holds_equal] at hnumber
    exact .inl hnumber
  · have hpartner : [Value.ofInt a].get (σ 0) = .ofInt a := by simp
    have hfirst := hσ 0
    rw [hpartner] at hfirst
    exact .inr hfirst

def Apart (S : Int → Prop) : Prop :=
  ∀ a b, S a → S b → (Quantity.ofInt a).equal (.ofInt b) = true → a = b

/-- Rules on numbers and on mappings accept just the integers of a set that equal the expected one,
and rules on lists accept no others. -/
structure OneEquality (engine : PatternEngine) (limits : Limits) (checkId : String)
    (S : Int → Prop) : Prop where
  number : ∀ (rule : Fields) (a b : Int), S a → S b → rule.Asks .number "match" (.ofInt a) →
    ((builtins engine limits).accepts checkId (.object rule) (.ofInt b) = true ↔
      (Value.ofInt a).equal (.ofInt b) = true)
  mapping : ∀ (rule actual : Fields) (key : String) (a b : Int), S a → S b →
    rule.Asks .mapping "match" (.object [(key, .ofInt a)]) →
    actual.get? key = some (.ofInt b) →
    ((builtins engine limits).accepts checkId (.object rule) (.object actual) = true ↔
      (Value.ofInt a).equal (.ofInt b) = true)
  sequence : ∀ (rule : Fields) (a b : Int), S a → S b →
    rule.Asks .sequence "match" (.array [.ofInt a]) →
    (builtins engine limits).accepts checkId (.object rule) (.array [.ofInt b]) = true →
      (Value.ofInt a).equal (.ofInt b) = true

theorem OneEquality.of_apart {S : Int → Prop} (hS : ∀ n, S n → (Number.integer n).IsJson)
    (hapart : Apart S) : OneEquality engine limits checkId S where
  number rule a b ha hb h := by
    rw [accepts_numberRule_ofInt h, Value.ofInt_equal_iff (hS a ha) (hS b hb)]
    constructor
    · intro hequal
      exact (hapart b a hb ha hequal).symm
    · rintro rfl
      exact (Number.equal_quantity_iff (hS a ha) (hS a ha)).2 rfl
  mapping rule actual key a b ha hb h hget := by
    rw [accepts_entry_iff h hget, Value.ofInt_equal_iff (hS b hb) (hS a ha),
      Value.ofInt_equal_iff (hS a ha) (hS b hb)]
    exact eq_comm
  sequence rule a b ha hb h haccepts := by
    rw [Value.ofInt_equal_iff (hS a ha) (hS b hb)]
    rcases equal_of_accepts_exactly h haccepts with hquantity | hequal
    · exact (hapart b a hb ha hquantity).symm
    · exact ((Value.ofInt_equal_iff (hS b hb) (hS a ha)).1 hequal).symm

theorem OneEquality.apart {S : Int → Prop} (hS : ∀ n, S n → (Number.integer n).IsJson)
    (h : OneEquality engine limits checkId S) : Apart S := by
  intro a b ha hb hequal
  have hasks := numberRule_asks List.mem_cons_self (.ofInt b)
  have hvalue := (h.number _ b a hb ha hasks).1 ((accepts_numberRule_ofInt hasks).2 hequal)
  exact ((Value.ofInt_equal_iff (hS b hb) (hS a ha)).1 hvalue).symm

/-- There is one equality for the integers of a set, whatever kind of rule they are under, just
where rounding keeps these integers apart. -/
theorem oneEquality_iff (limits : Limits) (checkId : String) {S : Int → Prop}
    (hS : ∀ n, S n → (Number.integer n).IsJson) : OneEquality engine limits checkId S ↔ Apart S :=
  ⟨OneEquality.apart hS, OneEquality.of_apart hS⟩

theorem apart_exact : Apart fun n ↦ (Number.integer n).Exact := by
  intro a b ha hb hequal
  exact ha.eq_of_quanta_eq hb ((Number.equal_quantity_iff ha.isJson hb.isJson).1 hequal)

theorem oneEquality_exact : (∀ n : Int, (Number.integer n).Exact → (Number.integer n).IsJson) ∧
    OneEquality Pattern.engine .default "check" fun n ↦ (Number.integer n).Exact := by
  have hS : ∀ n : Int, (Number.integer n).Exact → (Number.integer n).IsJson := fun _ h ↦ h.isJson
  exact ⟨hS, (oneEquality_iff .default "check" hS).2 apart_exact⟩

theorem accepts_rounded :
    (Number.integer 9007199254740992).IsJson ∧ (Number.integer 9007199254740993).IsJson ∧
    (Value.ofInt 9007199254740992).equal (.ofInt 9007199254740993) = false ∧
    (builtins Pattern.engine .default).accepts "check"
      (filterRule [("id", .ofInt 9007199254740992)])
      (.object [("id", .ofInt 9007199254740993)]) = false ∧
    (builtins Pattern.engine .default).accepts "check"
      (numberRule "match" (.ofInt 9007199254740992)) (.ofInt 9007199254740993) = true ∧
    (builtins Pattern.engine .default).accepts "check" (exactRule [.ofInt 9007199254740992])
      (.array [.ofInt 9007199254740993]) = true := by
  refine ⟨⟨by decide, by decide⟩, ⟨by decide, by decide⟩, ?_, ?_, ?_, ?_⟩ <;> decide +kernel

end Registry

end AuditRules
