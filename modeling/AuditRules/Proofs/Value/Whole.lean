import AuditRules.Comparator.Number
import AuditRules.Proofs.Number
import AuditRules.Proofs.NumberExpression
import AuditRules.Value.Shape

namespace AuditRules

namespace Quantity

theorem equal_finite {x y : Binary64} :
    (finite x).equal (finite y) = true ↔ x.signed = y.signed := by
  simp only [equal, compare?, beq_iff_eq, Option.some.injEq, Std.LawfulEqOrd.compare_eq_iff_eq]

theorem compare?_congr {a b : Quantity} (h : a.equal b = true) (c : Quantity) :
    a.compare? c = b.compare? c := by
  cases a with
  | finite x =>
    cases b with
    | finite y => cases c <;> simp only [compare?, equal_finite.1 h]
    | infinite negative => cases negative <;> cases h
    | undefined => cases h
  | infinite negative =>
    cases b with
    | finite y => cases negative <;> cases h
    | infinite negative' => cases negative <;> cases negative' <;> first | rfl | cases h
    | undefined => cases h
  | undefined => cases b <;> cases h

end Quantity

theorem readInt64?_eq_some {cs : List Char} {n : Int} (h : readInt64? cs = some n) :
    ∃ negative digits, splitSign cs = (negative, digits) ∧ digits ≠ [] ∧
      (∀ c ∈ digits, c.isDigit = true) ∧ n.natAbs ≤ 0x8000000000000000 ∧
      n = if negative then -(digitsValue digits : Int) else digitsValue digits := by
  obtain ⟨m, hm, h⟩ := Option.bind_eq_some_iff.1 h
  obtain ⟨hne, hdigits, rfl⟩ := readDigits?_eq_some.1 hm
  obtain ⟨⟨hmin, hmax⟩, h⟩ := Option.ite_none_right_eq_some.1 h
  have hn := Option.some.inj h
  exact ⟨_, _, rfl, hne, hdigits, by omega, hn.symm⟩

namespace Quantity

theorem parse?_of_readInt64? {cs : List Char} {n : Int} (h : readInt64? cs = some n) :
    ∃ x, parse? cs = some (.finite x) ∧ x.signed = Binary64.nearestInt n := by
  obtain ⟨sign, negative, digits, hsplit, hsign, rfl⟩ := exists_splitSign cs
  obtain ⟨_, _, hsplit', hne, hdigits, hrange, hn⟩ := readInt64?_eq_some h
  obtain ⟨rfl, rfl⟩ := Prod.mk.inj (hsplit.symm.trans hsplit')
  have hbound : digitsValue digits ≤ 0x10000000000000000 := by
    cases negative <;> simp at hn <;> omega
  obtain ⟨x, hx, hsigned⟩ := ofRatio_finite hbound negative
  refine ⟨x, ?_, by rw [hsigned, hn]⟩
  rw [← hx]
  exact parse?_eq_some_iff.2 (.whole hsign hne hdigits)

end Quantity

namespace Number

/-- A number that is taken for an integer is rounded as that integer is. -/
theorem quantity_of_toWhole? {a : Number} {n : Int} (h : a.toWhole? = some n) :
    n.natAbs ≤ 0x8000000000000000 ∧
      ∃ x, a.quantity = .finite x ∧ x.signed = Binary64.nearestInt n := by
  unfold toWhole? at h
  split at h
  · rename_i i hi
    obtain rfl := Option.some.inj h
    obtain ⟨rfl, hmin, hmax⟩ := toInt64?_eq_some.1 hi
    exact ⟨by omega, quantity_finite (n := .integer i) ⟨hmin, by omega⟩⟩
  · rename_i x _ hx
    obtain ⟨i, hi, rfl⟩ := Option.map_eq_some_iff.1 h
    obtain ⟨hi, hrange⟩ := Option.filter_eq_some_iff.1 hi
    simp only [Bool.and_eq_true, decide_eq_true_eq] at hrange
    refine ⟨by omega, x, hx, ?_⟩
    rw [Binary64.signed_of_toInt? hi]
    -- The largest signed integer is rounded up to the first one beyond the range.
    by_cases hend : i = 0x8000000000000000
    · subst hend
      decide +kernel
    · rw [Int.min_eq_left (by omega)]
  · cases h

theorem equal_quantity {a b : Number} (h : a.equal b = true)
    (hself : a.quantity.equal a.quantity = true) : a.quantity.equal b.quantity = true := by
  unfold equal at h
  split at h
  · rename_i i j hi hj
    obtain ⟨rfl, -⟩ := toInt64?_eq_some.1 hi
    obtain ⟨rfl, -⟩ := toInt64?_eq_some.1 hj
    obtain rfl := beq_iff_eq.1 h
    exact hself
  · split at h
    · rename_i i j hi hj
      obtain ⟨rfl, -⟩ := toNat64?_eq_some.1 hi
      obtain ⟨rfl, -⟩ := toNat64?_eq_some.1 hj
      obtain rfl := beq_iff_eq.1 h
      exact hself
    · exact h

end Number

theorem NumberExpression.holds_equal (a b : Quantity) :
    (NumberExpression.mk .equal b).holds a = a.equal b := rfl

theorem NumberExpression.holds_congr {a b : Quantity} (h : a.equal b = true)
    (e : NumberExpression) : e.holds a = e.holds b := by
  simp only [holds, Relation.holds.eq_def, Quantity.compare?_congr h]

namespace Value

/-- A value that holds an integer is the quantity that this integer is. -/
theorem toQuantity?_of_toWhole? {v : Value} {n : Int} (h : v.toWhole? = some n) :
    ∃ x, v.toQuantity? = some (.finite x) ∧ (Quantity.finite x).equal (.ofInt n) = true := by
  have hvalue : n.natAbs ≤ 0x8000000000000000 ∧
      ∃ x, v.toQuantity? = some (.finite x) ∧ x.signed = Binary64.nearestInt n := by
    cases v with
    | number a =>
      obtain ⟨hrange, x, hx, hsigned⟩ := Number.quantity_of_toWhole? h
      exact ⟨hrange, x, congrArg some hx, hsigned⟩
    | string s =>
      rw [toWhole?] at h
      obtain ⟨-, -, -, -, -, hrange, -⟩ := readInt64?_eq_some h
      exact ⟨hrange, Quantity.parse?_of_readInt64? h⟩
    | null | bool | array | object => cases h
  obtain ⟨hrange, x, hx, hsigned⟩ := hvalue
  obtain ⟨y, hy, hinteger⟩ := Quantity.ofInt_finite (n := n) (by omega)
  refine ⟨x, hx, ?_⟩
  rw [hy, Quantity.equal_finite, hsigned, hinteger]

theorem parse_of_toQuantity? {s : String} {q : Quantity}
    (h : (string s).toQuantity? = some q) :
    NumberExpression.parse (.string s) = .ok ⟨.equal, q⟩ := by
  rw [toQuantity?] at h
  obtain ⟨before, after, hbefore, hafter, hs⟩ := exists_trimBlank s.toList
  have hwritten := NumberExpression.Written.intro hbefore .absent .nil
    (Quantity.parse?_eq_some_iff.1 h) hafter
  rw [List.append_nil, List.append_nil, ← hs] at hwritten
  rw [NumberExpression.parse]
  exact NumberExpression.parseText_eq_ok_iff.2 hwritten

theorem holds_of_equal {v p : Value} {n : Int} (h : v.toWhole? = some n)
    (hequal : v.equal p = true) :
    ∃ e, NumberExpression.parse p = .ok e ∧ e.holds (.ofInt n) = true := by
  obtain ⟨x, hx, hn⟩ := toQuantity?_of_toWhole? h
  have hself : (Quantity.finite x).equal (.finite x) = true := Quantity.equal_finite.2 rfl
  have hholds : ∀ q, (Quantity.finite x).equal q = true →
      (NumberExpression.mk .equal q).holds (.ofInt n) = true := by
    intro q hq
    rwa [← NumberExpression.holds_congr hn, NumberExpression.holds_equal]
  cases v with
  | number a =>
    cases p with
    | number b =>
      rw [equal] at hequal
      have ha : a.quantity = .finite x := Option.some.inj hx
      refine ⟨_, rfl, hholds _ ?_⟩
      rw [← ha] at hself ⊢
      exact Number.equal_quantity hequal hself
    | null | bool | string | array | object => cases hequal
  | string s =>
    cases p with
    | string t =>
      rw [equal, beq_iff_eq] at hequal
      subst hequal
      exact ⟨_, parse_of_toQuantity? hx, hholds _ hself⟩
    | null | bool | number | array | object => cases hequal
  | null | bool | array | object => cases h

end Value

end AuditRules
