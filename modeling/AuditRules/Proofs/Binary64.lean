import AuditRules.Binary64

namespace AuditRules

theorem roundDiv_mono {m n : Nat} (h : m ≤ n) (den : Nat) : roundDiv m den ≤ roundDiv n den := by
  rcases Nat.lt_or_ge (m / den) (n / den) with hlt | hge
  · calc roundDiv m den ≤ m / den + 1 := roundDiv_le m den
      _ ≤ n / den := hlt
      _ ≤ roundDiv n den := le_roundDiv n den
  · have hq : m / den = n / den := Nat.le_antisymm (Nat.div_le_div_right h) hge
    have hr : m % den ≤ n % den := by
      have hm := Nat.div_add_mod m den
      have hn := Nat.div_add_mod n den
      rw [hq] at hm
      omega
    unfold roundDiv
    dsimp only
    rw [hq]
    grind

theorem roundDiv_mul_self (k : Nat) {den : Nat} (h : 0 < den) : roundDiv (k * den) den = k := by
  simp [roundDiv, Nat.mul_div_cancel k h, h]

namespace Binary64

def shift (n : Nat) : Nat := n.log2 + 1 - 53

theorem nearest_eq (num den : Nat) : nearest num den =
    roundDiv num (den * Nat.pow 2 (shift (num / den))) * Nat.pow 2 (shift (num / den)) := rfl

theorem nearest_le (num den : Nat) : nearest num den ≤ Nat.pow 2 ((num / den).log2 + 1) := by
  have hpow : 2 ^ ((num / den).log2 + 1 - shift (num / den)) * 2 ^ shift (num / den) =
      2 ^ ((num / den).log2 + 1) := by
    rw [← Nat.pow_add, Nat.sub_add_cancel (by unfold shift; omega)]
  have hquot : num / (den * 2 ^ shift (num / den)) <
      2 ^ ((num / den).log2 + 1 - shift (num / den)) := by
    rw [← Nat.div_div_eq_div_mul, Nat.div_lt_iff_lt_mul (Nat.two_pow_pos _), hpow]
    exact Nat.lt_log2_self
  rw [nearest_eq, Nat.pow_eq, Nat.pow_eq, ← hpow]
  exact Nat.mul_le_mul_right _ (Nat.le_trans (roundDiv_le _ _) hquot)

theorem le_nearest {num den : Nat} (h : num / den ≠ 0) :
    Nat.pow 2 (num / den).log2 ≤ nearest num den := by
  have hpow : 2 ^ ((num / den).log2 - shift (num / den)) * 2 ^ shift (num / den) =
      2 ^ (num / den).log2 := by
    rw [← Nat.pow_add, Nat.sub_add_cancel (by unfold shift; omega)]
  have hquot : 2 ^ ((num / den).log2 - shift (num / den)) ≤
      num / (den * 2 ^ shift (num / den)) := by
    rw [← Nat.div_div_eq_div_mul, Nat.le_div_iff_mul_le (Nat.two_pow_pos _), hpow]
    exact Nat.log2_self_le h
  rw [nearest_eq, Nat.pow_eq, Nat.pow_eq, ← hpow]
  exact Nat.mul_le_mul_right _ (Nat.le_trans hquot (le_roundDiv _ _))

theorem nearest_mono {m n : Nat} (h : m ≤ n) (den : Nat) : nearest m den ≤ nearest n den := by
  have hq : m / den ≤ n / den := Nat.div_le_div_right h
  by_cases hn : n / den = 0
  · have hm : m / den = 0 := Nat.le_zero.1 (hn ▸ hq)
    rw [nearest_eq, nearest_eq, hm, hn]
    exact Nat.mul_le_mul_right _ (roundDiv_mono h _)
  -- Either a power of two lies between the two results, or both are rounded to the same unit.
  rcases Nat.lt_or_ge (m / den).log2 (n / den).log2 with hlt | hge
  · calc nearest m den ≤ Nat.pow 2 ((m / den).log2 + 1) := nearest_le m den
      _ ≤ Nat.pow 2 (n / den).log2 := Nat.pow_le_pow_right (by decide) hlt
      _ ≤ nearest n den := le_nearest hn
  · have hlog : (m / den).log2 = (n / den).log2 := by
      refine Nat.le_antisymm ?_ hge
      rcases Nat.eq_zero_or_pos (m / den) with hm | hm
      · rw [hm]
        exact Nat.zero_le _
      · exact (Nat.le_log2 hn).2 (Nat.le_trans (Nat.log2_self_le (Nat.ne_of_gt hm)) hq)
    have hshift : shift (m / den) = shift (n / den) := by unfold shift; rw [hlog]
    rw [nearest_eq, nearest_eq, hshift]
    exact Nat.mul_le_mul_right _ (roundDiv_mono h _)

theorem unit_pos (e : Nat) : 0 < Nat.pow 2 e := Nat.two_pow_pos e

theorem representable_mul {m : Nat} (hm : m < Nat.pow 2 53) (e : Nat) :
    Representable (m * Nat.pow 2 e) := ⟨m, e, hm, rfl⟩

theorem shift_le {m e : Nat} (hm : m < Nat.pow 2 53) : shift (m * Nat.pow 2 e) ≤ e := by
  by_cases hzero : m = 0
  · simp [shift, hzero]
  have hlt : m * 2 ^ e < 2 ^ (53 + e) := by
    rw [Nat.pow_add]
    exact Nat.mul_lt_mul_of_pos_right hm (Nat.two_pow_pos e)
  have hne : m * 2 ^ e ≠ 0 := Nat.mul_ne_zero hzero (Nat.ne_of_gt (Nat.two_pow_pos e))
  have hlog := (Nat.log2_lt hne).2 hlt
  unfold shift
  rw [Nat.pow_eq]
  omega

theorem nearest_of_representable {n : Nat} (h : Representable n) : nearest n 1 = n := by
  obtain ⟨m, e, hm, rfl⟩ := h
  have hle := shift_le (e := e) hm
  rw [nearest_eq, Nat.div_one, Nat.one_mul]
  generalize shift (m * Nat.pow 2 e) = s at hle ⊢
  have hsplit : m * Nat.pow 2 e = m * Nat.pow 2 (e - s) * Nat.pow 2 s := by
    simp only [Nat.pow_eq]
    rw [Nat.mul_assoc, ← Nat.pow_add, Nat.sub_add_cancel hle]
  rw [hsplit, roundDiv_mul_self _ (unit_pos s)]

theorem nearest_eq_zero {num den : Nat} (h : 2 * num < den) : nearest num den = 0 := by
  have hquot : num / den = 0 := Nat.div_eq_of_lt (by omega)
  have hrem : num % den = num := Nat.mod_eq_of_lt (by omega)
  simp [nearest_eq, shift, roundDiv, hquot, hrem, h]

theorem bound_pos : 0 < bound := by decide +kernel

theorem bound_eq : bound = Nat.pow 2 2098 := by delta bound; rfl

theorem le_pow_log2 {m e n : Nat} (hm : m = Nat.pow 2 e) (h : m ≤ n) :
    m ≤ Nat.pow 2 n.log2 := by
  subst hm
  have hne : n ≠ 0 := Nat.ne_of_gt (Nat.lt_of_lt_of_le (unit_pos e) h)
  exact Nat.pow_le_pow_right (by decide) ((Nat.le_log2 hne).2 h)

theorem bound_le_nearest {num den : Nat} (hden : 0 < den) (h : bound * den ≤ num) :
    bound ≤ nearest num den := by
  have hquot : bound ≤ num / den := (Nat.le_div_iff_mul_le hden).2 h
  have hne : num / den ≠ 0 := Nat.ne_of_gt (Nat.lt_of_lt_of_le bound_pos hquot)
  exact Nat.le_trans (le_pow_log2 bound_eq hquot) (le_nearest hne)

def nearestInt (n : Int) : Int :=
  if n < 0 then -(nearest (n.natAbs * one) 1 : Int) else nearest (n.natAbs * one) 1

theorem nearestInt_mono {m n : Int} (h : m ≤ n) : nearestInt m ≤ nearestInt n := by
  unfold nearestInt
  split
  · split
    · have habs : n.natAbs ≤ m.natAbs := by omega
      have := nearest_mono (Nat.mul_le_mul_right one habs) 1
      omega
    · omega
  · have habs : m.natAbs ≤ n.natAbs := by omega
    have := nearest_mono (Nat.mul_le_mul_right one habs) 1
    rw [if_neg (by omega)]
    omega

theorem compare_nearestInt {m n : Int} (h : nearestInt m ≠ nearestInt n) :
    compare m n = compare (nearestInt m) (nearestInt n) := by
  rcases Int.lt_trichotomy m n with hlt | rfl | hgt
  · have hle := nearestInt_mono (Int.le_of_lt hlt)
    rw [Int.compare_eq_lt.2 hlt, Int.compare_eq_lt.2 (by omega)]
  · exact absurd rfl h
  · have hle := nearestInt_mono (Int.le_of_lt hgt)
    rw [Int.compare_eq_gt.2 hgt, Int.compare_eq_gt.2 (by omega)]

theorem one_pos : 0 < one := by decide +kernel

theorem mul_one_inj {i j : Int} (h : i * one = j * one) : i = j :=
  Int.eq_of_mul_eq_mul_right (Int.natCast_ne_zero.2 (Nat.ne_of_gt one_pos)) h

theorem mul_one_le_iff {i j : Int} : i * one ≤ j * one ↔ i ≤ j :=
  Int.mul_le_mul_right (Int.natCast_pos.2 one_pos)

theorem nearestInt_of_representable {n : Int} (h : Representable (n.natAbs * one)) :
    nearestInt n = n * one := by
  unfold nearestInt
  rw [nearest_of_representable h, Int.natCast_mul]
  split
  · have habs : (n.natAbs : Int) = -n := Int.ofNat_natAbs_of_nonpos (by omega)
    rw [habs, Int.neg_mul, Int.neg_neg]
  · have habs : (n.natAbs : Int) = n := Int.natAbs_of_nonneg (by omega)
    rw [habs]

/-- Integers of at most 53 bits are not rounded. -/
theorem nearestInt_exact {n : Int} (h : n.natAbs ≤ 0x20000000000000) : nearestInt n = n * one := by
  apply nearestInt_of_representable
  rcases Nat.lt_or_eq_of_le h with hlt | heq
  · delta one
    apply representable_mul hlt
  · exact ⟨1, 53 + 1074, by decide, by rw [heq]; decide +kernel⟩

theorem nearestInt_inj {m n : Int} (hm : m.natAbs ≤ 0x20000000000000)
    (hn : n.natAbs ≤ 0x20000000000000) (h : nearestInt m = nearestInt n) : m = n := by
  rw [nearestInt_exact hm, nearestInt_exact hn] at h
  exact mul_one_inj h

theorem natAbs_signed (x : Binary64) : x.signed.natAbs = x.quanta := by
  unfold signed
  split <;> omega

theorem quanta_of_signed {x : Binary64} {i : Int} (h : x.signed = i * one) :
    x.quanta = i.natAbs * one := by
  rw [← natAbs_signed, h, Int.natAbs_mul, Int.natAbs_natCast]

theorem signed_eq_of_toInt? {x : Binary64} {i : Int} (h : x.toInt? = some i) :
    x.signed = i * one := by
  obtain ⟨hmod, hi⟩ := Option.ite_none_right_eq_some.1 h
  have hquanta : x.quanta = x.quanta / one * one :=
    (Nat.div_mul_cancel (Nat.dvd_of_mod_eq_zero hmod)).symm
  have hi := Option.some.inj hi
  generalize x.quanta / one = magnitude at hi hquanta
  rw [signed, hquanta, ← hi, Int.natCast_mul]
  split
  · rw [Int.neg_mul]
  · rfl

/-- The integer found in a number is the number itself. -/
theorem toInt?_eq_some_iff {x : Binary64} {i : Int} : x.toInt? = some i ↔ x.signed = i * one := by
  refine ⟨signed_eq_of_toInt?, fun h ↦ ?_⟩
  have hmod : x.quanta % one = 0 := quanta_of_signed h ▸ Nat.mul_mod_left _ _
  obtain ⟨j, hj⟩ : ∃ j, x.toInt? = some j := ⟨_, if_pos hmod⟩
  rw [hj, mul_one_inj ((signed_eq_of_toInt? hj).symm.trans h)]

theorem signed_of_toInt? {x : Binary64} {i : Int} (h : x.toInt? = some i) :
    x.signed = nearestInt i := by
  have hsigned := signed_eq_of_toInt? h
  rw [hsigned, nearestInt_of_representable]
  exact quanta_of_signed hsigned ▸ x.representable

theorem nearest_lt_bound {n : Nat} (h : n ≤ 0x10000000000000000) : nearest (n * one) 1 < bound :=
  Nat.lt_of_le_of_lt (nearest_mono (Nat.mul_le_mul_right one h) 1) (by decide +kernel)

end Binary64

namespace Quantity

theorem ofRatio_finite {n : Nat} (h : n ≤ 0x10000000000000000) (negative : Bool) :
    ∃ x, ofRatio negative n 1 = .finite x ∧
      x.signed = Binary64.nearestInt (if negative then -(n : Int) else n) := by
  have hbound := Binary64.nearest_lt_bound h
  refine ⟨⟨negative, _, Binary64.nearest_representable _ 1, hbound⟩, ?_, ?_⟩
  · rw [ofRatio, ofMagnitude, dif_pos hbound]
  · cases negative with
    | true =>
      simp only [Binary64.signed, Binary64.nearestInt, ↓reduceIte, Int.natAbs_neg,
        Int.natAbs_natCast]
      split
      · rfl
      · -- Zero has no quanta, whatever its sign is.
        have hzero : n = 0 := by omega
        subst hzero
        decide +kernel
    | false =>
      have hn : ¬ (n : Int) < 0 := by omega
      simp [Binary64.signed, Binary64.nearestInt, hn]

theorem ofInt_finite {n : Int} (h : n.natAbs ≤ 0x10000000000000000) :
    ∃ x, ofInt n = .finite x ∧ x.signed = Binary64.nearestInt n := by
  obtain ⟨x, hx, hsigned⟩ := ofRatio_finite h (n < 0)
  have hn : (if decide (n < 0) then -(n.natAbs : Int) else n.natAbs) = n := by
    simp only [decide_eq_true_eq]
    split <;> omega
  rw [hn] at hsigned
  exact ⟨x, hx, hsigned⟩

end Quantity

end AuditRules
