import AuditRules.Proofs.Value.Equality
import AuditRules.Proofs.Value.Reordered
import Mathlib.Data.List.Perm.Basic

namespace AuditRules

namespace Number

variable {a b : Number}

theorem equal_self (ha : a.IsJson) : a.equal a = true := by
  rw [equal_iff ha ha]
  cases a <;> rfl

theorem order_eq_of_equal (ha : a.IsJson) (hb : b.IsJson) (h : a.equal b = true) :
    a.order b = .eq := by
  rcases int64_cases a b with hnone | ⟨i, j, hi, hj⟩
  · rw [order_of_not_int64 ha hb hnone, quanta_eq_of_equal ha hb h]
    exact Std.ReflCmp.compare_self
  · obtain ⟨rfl, -⟩ := toInt64?_eq_some.1 hi
    obtain ⟨rfl, -⟩ := toInt64?_eq_some.1 hj
    have hij : i = j := (equal_iff ha hb).1 h
    rw [order_of_int64 hi hj, hij]
    exact Std.ReflCmp.compare_self

end Number

theorem equalItems_iff_forall₂ {xs ys : List Value} :
    equalItems xs ys = true ↔ List.Forall₂ (fun x y ↦ x.equal y = true) xs ys := by
  induction xs generalizing ys with
  | nil => cases ys <;> simp [equalItems]
  | cons x xs ih => cases ys <;> simp [equalItems, ih]

theorem equalItems_symm {xs ys : List Value}
    (hsymm : ∀ x ∈ xs, ∀ y ∈ ys, x.equal y = true → y.equal x = true)
    (h : equalItems xs ys = true) : equalItems ys xs = true := by
  induction xs generalizing ys with
  | nil =>
    cases ys with
    | nil => rfl
    | cons y ys => cases h
  | cons x xs ih =>
    cases ys with
    | nil => cases h
    | cons y ys =>
      rw [equalItems, Bool.and_eq_true] at h ⊢
      refine ⟨hsymm x List.mem_cons_self y List.mem_cons_self h.1, ih ?_ h.2⟩
      intro u hu v hv
      exact hsymm u (List.mem_cons_of_mem x hu) v (List.mem_cons_of_mem y hv)

theorem equalFields_finds {xs ys : Fields} (h : equalFields xs ys = true) {key : String}
    {v : Value} (hv : (key, v) ∈ xs) : ∃ w, (key, w) ∈ ys ∧ v.equal w = true := by
  have hany := equalFields_iff.1 h (key, v) hv
  obtain ⟨w, hw, hequal⟩ := (Option.any_eq_true _ _).1 hany
  exact ⟨w, Fields.mem_of_get? hw, hequal⟩

theorem orderItems_swap {xs ys : List Value}
    (hswap : ∀ x ∈ xs, ∀ y ∈ ys, y.orderSorted x = (x.orderSorted y).swap) :
    orderItems ys xs = (orderItems xs ys).swap := by
  induction xs generalizing ys with
  | nil => cases ys <;> rfl
  | cons x xs ih =>
    cases ys with
    | nil => rfl
    | cons y ys =>
      have hhead := hswap x List.mem_cons_self y List.mem_cons_self
      have htail := ih fun u hu v hv ↦
        hswap u (List.mem_cons_of_mem x hu) v (List.mem_cons_of_mem y hv)
      rw [orderItems, orderItems, hhead, htail, Ordering.swap_then]

theorem orderFields_swap {xs ys : Fields}
    (hswap : ∀ x ∈ xs, ∀ y ∈ ys, y.2.orderSorted x.2 = (x.2.orderSorted y.2).swap) :
    orderFields ys xs = (orderFields xs ys).swap := by
  induction xs generalizing ys with
  | nil => cases ys <;> rfl
  | cons x xs ih =>
    cases ys with
    | nil => rfl
    | cons y ys =>
      have hkey : compare y.1 x.1 = (compare x.1 y.1).swap := Std.OrientedOrd.eq_swap
      have hhead := hswap x List.mem_cons_self y List.mem_cons_self
      have htail := ih fun u hu v hv ↦
        hswap u (List.mem_cons_of_mem x hu) v (List.mem_cons_of_mem y hv)
      rw [orderFields, orderFields, hkey, hhead, htail, Ordering.swap_then, Ordering.swap_then]

theorem orderItems_tie {xs ys : List Value} (hequal : equalItems xs ys = true)
    (htie : ∀ x ∈ xs, ∀ y ∈ ys, x.equal y = true → x.order y = .eq) :
    orderItems (xs.map Value.sortKeys) (ys.map Value.sortKeys) = .eq := by
  induction xs generalizing ys with
  | nil =>
    cases ys with
    | nil => rfl
    | cons y ys => cases hequal
  | cons x xs ih =>
    cases ys with
    | nil => cases hequal
    | cons y ys =>
      rw [equalItems, Bool.and_eq_true] at hequal
      rw [List.map_cons, List.map_cons, orderItems, Ordering.then_eq_eq]
      refine ⟨htie x List.mem_cons_self y List.mem_cons_self hequal.1, ih hequal.2 ?_⟩
      intro u hu v hv
      exact htie u (List.mem_cons_of_mem x hu) v (List.mem_cons_of_mem y hv)

/-- Entries with the same keys in the same places tie if the values under each key do. -/
theorem orderFields_tie {xs ys : Fields} (hkeys : xs.keys = ys.keys)
    (htie : ∀ key v w, (key, v) ∈ xs → (key, w) ∈ ys → v.orderSorted w = .eq) :
    orderFields xs ys = .eq := by
  induction xs generalizing ys with
  | nil =>
    cases ys with
    | nil => rfl
    | cons y ys => cases hkeys
  | cons x xs ih =>
    cases ys with
    | nil => cases hkeys
    | cons y ys =>
      obtain ⟨key, v⟩ := x
      obtain ⟨key', w⟩ := y
      obtain ⟨rfl, hrest⟩ := List.cons_eq_cons.1 hkeys
      have hvalue := htie key v w List.mem_cons_self List.mem_cons_self
      rw [orderFields, Std.ReflOrd.compare_self, hvalue, Ordering.eq_then, Ordering.eq_then]
      apply ih hrest
      intro k u u' hu hu'
      exact htie k u u' (List.mem_cons_of_mem _ hu) (List.mem_cons_of_mem _ hu')

namespace Fields

theorem sortFields_keys (fields : Fields) : (sortFields fields).keys = fields.keys := by
  rw [sortFields_eq, keys, List.map_map]
  rfl

theorem sortKeys_increasing {fields : Fields} (hkeys : fields.keys.Nodup) :
    fields.sortKeys.keys.Pairwise (· < ·) := insertionSort_increasing Prod.fst hkeys

/-- Mappings with the same keys have them in the same places once they are sorted. -/
theorem sortKeys_keys {xs ys : Fields} (hkeys : xs.keys.Nodup) (hperm : xs.keys.Perm ys.keys) :
    xs.sortKeys.keys = ys.sortKeys.keys := by
  have hperm' : xs.sortKeys.keys.Perm ys.sortKeys.keys := by
    have hxs := (sortKeys_perm xs).map Prod.fst
    have hys := (sortKeys_perm ys).map Prod.fst
    exact hxs.trans (hperm.trans hys.symm)
  apply hperm'.eq_of_pairwise _ (sortKeys_increasing hkeys)
    (sortKeys_increasing (hperm.nodup hkeys))
  intro k l _ _ hkl hlk
  exact absurd hlk (String.lt_asymm hkl)

end Fields

namespace Value

variable {a b : Value}

/-- Mappings are equal if they have the same keys and equal values under each of them. -/
theorem equal_object_iff {xs ys : Fields} (hxs : xs.keys.Nodup) (hys : ys.keys.Nodup) :
    (object xs).equal (.object ys) = true ↔ xs.keys.Perm ys.keys ∧
      ∀ key v w, (key, v) ∈ xs → (key, w) ∈ ys → v.equal w = true := by
  rw [equal, Bool.and_eq_true, beq_iff_eq]
  constructor
  · rintro ⟨hlength, hfields⟩
    constructor
    · have hsubset : xs.keys ⊆ ys.keys := by
        intro key hkey
        obtain ⟨v, hv⟩ := Fields.mem_keys.1 hkey
        obtain ⟨w, hw, -⟩ := equalFields_finds hfields hv
        exact Fields.mem_keys.2 ⟨w, hw⟩
      apply (List.subperm_of_subset hxs hsubset).perm_of_length_le
      simp only [Fields.keys, List.length_map, hlength, Nat.le_refl]
    · intro key v w hv hw
      obtain ⟨w', hw', hequal⟩ := equalFields_finds hfields hv
      rwa [Fields.eq_of_mem hys hw hw']
  · rintro ⟨hperm, hvalues⟩
    constructor
    · simpa only [Fields.keys, List.length_map] using hperm.length_eq
    · rw [equalFields_iff]
      rintro ⟨key, v⟩ hv
      obtain ⟨w, hw⟩ := Fields.mem_keys.1 (hperm.mem_iff.1 (Fields.mem_keys.2 ⟨v, hv⟩))
      rw [Fields.get?_of_mem hys hw, Option.any_some]
      exact hvalues key v w hv hw

theorem equal_symm (ha : a.Over Number.IsJson) (hb : b.Over Number.IsJson)
    (h : a.equal b = true) : b.equal a = true := by
  induction ha generalizing b with
  | null => cases hb with
    | null => rfl
    | bool | number | string | array | object => cases h
  | bool x => cases hb with
    | bool y => exact beq_iff_eq.2 (beq_iff_eq.1 h).symm
    | null | number | string | array | object => cases h
  | number hm => cases hb with
    | number hn => exact Number.equal_symm hm hn h
    | null | bool | string | array | object => cases h
  | string s => cases hb with
    | string t => exact beq_iff_eq.2 (beq_iff_eq.1 h).symm
    | null | bool | number | array | object => cases h
  | array _ ih => cases hb with
    | array hys =>
      rw [equal] at h ⊢
      apply equalItems_symm _ h
      intro x hx y hy
      exact ih x hx (hys y hy)
    | null | bool | number | string | object => cases h
  | object hxs _ ih => cases hb with
    | object hys hvalues =>
      obtain ⟨hperm, hequal⟩ := (equal_object_iff hxs hys).1 h
      apply (equal_object_iff hys hxs).2
      refine ⟨hperm.symm, ?_⟩
      intro key w v hw hv
      exact ih (key, v) hv (hvalues (key, w) hw) (hequal key v w hv hw)
    | null | bool | number | string | array => cases h

theorem Reordered.equal (h : a.Reordered b) (ha : a.Over Number.IsJson) : a.equal b = true := by
  induction h with
  | null => rfl
  | bool b => exact beq_self_eq_true b
  | number n => cases ha with
    | number hn => exact Number.equal_self hn
  | string s => exact beq_self_eq_true s
  | @array xs ys hlength _ ih => cases ha with
    | array hxs =>
      rw [Value.equal, equalItems_iff_forall₂, List.forall₂_iff_zip]
      refine ⟨hlength, ?_⟩
      intro v w hvw
      exact ih v w hvw (hxs v (List.of_mem_zip hvw).1)
  | object hkeys hperm _ ih => cases ha with
    | object _ hxs =>
      apply (equal_object_iff hkeys (hperm.nodup hkeys)).2
      refine ⟨hperm, ?_⟩
      intro key v w hv hw
      exact ih key v w hv hw (hxs (key, v) hv)

theorem orderSorted_swap (ha : a.Over Number.IsJson) (hb : b.Over Number.IsJson) :
    b.orderSorted a = (a.orderSorted b).swap := by
  induction ha generalizing b with
  | null => cases hb <;> rfl
  | bool x => cases hb with
    | bool y => exact Std.OrientedOrd.eq_swap
    | null | number | string | array | object => rfl
  | number hm => cases hb with
    | number hn => exact Number.order_swap hm hn
    | null | bool | string | array | object => rfl
  | string s => cases hb with
    | string t => exact Std.OrientedOrd.eq_swap
    | null | bool | number | array | object => rfl
  | array _ ih => cases hb with
    | array hys =>
      apply orderItems_swap
      intro x hx y hy
      exact ih x hx (hys y hy)
    | null | bool | number | string | object => rfl
  | object _ _ ih => cases hb with
    | object _ hys =>
      apply orderFields_swap
      intro x hx y hy
      exact ih x hx (hys y hy)
    | null | bool | number | string | array => rfl

theorem order_eq_of_equal (ha : a.Over Number.IsJson) (hb : b.Over Number.IsJson)
    (h : a.equal b = true) : a.order b = .eq := by
  induction ha generalizing b with
  | null => cases hb with
    | null => rfl
    | bool | number | string | array | object => cases h
  | bool x => cases hb with
    | bool y =>
      obtain rfl := beq_iff_eq.1 h
      exact Std.ReflOrd.compare_self
    | null | number | string | array | object => cases h
  | number hm => cases hb with
    | number hn => exact Number.order_eq_of_equal hm hn h
    | null | bool | string | array | object => cases h
  | string s => cases hb with
    | string t =>
      obtain rfl := beq_iff_eq.1 h
      exact Std.ReflOrd.compare_self
    | null | bool | number | array | object => cases h
  | array _ ih => cases hb with
    | array hys =>
      rw [order, sortKeys, sortKeys, sortItems_eq, sortItems_eq]
      apply orderItems_tie h
      intro x hx y hy
      exact ih x hx (hys y hy)
    | null | bool | number | string | object => cases h
  | @object xs hxs _ ih => cases hb with
    | @object ys hys hvalues =>
      -- Sorting brings the keys, which are the same, to the same places.
      obtain ⟨hperm, hequal⟩ := (equal_object_iff hxs hys).1 h
      have hkeys :
          (Fields.sortKeys (sortFields xs)).keys = (Fields.sortKeys (sortFields ys)).keys := by
        apply Fields.sortKeys_keys
        · rwa [Fields.sortFields_keys]
        · rwa [Fields.sortFields_keys, Fields.sortFields_keys]
      rw [order, sortKeys, sortKeys]
      apply orderFields_tie hkeys
      intro key v' w' hv' hw'
      obtain ⟨v, hv, rfl⟩ := mem_sortKeys.1 hv'
      obtain ⟨w, hw, rfl⟩ := mem_sortKeys.1 hw'
      exact ih (key, v) hv (hvalues (key, w) hw) (hequal key v w hv hw)
    | null | bool | number | string | array => cases h

/-- Equality is symmetric, and a value is equal to itself with its keys in another order. -/
theorem equal_lawful (ha : a.Over Number.IsJson) (hb : b.Over Number.IsJson) :
    a.equal b = b.equal a ∧ ∀ a', a.Reordered a' → a.equal a' = true := by
  constructor
  · rw [Bool.eq_iff_iff]
    exact ⟨equal_symm ha hb, equal_symm hb ha⟩
  · intro a' h
    exact h.equal ha

def volume (bytes : Number) : Value :=
  .object [("target", .string "/tmp"),
    ("quota", .object [("files", .array [.ofInt 0, .ofInt 512]), ("bytes", .number bytes)])]

def volumeReversed (bytes : Number) : Value :=
  .object [("quota", .object [("bytes", .number bytes), ("files", .array [.ofInt 0, .ofInt 512])]),
    ("target", .string "/tmp")]

theorem volume_over {bytes : Number} (h : bytes.IsJson) :
    (volume bytes).Over Number.IsJson ∧ (volumeReversed bytes).Over Number.IsJson := by
  have hfiles : (array [ofInt 0, ofInt 512]).Over Number.IsJson := by
    apply Over.array
    simp only [List.mem_cons, List.not_mem_nil, or_false, forall_eq_or_imp, forall_eq]
    exact ⟨.number ⟨by decide, by decide⟩, .number ⟨by decide, by decide⟩⟩
  constructor
  · apply Over.object (by simp [Fields.keys])
    simp only [List.mem_cons, List.not_mem_nil, or_false, forall_eq_or_imp, forall_eq]
    refine ⟨.string "/tmp", Over.object (by simp [Fields.keys]) ?_⟩
    simp only [List.mem_cons, List.not_mem_nil, or_false, forall_eq_or_imp, forall_eq]
    exact ⟨hfiles, .number h⟩
  · apply Over.object (by simp [Fields.keys])
    simp only [List.mem_cons, List.not_mem_nil, or_false, forall_eq_or_imp, forall_eq]
    refine ⟨Over.object (by simp [Fields.keys]) ?_, .string "/tmp"⟩
    simp only [List.mem_cons, List.not_mem_nil, or_false, forall_eq_or_imp, forall_eq]
    exact ⟨.number h, hfiles⟩

theorem volume_reordered (bytes : Number) : (volume bytes).Reordered (volumeReversed bytes) := by
  have hfiles : (array [ofInt 0, ofInt 512]).Reordered (array [ofInt 0, ofInt 512]) := by
    apply Reordered.array rfl
    intro v w hvw
    simp only [List.zip_cons_cons, List.zip_nil_right, List.mem_cons, Prod.mk.injEq,
      List.not_mem_nil, or_false] at hvw
    obtain ⟨rfl, rfl⟩ | ⟨rfl, rfl⟩ := hvw
    · exact .number _
    · exact .number _
  refine Reordered.object (by simp [Fields.keys]) (List.Perm.swap "quota" "target" []) ?_
  intro key v w hv hw
  simp only [List.mem_cons, Prod.mk.injEq, List.not_mem_nil, or_false] at hv hw
  obtain ⟨rfl, rfl⟩ | ⟨rfl, rfl⟩ := hv <;> obtain ⟨hkey, rfl⟩ | ⟨hkey, rfl⟩ := hw
  · simp at hkey
  · exact .string "/tmp"
  · refine Reordered.object (by simp [Fields.keys]) (List.Perm.swap "bytes" "files" []) ?_
    intro key v w hv hw
    simp only [List.mem_cons, Prod.mk.injEq, List.not_mem_nil, or_false] at hv hw
    obtain ⟨rfl, rfl⟩ | ⟨rfl, rfl⟩ := hv <;> obtain ⟨hkey', rfl⟩ | ⟨hkey', rfl⟩ := hw
    · simp at hkey'
    · exact hfiles
    · exact .number bytes
    · simp at hkey'
  · simp at hkey

theorem equal_volumes :
    (volume (.integer 9007199254740992)).Over Number.IsJson ∧
    (volumeReversed (.double lastExact)).Over Number.IsJson ∧
    (volume (.integer 9007199254740992)).equal (volumeReversed (.double lastExact)) = true ∧
    (volumeReversed (.double lastExact)).equal (volume (.integer 9007199254740992)) = true ∧
    (volume (.integer 9007199254740992)).Reordered (volumeReversed (.integer 9007199254740992)) ∧
    (volume (.integer 9007199254740992)).equal (volumeReversed (.integer 9007199254740992)) =
      true := by
  have hjson : (Number.integer 9007199254740992).IsJson := ⟨by decide, by decide⟩
  have ha := (volume_over hjson).1
  have hdouble : (Number.double lastExact).IsJson := trivial
  have hb := (volume_over hdouble).2
  have hequal : (volume (.integer 9007199254740992)).equal (volumeReversed (.double lastExact)) =
      true := by decide +kernel
  have hreordered := volume_reordered (.integer 9007199254740992)
  refine ⟨ha, hb, hequal, ?_, hreordered, (equal_lawful ha hb).2 _ hreordered⟩
  rw [← (equal_lawful ha hb).1]
  exact hequal

/-- Exchanging two values reverses their order, and values that are equal tie. -/
theorem order_consistent (ha : a.Over Number.IsJson) (hb : b.Over Number.IsJson) :
    b.order a = (a.order b).swap ∧ (a.equal b = true → a.order b = .eq) :=
  ⟨orderSorted_swap ha.sortKeys hb.sortKeys, order_eq_of_equal ha hb⟩

theorem order_volumes :
    (volume (.integer 9007199254740992)).Over Number.IsJson ∧
    (volumeReversed (.double lastExact)).Over Number.IsJson ∧
    (volume (.integer 18446744073709551615)).Over Number.IsJson ∧
    (volumeReversed (.double lastExact)).order (volume (.integer 18446744073709551615)) = .lt ∧
    (volume (.integer 18446744073709551615)).order (volumeReversed (.double lastExact)) = .gt ∧
    (volume (.integer 9007199254740992)).equal (volumeReversed (.double lastExact)) = true ∧
    (volume (.integer 9007199254740992)).order (volumeReversed (.double lastExact)) = .eq := by
  have hjson : (Number.integer 9007199254740992).IsJson := ⟨by decide, by decide⟩
  have hjson' : (Number.integer 18446744073709551615).IsJson := ⟨by decide, by decide⟩
  have hjson'' : (Number.double lastExact).IsJson := trivial
  have hfirst := (volume_over hjson).1
  have hdouble := (volume_over hjson'').2
  have hlast := (volume_over hjson').1
  have hlt : (volumeReversed (.double lastExact)).order (volume (.integer 18446744073709551615)) =
      .lt := by decide +kernel
  have hequal : (volume (.integer 9007199254740992)).equal (volumeReversed (.double lastExact)) =
      true := by decide +kernel
  refine ⟨hfirst, hdouble, hlast, hlt, ?_, hequal, (order_consistent hfirst hdouble).2 hequal⟩
  rw [(order_consistent hdouble hlast).1, hlt]
  rfl

end Value

end AuditRules
