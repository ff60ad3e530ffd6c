import AuditRules.Proofs.Value.Correspondence
import AuditRules.Proofs.Value.Order

namespace AuditRules

namespace Value

/-- The same value, but that mappings at any depth may have their keys in another order. A mapping
has each of its keys once. -/
inductive Reordered : Value → Value → Prop
  | null : Reordered .null .null
  | bool (b : Bool) : Reordered (.bool b) (.bool b)
  | number (n : Number) : Reordered (.number n) (.number n)
  | string (s : String) : Reordered (.string s) (.string s)
  | array {xs ys : List Value} (hlength : xs.length = ys.length)
      (h : ∀ v w, (v, w) ∈ xs.zip ys → Reordered v w) : Reordered (.array xs) (.array ys)
  | object {xs ys : Fields} (hkeys : xs.keys.Nodup) (hperm : xs.keys.Perm ys.keys)
      (h : ∀ key v w, (key, v) ∈ xs → (key, w) ∈ ys → Reordered v w) :
      Reordered (.object xs) (.object ys)

end Value

namespace Fields

variable {xs ys : Fields} {key : String} {v w : Value}

theorem eq_of_mem (hkeys : xs.keys.Nodup) (hv : (key, v) ∈ xs) (hw : (key, w) ∈ xs) : v = w :=
  Option.some.inj ((get?_of_mem hkeys hv).symm.trans (get?_of_mem hkeys hw))

theorem mem_keys : key ∈ xs.keys ↔ ∃ v, (key, v) ∈ xs := by
  simp [keys]

theorem get?_eq_none : xs.get? key = none ↔ key ∉ xs.keys := by
  rw [← Option.not_isSome_iff_eq_none, ← contains_eq]
  simp [contains, keys]

end Fields

namespace Value

theorem Reordered.refl {S : Number → Prop} {v : Value} (h : v.Over S) : v.Reordered v := by
  induction h with
  | null => exact .null
  | bool b => exact .bool b
  | number => exact .number _
  | string s => exact .string s
  | array _ ih =>
    have hitems := List.forall₂_iff_zip.1 (List.forall₂_same.2 ih)
    exact .array rfl fun v w hvw ↦ hitems.2 hvw
  | object hkeys _ ih =>
    refine .object hkeys (.refl _) fun key v w hv hw ↦ ?_
    obtain rfl := Fields.eq_of_mem hkeys hv hw
    exact ih (key, v) hv

theorem Reordered.of_perm {S : Number → Prop} {xs ys : Fields} (h : (Value.object xs).Over S)
    (hperm : xs.Perm ys) : Reordered (.object xs) (.object ys) := by
  cases h with
  | object hkeys hvalues =>
    refine .object hkeys (hperm.map Prod.fst) fun key v w hv hw ↦ ?_
    obtain rfl := Fields.eq_of_mem hkeys hv (hperm.mem_iff.2 hw)
    exact .refl (hvalues (key, v) hv)

theorem Reordered.equalItems_eq {xs ys : List Value}
    (h : List.Forall₂ (fun v w ↦ ∀ u : Value, v.equal u = w.equal u) xs ys) (us : List Value) :
    equalItems xs us = equalItems ys us := by
  induction h generalizing us with
  | nil => rfl
  | cons hv _ ih =>
    cases us with
    | nil => rfl
    | cons u us => rw [equalItems, equalItems, hv u, ih us]

theorem Reordered.equalFields_eq {xs ys : Fields} (hperm : xs.keys.Perm ys.keys)
    (h : ∀ key v w, (key, v) ∈ xs → (key, w) ∈ ys → ∀ u : Value, v.equal u = w.equal u)
    (us : Fields) : equalFields xs us = equalFields ys us := by
  rw [Bool.eq_iff_iff, equalFields_iff, equalFields_iff]
  constructor
  · rintro hxs ⟨key, w⟩ hw
    obtain ⟨v, hv⟩ := Fields.mem_keys.1 (hperm.mem_iff.2 (Fields.mem_keys.2 ⟨w, hw⟩))
    have hequal : v.equal = w.equal := funext (h key v w hv hw)
    exact hequal ▸ hxs (key, v) hv
  · rintro hys ⟨key, v⟩ hv
    obtain ⟨w, hw⟩ := Fields.mem_keys.1 (hperm.mem_iff.1 (Fields.mem_keys.2 ⟨v, hv⟩))
    have hequal : v.equal = w.equal := funext (h key v w hv hw)
    exact hequal ▸ hys (key, w) hw

/-- Equality with another value does not see the order of keys. -/
theorem Reordered.equal_eq {v w : Value} (h : v.Reordered w) (u : Value) :
    v.equal u = w.equal u := by
  induction h generalizing u with
  | null | bool | number | string => rfl
  | array hlength _ ih =>
    cases u with
    | array us => exact equalItems_eq (List.forall₂_iff_zip.2 ⟨hlength, fun h ↦ ih _ _ h⟩) us
    | null | bool | number | string | object => rfl
  | object _ hperm _ ih =>
    cases u with
    | object us =>
      have hlength := hperm.length_eq
      simp only [Fields.keys, List.length_map] at hlength
      rw [equal, equal, hlength, equalFields_eq hperm ih]
    | null | bool | number | string | array => rfl

theorem Reordered.rel {xs ys : Fields} (hkeys : xs.keys.Nodup) (hperm : xs.keys.Perm ys.keys)
    (h : ∀ key v w, (key, v) ∈ xs → (key, w) ∈ ys → Reordered v w) : xs.Rel Reordered ys := by
  intro key
  by_cases hkey : key ∈ xs.keys
  · obtain ⟨v, hv⟩ := Fields.mem_keys.1 hkey
    obtain ⟨w, hw⟩ := Fields.mem_keys.1 (hperm.mem_iff.1 hkey)
    rw [Fields.get?_of_mem hkeys hv, Fields.get?_of_mem (hperm.nodup hkeys) hw]
    exact .some (h key v w hv hw)
  · rw [Fields.get?_eq_none.2 hkey, Fields.get?_eq_none.2 (mt hperm.mem_iff.2 hkey)]
    exact .none

theorem correspondence_reordered : Correspondence Reordered where
  lift h := by
    cases h with
    | null => exact .null
    | bool b => exact .bool b
    | number n => exact .number n
    | string s => exact .string s
    | array hlength h => exact .array (List.forall₂_iff_zip.2 ⟨hlength, fun hvw ↦ h _ _ hvw⟩)
    | object hkeys hperm h => exact .object (Reordered.rel hkeys hperm h)
  equal := Reordered.equal_eq
  whole _ := .number _
  array h := by
    obtain ⟨hlength, hzip⟩ := List.forall₂_iff_zip.1 h
    exact .array hlength fun v w hvw ↦ hzip hvw

end Value

end AuditRules
