import AuditRules.Comparator.Boolean
import AuditRules.Comparator.Number
import AuditRules.Comparator.Text
import AuditRules.Proofs.Value
import AuditRules.Value.Equality
import AuditRules.Value.Shape
import Mathlib.Data.List.Forall2

namespace AuditRules

def Fields.Rel (V : Value → Value → Prop) (xs ys : Fields) : Prop :=
  ∀ key, Option.Rel V (xs.get? key) (ys.get? key)

namespace Value

/-- The same scalar, or lists or mappings of values that are related. -/
inductive Lift (V : Value → Value → Prop) : Value → Value → Prop
  | null : Lift V .null .null
  | bool (b : Bool) : Lift V (.bool b) (.bool b)
  | number (n : Number) : Lift V (.number n) (.number n)
  | string (s : String) : Lift V (.string s) (.string s)
  | array {xs ys : List Value} (h : List.Forall₂ V xs ys) : Lift V (.array xs) (.array ys)
  | object {xs ys : Fields} (h : xs.Rel V ys) : Lift V (.object xs) (.object ys)

/-- A relation between values that equality with another value does not see. -/
structure Correspondence (V : Value → Value → Prop) : Prop where
  lift : ∀ {v w}, V v w → Lift V v w
  equal : ∀ {v w}, V v w → ∀ u, v.equal u = w.equal u
  whole : ∀ n, V (.ofInt n) (.ofInt n)
  array : ∀ {xs ys}, List.Forall₂ V xs ys → V (.array xs) (.array ys)

end Value

namespace Fields

theorem rel_eq_refl (fields : Fields) : fields.Rel Eq fields := by
  intro key
  cases fields.get? key with
  | none => exact .none
  | some v => exact .some rfl

theorem Rel.contains_eq {V : Value → Value → Prop} {xs ys : Fields} (h : xs.Rel V ys)
    (key : String) : xs.contains key = ys.contains key := by
  have hkey := h key
  rw [Fields.contains_eq, Fields.contains_eq]
  generalize Fields.get? xs key = v, Fields.get? ys key = w at hkey ⊢
  cases hkey <;> rfl

end Fields

namespace Value

theorem correspondence_eq : Correspondence Eq where
  lift {v w} h := by
    subst h
    cases v with
    | null => exact .null
    | bool b => exact .bool b
    | number n => exact .number n
    | string s => exact .string s
    | array xs => exact .array (List.forall₂_same.2 fun _ _ ↦ rfl)
    | object xs => exact .object (Fields.rel_eq_refl xs)
  equal h u := by rw [h]
  whole _ := rfl
  array h := by rw [List.forall₂_eq_eq_eq] at h; rw [h]

variable {V : Value → Value → Prop} {v w : Value}

theorem Lift.toQuantity?_eq (h : Lift V v w) : v.toQuantity? = w.toQuantity? := by
  cases h <;> rfl

theorem Lift.toText?_eq (h : Lift V v w) : v.toText? = w.toText? := by
  cases h <;> rfl

theorem Lift.toBool?_eq (h : Lift V v w) : v.toBool? = w.toBool? := by
  cases h <;> rfl

theorem Correspondence.equalFolded_eq (hV : Correspondence V) (h : V v w) (ignoreCase : Bool)
    (u : Value) : v.equalFolded ignoreCase u = w.equalFolded ignoreCase u := by
  have hequal := hV.equal h (u.foldCase ignoreCase)
  cases hV.lift h with
  | string s => rfl
  | null | bool | number | array | object => exact hequal

end Value

inductive Shape.Rel (V : Value → Value → Prop) : Shape → Shape → Prop
  | whole (n : Int) : Shape.Rel V (.whole n) (.whole n)
  | mapping {xs ys : Fields} (h : xs.Rel V ys) : Shape.Rel V (.mapping xs) (.mapping ys)
  | other (v w : Value) : Shape.Rel V (.other v) (.other w)

theorem Value.Lift.shape_rel {V : Value → Value → Prop} {v w : Value} (h : Lift V v w) :
    Shape.Rel V v.shape w.shape := by
  have hscalar (v : Value) (hv : v.isObject = false) : Shape.Rel V v.shape v.shape := by
    unfold Value.shape
    split
    · exact .whole _
    · cases hv
    · exact .other _ _
  cases h with
  | null | bool | number | string => exact hscalar _ rfl
  | array h => exact .other _ _
  | object h => exact .mapping h

end AuditRules
