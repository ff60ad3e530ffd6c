import AuditRules.Proofs.Text.LetterCase
import AuditRules.Proofs.Value.Correspondence

namespace AuditRules

namespace Fields

variable (R : String → Value → Value → Prop) {xs ys : Fields}

theorem forall₂_of_keys (hkeys : xs.keys = ys.keys)
    (h : ∀ x y, (x, y) ∈ xs.zip ys → R x.1 x.2 y.2) :
    List.Forall₂ (fun x y ↦ x.1 = y.1 ∧ R x.1 x.2 y.2) xs ys := by
  induction xs generalizing ys with
  | nil =>
    have hnil : ys = [] := List.map_eq_nil_iff.1 hkeys.symm
    rw [hnil]
    exact .nil
  | cons x xs ih =>
    cases ys with
    | nil => cases hkeys
    | cons y ys =>
      obtain ⟨hkey, hrest⟩ := List.cons.inj hkeys
      refine .cons ⟨hkey, h x y List.mem_cons_self⟩ (ih hrest ?_)
      intro x' y' hmem
      exact h x' y' (List.mem_cons_of_mem _ hmem)

theorem get?_rel (hkeys : xs.keys = ys.keys) (h : ∀ x y, (x, y) ∈ xs.zip ys → R x.1 x.2 y.2)
    (key : String) : Option.Rel (R key) (xs.get? key) (ys.get? key) := by
  have hentries := forall₂_of_keys R hkeys h
  clear hkeys h
  induction hentries with
  | nil => exact .none
  | @cons x y xs ys hxy _ ih =>
    obtain ⟨hkey, hvalue⟩ := hxy
    rw [get?, get?, List.lookup_cons, List.lookup_cons, ← hkey]
    cases hfound : key == x.1 with
    | true =>
      obtain rfl := beq_iff_eq.1 hfound
      exact .some hvalue
    | false => exact ih

end Fields

namespace Value

/-- The same value, but that texts of a certain kind, themselves or in mappings at any depth, may be
in lower case. -/
inductive Lowered (cased : String → Prop) : Value → Value → Prop
  | same (v : Value) : Lowered cased v v
  | text {s : String} (h : cased s) : Lowered cased (.string s) (.string (LetterCase.lower s))
  | object {xs ys : Fields} (hkeys : xs.keys = ys.keys)
      (h : ∀ x y, (x, y) ∈ xs.zip ys → Lowered cased x.2 y.2) :
      Lowered cased (.object xs) (.object ys)

/-- A mapping with values in which texts may be in lower case, under one key only texts of a certain
kind. Anything else is the same. -/
inductive LoweredAt (key : String) (cased : String → Prop) : Value → Value → Prop
  | other {v : Value} (h : v.isObject = false) : LoweredAt key cased v v
  | element {xs ys : Fields} (hkeys : xs.keys = ys.keys)
      (h : ∀ x y, (x, y) ∈ xs.zip ys → Lowered (fun s ↦ x.1 = key → cased s) x.2 y.2) :
      LoweredAt key cased (.object xs) (.object ys)

inductive Plain (texts : String → Prop) : Value → Prop
  | null : Plain texts .null
  | bool (b : Bool) : Plain texts (.bool b)
  | number (n : Number) : Plain texts (.number n)
  | string {s : String} (h : texts s) : Plain texts (.string s)
  | object {fields : Fields} (huntyped : (Value.object fields).isTypedRule = false)
      (h : ∀ entry ∈ fields, Plain texts entry.2) : Plain texts (.object fields)

variable {cased cased' texts texts' : String → Prop} {v w p : Value}

theorem Lowered.mono (hcased : ∀ s, cased s → cased' s) (h : Lowered cased v w) :
    Lowered cased' v w := by
  induction h with
  | same => exact .same _
  | text h => exact .text (hcased _ h)
  | object hkeys _ ih => exact .object hkeys ih

theorem Plain.mono (htexts : ∀ s, texts s → texts' s) (h : Plain texts p) : Plain texts' p := by
  induction h with
  | null => exact .null
  | bool b => exact .bool b
  | number n => exact .number n
  | string h => exact .string (htexts _ h)
  | object huntyped _ ih => exact .object huntyped ih

/-- Texts can be lowered without becoming one of some names or ceasing to be one. -/
def Unmistakable (names cased : String → Prop) : Prop :=
  ∀ s, names s → ∀ t, cased t → (t = s ↔ LetterCase.lower t = s)

theorem equalFields_congr {xs ys ps : Fields}
    (h : List.Forall₂ (fun x y ↦ x.1 = y.1 ∧ ∀ entry ∈ ps, x.2.equal entry.2 = y.2.equal entry.2)
      xs ys) : equalFields xs ps = equalFields ys ps := by
  induction h with
  | nil => rfl
  | @cons x y _ _ hxy _ ih =>
    obtain ⟨key, v⟩ := x
    obtain ⟨key', w⟩ := y
    obtain ⟨rfl, hequal⟩ := hxy
    rw [equalFields, equalFields, ih]
    cases hp : ps.get? key with
    | none => rfl
    | some p => rw [Option.any_some, Option.any_some, hequal _ (Fields.mem_of_get? hp)]

theorem Lowered.equal_eq (hnames : Unmistakable texts cased) (h : Lowered cased v w)
    (hp : Plain texts p) : v.equal p = w.equal p := by
  induction h generalizing p with
  | same => rfl
  | @text t ht =>
    cases hp with
    | @string s hs =>
      rw [equal, equal, Bool.eq_iff_iff, beq_iff_eq, beq_iff_eq]
      exact hnames s hs t ht
    | null | bool | number | object => rfl
  | @object xs ys hkeys _ ih =>
    cases hp with
    | @object ps _ hps =>
      have hlength : xs.length = ys.length := by
        have := congrArg List.length hkeys
        simpa only [Fields.keys, List.length_map] using this
      have hfields : equalFields xs ps = equalFields ys ps := by
        apply equalFields_congr
        apply Fields.forall₂_of_keys
          (fun _ v w ↦ ∀ entry ∈ ps, v.equal entry.2 = w.equal entry.2) hkeys
        intro x y hxy entry hentry
        exact ih x y hxy (hps entry hentry)
      rw [equal, equal, hlength, hfields]
    | null | bool | number | string => rfl

theorem Lowered.equalFolded_eq (h : Lowered cased v w)
    (hwhole : p.isObject = false ∨ v.isObject = false) :
    v.equalFolded true p = w.equalFolded true p := by
  cases h with
  | same => rfl
  | text => simp only [equalFolded, foldCase, if_true, LetterCase.lower_lower]
  | object =>
    -- A mapping equals no text, no matter what it holds.
    rcases hwhole with hp | hv
    · cases p with
      | object => cases hp
      | null | bool | number | string | array => rfl
    · cases hv

theorem Lowered.isObject_eq (h : Lowered cased v w) : v.isObject = w.isObject := by
  cases h <;> rfl

theorem Lowered.rel {xs ys : Fields} (h : Lowered cased (.object xs) (.object ys)) :
    xs.Rel (Lowered cased) ys := by
  cases h with
  | same =>
    intro key
    cases xs.get? key with
    | none => exact .none
    | some v => exact .some (.same v)
  | object hkeys h =>
    exact Fields.get?_rel (fun _ ↦ Lowered cased) hkeys h

abbrev LoweredAnywhere : Value → Value → Prop := Lowered fun _ ↦ True

theorem LoweredAt.rel_key {key : String} {xs ys : Fields}
    (h : LoweredAt key cased (.object xs) (.object ys)) :
    Option.Rel (Lowered cased) (xs.get? key) (ys.get? key) := by
  cases h with
  | other h => cases h
  | element hkeys h =>
    have hvalue := Fields.get?_rel (fun other ↦ Lowered fun s ↦ other = key → cased s) hkeys h key
    generalize xs.get? key = x, ys.get? key = y at hvalue ⊢
    cases hvalue with
    | none => exact .none
    | some hxy => exact .some (hxy.mono fun s hs ↦ hs rfl)

theorem LoweredAt.rel {key : String} {xs ys : Fields}
    (h : LoweredAt key cased (.object xs) (.object ys)) : xs.Rel LoweredAnywhere ys := by
  cases h with
  | other h => cases h
  | element hkeys h =>
    apply Fields.get?_rel (fun _ ↦ LoweredAnywhere) hkeys
    intro x y hxy
    exact (h x y hxy).mono fun _ _ ↦ trivial

end Value

end AuditRules
