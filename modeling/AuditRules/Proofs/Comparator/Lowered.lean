import AuditRules.Proofs.Comparator.Mapping
import AuditRules.Proofs.Comparator.Related
import AuditRules.Proofs.Value.Lowered

namespace AuditRules

open Evaluation (Related)

abbrev Value.PlainTexts : Value → Prop := Value.Plain fun _ ↦ True

namespace MappingRule

variable {ctx : Context} {ignoreCase : Bool} {key : String} {expected v w : Value}

/-- Whether a value fits, whatever is said when it does not. -/
def FitsAlike (x y : Evaluation (Option String)) : Prop :=
  Related .outcomes (Option.Rel fun _ _ ↦ True) x y

theorem valueMismatch?_whole_lowered (huntyped : expected.isTypedRule = false)
    (hwhole : expected.isObject = false ∨ v.isObject = false) (hv : v.LoweredAnywhere w) :
    FitsAlike (valueMismatch? ctx true key expected v)
      (valueMismatch? ctx true key expected w) := by
  have hequal := hv.equalFolded_eq hwhole
  rw [valueMismatch?_whole huntyped hwhole,
    valueMismatch?_whole huntyped (hv.isObject_eq ▸ hwhole), hequal]
  cases w.equalFolded true expected with
  | true => exact .pure .none
  | false => exact .pure (.some trivial)

theorem mismatch?_lowered {pattern xs ys : Fields}
    (hpattern : ∀ entry ∈ pattern, ∀ key v w, v.LoweredAnywhere w →
      FitsAlike (valueMismatch? ctx true key entry.2 v) (valueMismatch? ctx true key entry.2 w))
    (hxs : xs.Rel Value.LoweredAnywhere ys) :
    FitsAlike (mismatch? ctx true pattern xs) (mismatch? ctx true pattern ys) := by
  induction pattern with
  | nil =>
    rw [mismatch?, mismatch?]
    exact .pure .none
  | cons entry rest ih =>
    obtain ⟨key, expected⟩ := entry
    have hkey := hxs key
    rw [mismatch?, mismatch?]
    generalize Fields.get? xs key = x, Fields.get? ys key = y at hkey ⊢
    cases hkey with
    | none => exact .pure (.some trivial)
    | some hv =>
      have hentry := hpattern (key, expected) List.mem_cons_self key _ _ hv
      have hrest := ih fun entry hmem ↦ hpattern entry (List.mem_cons_of_mem _ hmem)
      refine .bind hentry fun r r' hr ↦ ?_
      cases hr with
      | some => exact .pure (.some trivial)
      | none => exact hrest

theorem valueMismatch?_lowered (hexpected : expected.PlainTexts) (key : String) (v w : Value)
    (hv : v.LoweredAnywhere w) :
    FitsAlike (valueMismatch? ctx true key expected v)
      (valueMismatch? ctx true key expected w) := by
  induction hexpected generalizing key v w with
  | null | bool | number | string =>
    exact valueMismatch?_whole_lowered rfl (.inl rfl) hv
  | @object inner huntyped _ ih =>
    cases v with
    | null | bool | number | string | array =>
      exact valueMismatch?_whole_lowered huntyped (.inr rfl) hv
    | object xs =>
      cases w with
      | null | bool | number | string | array => cases hv.isObject_eq
      | object ys =>
        rw [valueMismatch?_object huntyped, valueMismatch?_object huntyped]
        refine .bind (mismatch?_lowered ih hv.rel) fun r r' hr ↦ ?_
        cases hr with
        | none => exact .pure .none
        | some => exact .pure (.some trivial)

theorem compareFields_lowered {pattern xs ys : Fields}
    (hpattern : ∀ entry ∈ pattern, entry.2.PlainTexts) (hxs : xs.Rel Value.LoweredAnywhere ys) :
    Related .outcomes Likeness.outcomes.verdicts
      (compareFields ctx .entries true (.object pattern) v xs)
      (compareFields ctx .entries true (.object pattern) w ys) := by
  have hfits : FitsAlike (mismatch? ctx true pattern xs) (mismatch? ctx true pattern ys) :=
    mismatch?_lowered (fun entry hentry ↦ valueMismatch?_lowered (hpattern entry hentry)) hxs
  refine .bind (.liftM_eq _) fun found found' hfound ↦ ?_
  obtain ⟨rfl, hfound⟩ := hfound
  obtain rfl := Value.object.inj (expectedMapping_ok hfound)
  refine .bind hfits fun r r' hr ↦ ?_
  cases hr with
  | none => exact .pure (Likeness.verdicts_refl _)
  | some => exact related_fail trivial

end MappingRule

namespace SequenceRule

theorem hits_lowered {key : String} {arg : Fields} {names cased : String → Prop} {v w : Value}
    (hnames : Value.Unmistakable names cased)
    (harg : ∀ entry ∈ arg, entry.2.Plain fun s ↦ entry.1 = key → names s)
    (hv : v.LoweredAt key cased w) : hits key v arg = hits key w arg := by
  cases hv with
  | other => rfl
  | @element xs ys hkeys h =>
    have hvalue := (Value.LoweredAt.element hkeys h).rel_key
    rw [hits_object, hits_object]
    cases hp : arg.get? key with
    | none => simp
    | some p =>
      have hplain : p.Plain names :=
        (harg (key, p) (Fields.mem_of_get? hp)).mono fun s hs ↦ hs rfl
      generalize xs.get? key = x, ys.get? key = y at hvalue ⊢
      cases hvalue with
      | none => rfl
      | some hxy => exact hxy.equal_eq hnames hplain

end SequenceRule

end AuditRules
