import AuditRules.Evaluation
import Mathlib.Data.List.Forall2

namespace AuditRules

def RuleError.IsBadExpression (e : RuleError) : Prop :=
  ∃ expression reason, e = .invalidExpression expression reason

def RuleError.IsTooDeep (e : RuleError) : Prop :=
  ∃ checkId limit, e = .nestingTooDeep checkId limit

/-- An error that lies in a rule itself, whatever the level it is evaluated at and the data that it
is put to. -/
def RuleError.IsLocal (e : RuleError) : Prop := ¬ e.IsTooDeep ∧ e ≠ .aborted

theorem RuleError.isLocal_of_code {e : RuleError} (h : e.code.any (· != .nestingLimit) = true) :
    e.IsLocal := by
  constructor
  · rintro ⟨checkId, limit, rfl⟩
    cases h
  · rintro rfl
    cases h

theorem RuleError.IsBadExpression.isLocal {e : RuleError} (h : e.IsBadExpression) : e.IsLocal := by
  obtain ⟨expression, reason, rfl⟩ := h
  exact isLocal_of_code rfl

theorem isOk_iff {α : Type} {x : Except RuleError α} : x.isOk = true ↔ ∃ a, x = .ok a := by
  cases x <;> simp [Except.isOk, Except.toBool]

theorem anyM_ok {α : Type} {p : α → Except RuleError Bool} {xs : List α}
    (h : ∀ x ∈ xs, ∃ found, p x = .ok found) : ∃ found, xs.anyM p = .ok found := by
  induction xs with
  | nil => exact ⟨false, rfl⟩
  | cons x xs ih =>
    obtain ⟨here, hx⟩ := h x List.mem_cons_self
    obtain ⟨found, hxs⟩ := ih fun y hy ↦ h y (List.mem_cons_of_mem x hy)
    rw [List.anyM, hx]
    cases here with
    | true => exact ⟨true, rfl⟩
    | false => exact ⟨found, hxs⟩

section

variable {α β ε : Type}

theorem exists_of_bind_ok {x : Except ε α} {f : α → Except ε β} {b : β} (h : (x >>= f) = .ok b) : ∃ a, x = .ok a ∧ f a = .ok b := by
  cases x with
  | ok a => exact ⟨a, rfl, h⟩
  | error e => cases h

theorem ok_bind (a : α) (f : α → Except ε β) : (.ok a >>= f) = f a := rfl

theorem error_bind (e : ε) (f : α → Except ε β) : (.error e >>= f) = .error e := rfl

theorem bind_eq_error {x : Except ε α} {f : α → Except ε β} {e : ε} (h : (x >>= f) = .error e) :
    x = .error e ∨ ∃ a, x = .ok a ∧ f a = .error e := by
  cases x with
  | ok a => exact .inr ⟨a, rfl, h⟩
  | error e' => exact .inl (congrArg Except.error (Except.error.inj h))

theorem map_eq_error {x : Except ε α} {f : α → β} {e : ε} (h : x.map f = .error e) :
    x = .error e := by
  cases x with
  | ok a => cases h
  | error e' => rw [Except.error.inj h]

theorem map_eq_ok_iff {x : Except ε α} {f : α → β} {b : β} :
    x.map f = .ok b ↔ ∃ a, x = .ok a ∧ f a = b := by
  cases x with
  | ok a => simp [Except.map]
  | error e => exact iff_of_false nofun (by simp)

theorem mapM_eq_ok_iff {f : α → Except ε β} {xs : List α} {ys : List β} :
    xs.mapM f = .ok ys ↔ List.Forall₂ (fun x y ↦ f x = .ok y) xs ys := by
  induction xs generalizing ys with
  | nil => simp [pure, Except.pure, eq_comm]
  | cons x xs ih =>
    rw [List.mapM_cons, List.forall₂_cons_left_iff]
    simp only [← ih]
    constructor
    · intro h
      obtain ⟨y, hy, h⟩ := exists_of_bind_ok h
      obtain ⟨ys', hys, h⟩ := exists_of_bind_ok h
      exact ⟨y, ys', hy, hys, (Except.ok.inj h).symm⟩
    · rintro ⟨y, ys', hy, hys, rfl⟩
      rw [hy, hys]
      rfl

end

def FailsOnly {α : Type} (allowed : RuleError → Prop) (x : Except RuleError α) : Prop :=
  ∀ e, x = .error e → allowed e

namespace FailsOnly

variable {α β : Type} {allowed : RuleError → Prop}

theorem ok (a : α) : FailsOnly allowed (.ok a) := nofun

theorem error {e : RuleError} (h : allowed e) : FailsOnly allowed (.error e : Except RuleError α) :=
  fun _ he ↦ Except.error.inj he ▸ h

theorem mono {allowed' : RuleError → Prop} {x : Except RuleError α} (h : FailsOnly allowed x)
    (hle : ∀ e, allowed e → allowed' e) : FailsOnly allowed' x :=
  fun e he ↦ hle e (h e he)

theorem map {x : Except RuleError α} (h : FailsOnly allowed x) (f : α → β) :
    FailsOnly allowed (f <$> x) := by
  cases x with
  | ok a => exact .ok (f a)
  | error e => exact .error (h e rfl)

theorem bind_eq {x : Except RuleError α} {f : α → Except RuleError β} (hx : FailsOnly allowed x)
    (hf : ∀ a, x = .ok a → FailsOnly allowed (f a)) : FailsOnly allowed (x >>= f) := by
  cases x with
  | ok a => exact hf a rfl
  | error e => exact .error (hx e rfl)

theorem bind {x : Except RuleError α} {f : α → Except RuleError β} (hx : FailsOnly allowed x)
    (hf : ∀ a, FailsOnly allowed (f a)) : FailsOnly allowed (x >>= f) :=
  hx.bind_eq fun a _ ↦ hf a

theorem anyM {p : α → Except RuleError Bool} (h : ∀ a, FailsOnly allowed (p a)) (xs : List α) :
    FailsOnly allowed (xs.anyM p) := by
  induction xs with
  | nil => exact .ok false
  | cons x xs ih =>
    refine bind (h x) fun found ↦ ?_
    cases found with
    | true => exact .ok true
    | false => exact ih

theorem mapM {f : α → Except RuleError β} (h : ∀ a, FailsOnly allowed (f a)) (xs : List α) :
    FailsOnly allowed (xs.mapM f) := by
  induction xs with
  | nil => exact .ok []
  | cons x xs ih =>
    rw [List.mapM_cons]
    exact bind (h x) fun _ ↦ bind ih fun _ ↦ .ok _

end FailsOnly

abbrev Local {α : Type} (x : Except RuleError α) : Prop := FailsOnly RuleError.IsLocal x

theorem Local.error {α : Type} {e : RuleError} (h : e.code.any (· != .nestingLimit) = true) :
    Local (.error e : Except RuleError α) :=
  FailsOnly.error (RuleError.isLocal_of_code h)

end AuditRules

namespace AuditRules.Evaluation

variable {α β γ δ : Type}

@[simp] theorem result_liftM (x : Except RuleError α) : (liftM x : Evaluation α).result = x := rfl

theorem result_bind_ok {x : Evaluation α} {a : α} (h : x.result = .ok a)
    (f : α → Evaluation β) : (x >>= f).result = (f a).result := by
  obtain ⟨events, result⟩ := x
  obtain rfl : result = _ := h
  rfl

theorem result_bind_error {x : Evaluation α} {e : RuleError} (h : x.result = .error e)
    (f : α → Evaluation β) : (x >>= f).result = .error e := by
  obtain ⟨events, result⟩ := x
  obtain rfl : result = _ := h
  rfl

theorem exists_of_result_bind_ok {x : Evaluation α} {f : α → Evaluation β} {b : β}
    (h : (x >>= f).result = .ok b) : ∃ a, x.result = .ok a ∧ (f a).result = .ok b := by
  cases hx : x.result with
  | ok a => exact ⟨a, rfl, result_bind_ok hx f ▸ h⟩
  | error e => rw [result_bind_error hx] at h; cases h

theorem result_tryCatch_ok {x : Evaluation α} {a : α} (h : x.result = .ok a)
    (handle : RuleError → Evaluation α) : (tryCatch x handle).result = .ok a := by
  obtain ⟨events, result⟩ := x
  obtain rfl : result = _ := h
  rfl

theorem result_tryCatch_error {x : Evaluation α} {e : RuleError} (h : x.result = .error e)
    (handle : RuleError → Evaluation α) :
    (tryCatch x handle).result = (handle e).result := by
  obtain ⟨events, result⟩ := x
  obtain rfl : result = _ := h
  rfl

theorem liftM_ok_bind (a : α) (f : α → Evaluation β) :
    ((liftM (.ok a : Except RuleError α) : Evaluation α) >>= f) = f a := rfl

def TooDeep (x : Evaluation α) : Prop := ∃ e, x.result = .error e ∧ e.IsTooDeep

/-- Every error is an allowed one and every result an accepted one. -/
def Ensures (allowed : RuleError → Prop) (accepted : α → Prop) (x : Evaluation α) : Prop :=
  match x.result with
  | .ok a => accepted a
  | .error e => allowed e

abbrev ErrsOnly (allowed : RuleError → Prop) (x : Evaluation α) : Prop :=
  Ensures allowed (fun _ ↦ True) x

abbrev YieldsOnly (accepted : α → Prop) (x : Evaluation α) : Prop :=
  Ensures (fun _ ↦ True) accepted x

namespace Ensures

variable {allowed allowed' : RuleError → Prop} {accepted : α → Prop} {accepted' : β → Prop}

theorem iff {x : Evaluation α} : Ensures allowed accepted x ↔
    (∀ a, x.result = .ok a → accepted a) ∧ (∀ e, x.result = .error e → allowed e) := by
  unfold Ensures
  cases x.result <;> simp

theorem of_ok {x : Evaluation α} {a : α} (h : x.result = .ok a) (ha : accepted a) :
    Ensures allowed accepted x := by
  simpa only [Ensures, h] using ha

theorem of_error {x : Evaluation α} {e : RuleError} (h : x.result = .error e) (he : allowed e) :
    Ensures allowed accepted x := by
  simpa only [Ensures, h] using he

theorem accepts {x : Evaluation α} (h : Ensures allowed accepted x) {a : α}
    (ha : x.result = .ok a) : accepted a :=
  (iff.1 h).1 a ha

theorem allows {x : Evaluation α} (h : Ensures allowed accepted x) {e : RuleError}
    (he : x.result = .error e) : allowed e :=
  (iff.1 h).2 e he

theorem bind {x : Evaluation α} {f : α → Evaluation β} (hx : Ensures allowed accepted x)
    (hf : ∀ a, accepted a → Ensures allowed accepted' (f a)) :
    Ensures allowed accepted' (x >>= f) := by
  cases h : x.result with
  | ok a => simpa only [Ensures, result_bind_ok h] using hf a (hx.accepts h)
  | error e => exact of_error (result_bind_error h f) (hx.allows h)

theorem mono {x : Evaluation α} (h : Ensures allowed accepted x)
    (he : ∀ e, allowed e → allowed' e) : Ensures allowed' accepted x :=
  iff.2 ⟨fun _ ↦ h.accepts, fun e h' ↦ he e (h.allows h')⟩

theorem liftM_eq {x : Except RuleError α} (h : FailsOnly allowed x) :
    Ensures allowed (fun a ↦ x = .ok a) (liftM x) := by
  cases x with
  | ok a => exact rfl
  | error e => exact h e rfl

theorem liftM {x : Except RuleError α} (h : FailsOnly allowed x) :
    ErrsOnly allowed (liftM x : Evaluation α) :=
  iff.2 ⟨fun _ _ ↦ trivial, fun _ ↦ (liftM_eq h).allows⟩

/-- A handler has to answer for every error that is not allowed after it. -/
theorem tryCatch {x : Evaluation α} {handle : RuleError → Evaluation α}
    (hx : Ensures allowed accepted x)
    (hh : ∀ e, allowed e → Ensures allowed' accepted (handle e)) :
    Ensures allowed' accepted (tryCatch x handle) := by
  cases h : x.result with
  | ok a => exact of_ok (result_tryCatch_ok h handle) (hx.accepts h)
  | error e => simpa only [Ensures, result_tryCatch_error h] using hh e (hx.allows h)

theorem anyM {p : γ → Evaluation Bool} {xs : List γ}
    (h : ∀ x ∈ xs, ErrsOnly allowed (p x)) : ErrsOnly allowed (xs.anyM p) := by
  induction xs with
  | nil => exact trivial
  | cons x xs ih =>
    refine bind (h x List.mem_cons_self) fun found _ ↦ ?_
    cases found with
    | true => exact trivial
    | false => exact ih fun y hy ↦ h y (List.mem_cons_of_mem x hy)

end Ensures

namespace YieldsOnly

variable {accepted : β → Prop}

theorem weaken {accepted' : β → Prop} {x : Evaluation β} (h : YieldsOnly accepted x)
    (hle : ∀ b, accepted b → accepted' b) : YieldsOnly accepted' x :=
  Ensures.iff.2 ⟨fun b hb ↦ hle b (h.accepts hb), fun _ _ ↦ trivial⟩

theorem bind {x : Evaluation α} {f : α → Evaluation β} (h : ∀ a, YieldsOnly accepted (f a)) :
    YieldsOnly accepted (x >>= f) := by
  have hx : YieldsOnly (fun _ ↦ True) x := Ensures.iff.2 ⟨fun _ _ ↦ trivial, fun _ _ ↦ trivial⟩
  exact Ensures.bind hx fun a _ ↦ h a

theorem liftM_bind {x : Except RuleError α} {f : α → Except RuleError β}
    (h : ∀ a, YieldsOnly accepted (liftM (f a))) : YieldsOnly accepted (liftM (x >>= f)) := by
  cases x with
  | ok a => exact h a
  | error e => exact trivial

end YieldsOnly

end AuditRules.Evaluation
