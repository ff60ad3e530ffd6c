import AuditRules.Proofs.Evaluation
import AuditRules.Verdict
import Mathlib.Data.List.Forall2

namespace AuditRules

/-- What makes two evaluations alike. -/
structure Likeness where
  excused : RuleError → Prop
  errors : RuleError → RuleError → Prop
  texts : String → String → Prop
  errors_refl : ∀ e, errors e e
  texts_refl : ∀ s, texts s s
  texts_append : ∀ {s s' t t'}, texts s s' → texts t t' → texts (s ++ t) (s' ++ t')
  not_excused : ∀ {e}, e.IsBadExpression → ¬ excused e
  errors_bad : ∀ {e e'}, errors e e' → (e.IsBadExpression ↔ e'.IsBadExpression)

namespace Likeness

def verdicts (L : Likeness) (v w : Verdict) : Prop :=
  v.outcome = w.outcome ∧ L.texts v.message w.message

variable {L : Likeness}

theorem verdicts_refl (v : Verdict) : L.verdicts v v := ⟨rfl, L.texts_refl v.message⟩

theorem verdicts_passed {v w : Verdict} (h : L.verdicts v w) : v.passed = w.passed := by
  simp only [Verdict.passed, h.1]

theorem verdicts_fail {s t : String} (h : L.texts s t) : L.verdicts (.fail s) (.fail t) := ⟨rfl, h⟩

theorem verdicts_ofBool (passed : Bool) {s t : String} (h : L.texts s t) :
    L.verdicts (.ofBool passed s) (.ofBool passed t) := by
  cases passed with
  | true => exact verdicts_refl _
  | false => exact verdicts_fail h

theorem texts_around {s t : String} (h : L.texts s t) (before after : String) :
    L.texts (before ++ s ++ after) (before ++ t ++ after) :=
  L.texts_append (L.texts_append (L.texts_refl before) h) (L.texts_refl after)

theorem texts_after {s t : String} (h : L.texts s t) (before : String) :
    L.texts (before ++ s) (before ++ t) :=
  L.texts_append (L.texts_refl before) h

end Likeness

namespace Evaluation

variable {α β γ δ : Type} {L : Likeness} {R : α → β → Prop} {S : γ → δ → Prop}

/-- The first evaluation ends in an excused error, or both end alike. -/
def Related (L : Likeness) (R : α → β → Prop) (x : Evaluation α) (y : Evaluation β) : Prop :=
  match x.result, y.result with
  | .ok a, .ok b => R a b
  | .ok _, .error _ => False
  | .error e, .ok _ => L.excused e
  | .error e, .error e' => L.excused e ∨ L.errors e e'

namespace Related

theorem of_ok {x : Evaluation α} {y : Evaluation β} {a : α} {b : β} (hx : x.result = .ok a)
    (hy : y.result = .ok b) (h : R a b) : Related L R x y := by
  simpa only [Related, hx, hy] using h

theorem of_excused {x : Evaluation α} {e : RuleError} (hx : x.result = .error e)
    (h : L.excused e) (y : Evaluation β) : Related L R x y := by
  unfold Related
  rw [hx]
  cases y.result with
  | ok b => exact h
  | error e' => exact .inl h

theorem of_error {x : Evaluation α} {y : Evaluation β} {e e' : RuleError}
    (hx : x.result = .error e) (hy : y.result = .error e') (h : L.errors e e') :
    Related L R x y := by
  simpa only [Related, hx, hy] using Or.inr h

theorem cases {x : Evaluation α} {y : Evaluation β} (h : Related L R x y) :
    (∃ e, x.result = .error e ∧ L.excused e) ∨
    (∃ a b, x.result = .ok a ∧ y.result = .ok b ∧ R a b) ∨
    (∃ e e', x.result = .error e ∧ y.result = .error e' ∧ L.errors e e') := by
  unfold Related at h
  cases hx : x.result with
  | ok a =>
    cases hy : y.result with
    | ok b => rw [hx, hy] at h; exact .inr (.inl ⟨a, b, rfl, rfl, h⟩)
    | error e' => rw [hx, hy] at h; exact h.elim
  | error e =>
    cases hy : y.result with
    | ok b => rw [hx, hy] at h; exact .inl ⟨e, rfl, h⟩
    | error e' =>
      rw [hx, hy] at h
      rcases h with h | h
      · exact .inl ⟨e, rfl, h⟩
      · exact .inr (.inr ⟨e, e', rfl, rfl, h⟩)

theorem refl {T : α → α → Prop} (h : ∀ a, T a a) (x : Evaluation α) : Related L T x x := by
  unfold Related
  cases x.result with
  | ok a => exact h a
  | error e => exact .inr (L.errors_refl e)

theorem of_result_eq {x x' : Evaluation α} {y y' : Evaluation β} (h : Related L R x' y')
    (hx : x.result = x'.result) (hy : y.result = y'.result) : Related L R x y := by
  unfold Related at h ⊢
  rwa [hx, hy]

theorem pure {a : α} {b : β} (h : R a b) : Related L R (Pure.pure a) (Pure.pure b) := h

theorem throw (e : RuleError) :
    Related L R (throw e : Evaluation α) (throw e : Evaluation β) := .inr (L.errors_refl e)

theorem liftM_eq (x : Except RuleError α) :
    Related L (fun a b ↦ a = b ∧ x = .ok a) (liftM x : Evaluation α) (liftM x : Evaluation α) := by
  cases x with
  | ok a => exact ⟨rfl, rfl⟩
  | error e => exact .inr (L.errors_refl e)

theorem liftM (x : Except RuleError α) :
    Related L Eq (liftM x : Evaluation α) (liftM x : Evaluation α) := by
  cases x with
  | ok a => exact rfl
  | error e => exact .inr (L.errors_refl e)

theorem liftM_bind (x : Except RuleError α) {f g : α → Except RuleError γ} {T : γ → γ → Prop}
    (h : ∀ a, Related L T (MonadLift.monadLift (f a)) (MonadLift.monadLift (g a))) :
    Related L T (MonadLift.monadLift (x >>= f) : Evaluation γ)
      (MonadLift.monadLift (x >>= g) : Evaluation γ) := by
  cases x with
  | ok a => exact h a
  | error e => exact .inr (L.errors_refl e)

theorem bind {x : Evaluation α} {y : Evaluation β} {f : α → Evaluation γ} {g : β → Evaluation δ}
    (h : Related L R x y) (hf : ∀ a b, R a b → Related L S (f a) (g b)) :
    Related L S (x >>= f) (y >>= g) := by
  rcases h.cases with ⟨e, hx, he⟩ | ⟨a, b, hx, hy, hab⟩ | ⟨e, e', hx, hy, he⟩
  · exact of_excused (result_bind_error hx f) he _
  · simpa only [Related, result_bind_ok hx, result_bind_ok hy] using hf a b hab
  · exact of_error (result_bind_error hx f) (result_bind_error hy g) he

theorem anyM {xs : List γ} {ys : List δ} {p : γ → Evaluation Bool} {q : δ → Evaluation Bool}
    (h : List.Forall₂ (fun x y ↦ Related L Eq (p x) (q y)) xs ys) :
    Related L Eq (xs.anyM p) (ys.anyM q) := by
  induction h with
  | nil => exact rfl
  | cons hxy _ ih =>
    refine bind hxy fun found found' hfound ↦ ?_
    subst hfound
    cases found with
    | true => exact rfl
    | false => exact ih

theorem tryCatch {x : Evaluation α} {y : Evaluation β} {f : RuleError → Evaluation α}
    {g : RuleError → Evaluation β} (h : Related L R x y)
    (hbad : ∀ e e', e.IsBadExpression → e'.IsBadExpression → Related L R (f e) (g e'))
    (hf : ∀ e, ¬ e.IsBadExpression → (f e).result = .error e)
    (hg : ∀ e, ¬ e.IsBadExpression → (g e).result = .error e) :
    Related L R (tryCatch x f) (tryCatch y g) := by
  rcases h.cases with ⟨e, hx, he⟩ | ⟨a, b, hx, hy, hab⟩ | ⟨e, e', hx, hy, he⟩
  · have hne : ¬ e.IsBadExpression := fun hb ↦ L.not_excused hb he
    exact of_excused ((result_tryCatch_error hx f).trans (hf e hne)) he _
  · exact of_ok (result_tryCatch_ok hx f) (result_tryCatch_ok hy g) hab
  · by_cases hb : e.IsBadExpression
    · simpa only [Related, result_tryCatch_error hx, result_tryCatch_error hy] using
        hbad e e' hb ((L.errors_bad he).1 hb)
    · exact of_error ((result_tryCatch_error hx f).trans (hf e hb))
        ((result_tryCatch_error hy g).trans (hg e' (mt (L.errors_bad he).2 hb))) he

end Related

end Evaluation

/-- Equality, but for a first evaluation that ends in an excused error. -/
def Likeness.unless (excused : RuleError → Prop)
    (hbad : ∀ e, e.IsBadExpression → ¬ excused e) : Likeness where
  excused := excused
  errors := Eq
  texts := Eq
  errors_refl _ := rfl
  texts_refl _ := rfl
  texts_append h h' := by rw [h, h']
  not_excused h := hbad _ h
  errors_bad h := by rw [h]

theorem Evaluation.related_unless {excused : RuleError → Prop}
    {hbad : ∀ e, e.IsBadExpression → ¬ excused e} {x y : Evaluation Verdict}
    (h : Related (.unless excused hbad) (Likeness.unless excused hbad).verdicts x y) :
    (∃ e, x.result = .error e ∧ excused e) ∨ x.result = y.result := by
  rcases h.cases with h | ⟨a, b, hx, hy, hout, htext⟩ | ⟨e, e', hx, hy, he⟩
  · exact .inl h
  · obtain ⟨o, s⟩ := a
    obtain ⟨o', s'⟩ := b
    obtain rfl : o = o' := hout
    obtain rfl : s = s' := htext
    exact .inr (hx.trans hy.symm)
  · obtain rfl : e = e' := he
    exact .inr (hx.trans hy.symm)

def Likeness.outcomesUpTo (errors : RuleError → RuleError → Prop) (hrefl : ∀ e, errors e e)
    (hbad : ∀ e e', errors e e' → (e.IsBadExpression ↔ e'.IsBadExpression)) : Likeness where
  excused _ := False
  errors := errors
  texts _ _ := True
  errors_refl := hrefl
  texts_refl _ := trivial
  texts_append _ _ := trivial
  not_excused _ := id
  errors_bad h := hbad _ _ h

def Likeness.outcomes : Likeness := .outcomesUpTo Eq (fun _ ↦ rfl) fun _ _ h ↦ h ▸ Iff.rfl

theorem Evaluation.related_outcomesUpTo {errors : RuleError → RuleError → Prop}
    {hrefl : ∀ e, errors e e}
    {hbad : ∀ e e', errors e e' → (e.IsBadExpression ↔ e'.IsBadExpression)}
    {x y : Evaluation Verdict}
    (h : Related (.outcomesUpTo errors hrefl hbad)
      (Likeness.outcomesUpTo errors hrefl hbad).verdicts x y) :
    (∃ v w, x.result = .ok v ∧ y.result = .ok w ∧ v.outcome = w.outcome) ∨
    ∃ e e', x.result = .error e ∧ y.result = .error e' ∧ errors e e' := by
  rcases h.cases with ⟨_, _, hexcused⟩ | ⟨v, w, hx, hy, houtcome, -⟩ | herror
  · exact hexcused.elim
  · exact .inl ⟨v, w, hx, hy, houtcome⟩
  · exact .inr herror

namespace Evaluation

def SameOutcome (x y : Evaluation Verdict) : Prop :=
  (∃ v w, x.result = .ok v ∧ y.result = .ok w ∧ v.outcome = w.outcome) ∨
    ∃ e, x.result = .error e ∧ y.result = .error e

theorem Related.sameOutcome {x y : Evaluation Verdict}
    (h : Related .outcomes Likeness.outcomes.verdicts x y) : SameOutcome x y := by
  rcases related_outcomesUpTo h with hsame | ⟨e, _, he, he', rfl⟩
  · exact .inl hsame
  · exact .inr ⟨e, he, he'⟩

theorem SameOutcome.notApplicable_iff {x y : Evaluation Verdict} (h : SameOutcome x y) :
    (∃ v, x.result = .ok v ∧ v.outcome = .notApplicable) ↔
      ∃ w, y.result = .ok w ∧ w.outcome = .notApplicable := by
  rcases h with ⟨v, w, hv, hw, hsame⟩ | ⟨e, he, he'⟩
  · simp [hv, hw, hsame]
  · simp [he, he']

end Evaluation

end AuditRules
