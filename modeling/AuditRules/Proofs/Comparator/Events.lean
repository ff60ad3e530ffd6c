import AuditRules.Proofs.Comparator
import AuditRules.Proofs.Comparator.Sequence

namespace AuditRules

variable {engine : PatternEngine}

namespace Event

def stepMessages : List String :=
  ["Running number comparator", "Running string comparator", "Running boolean::match",
    "Running dict comparator", "Running list comparator", "Actual value is not a list",
    "Pattern is not a number expression", "Empty list received in list::match",
    "list::filter_compare filtered elements"]

/-- An event on the way to a verdict, as opposed to the one that closes an evaluation. -/
structure IsStep (e : Event) : Prop where
  level : e.level = .debug
  code : e.code = none
  message : e.message ∈ stepMessages

end Event

namespace Evaluation

variable {α β γ : Type} {limit : Option Level}

def upTo (limit : Option Level) (x : Evaluation α) : Evaluation α where
  events := x.events.filter (Event.shown limit)
  result := x.result

@[simp] theorem upTo_upTo (x : Evaluation α) : (x.upTo limit).upTo limit = x.upTo limit := by
  simp [upTo]

theorem upTo_bind (x : Evaluation α) (f : α → Evaluation β) :
    (x >>= f).upTo limit = x.upTo limit >>= fun a ↦ (f a).upTo limit := by
  obtain ⟨events, result⟩ := x
  cases result with
  | ok a =>
    simp only [upTo, bind, List.filter_append]
  | error e => rfl

theorem upTo_tryCatch (x : Evaluation α) (handle : RuleError → Evaluation α) :
    (tryCatch x handle).upTo limit = tryCatch (x.upTo limit) fun e ↦ (handle e).upTo limit := by
  obtain ⟨events, result⟩ := x
  cases result with
  | ok a => rfl
  | error e => simp only [upTo, tryCatch, tryCatchThe, MonadExceptOf.tryCatch, List.filter_append]

/-- Two evaluations that differ at most in events above a level, the first one logging only what
belongs on the way to a verdict. -/
structure AgreesUpTo (limit : Option Level) (x y : Evaluation α) : Prop where
  same : x.upTo limit = y.upTo limit
  steps : ∀ e ∈ x.events, e.IsStep

namespace AgreesUpTo

theorem cut {x y : Evaluation α} (h : AgreesUpTo limit x y) :
    AgreesUpTo limit x (y.upTo limit) where
  same := by rw [upTo_upTo, h.same]
  steps := h.steps

theorem silent {x : Evaluation α} (h : x.events = []) : AgreesUpTo limit x x where
  same := rfl
  steps e he := by
    rw [h] at he
    cases he

theorem pure (a : α) : AgreesUpTo limit (Pure.pure a) (Pure.pure a) := silent rfl

theorem throw (e : RuleError) :
    AgreesUpTo limit (throw e : Evaluation α) (throw e : Evaluation α) := silent rfl

theorem liftM (x : Except RuleError α) :
    AgreesUpTo limit (liftM x : Evaluation α) (liftM x : Evaluation α) := silent rfl

theorem event (site : Site) {message : String} (h : message ∈ Event.stepMessages)
    (context : List (String × String)) :
    AgreesUpTo limit (site.event message context) (site.event message context) where
  same := rfl
  steps e he := by
    obtain rfl := List.mem_singleton.1 he
    exact ⟨rfl, rfl, h⟩

theorem bind {x y : Evaluation α} {f g : α → Evaluation β} (hx : AgreesUpTo limit x y)
    (hf : ∀ a, AgreesUpTo limit (f a) (g a)) : AgreesUpTo limit (x >>= f) (y >>= g) where
  same := by
    have hfun : (fun a ↦ (f a).upTo limit) = fun a ↦ (g a).upTo limit :=
      funext fun a ↦ (hf a).same
    rw [upTo_bind, upTo_bind, hx.same, hfun]
  steps e he := by
    obtain ⟨events, result⟩ := x
    cases result with
    | ok a =>
      rcases List.mem_append.1 he with he | he
      · exact hx.steps e he
      · exact (hf a).steps e he
    | error error => exact hx.steps e he

theorem tryCatch {x y : Evaluation α} {handle handle' : RuleError → Evaluation α}
    (hx : AgreesUpTo limit x y) (hh : ∀ e, AgreesUpTo limit (handle e) (handle' e)) :
    AgreesUpTo limit (tryCatch x handle) (tryCatch y handle') where
  same := by
    have hfun : (fun e ↦ (handle e).upTo limit) = fun e ↦ (handle' e).upTo limit :=
      funext fun e ↦ (hh e).same
    rw [upTo_tryCatch, upTo_tryCatch, hx.same, hfun]
  steps e he := by
    obtain ⟨events, result⟩ := x
    cases result with
    | ok a => exact hx.steps e he
    | error error =>
      rcases List.mem_append.1 he with he | he
      · exact hx.steps e he
      · exact (hh error).steps e he

theorem anyM {p q : γ → Evaluation Bool} (h : ∀ a, AgreesUpTo limit (p a) (q a))
    (xs : List γ) : AgreesUpTo limit (xs.anyM p) (xs.anyM q) := by
  induction xs with
  | nil => exact pure false
  | cons x xs ih =>
    refine bind (h x) fun found ↦ ?_
    cases found with
    | true => exact pure true
    | false => exact ih

end AgreesUpTo

end Evaluation

open Evaluation (AgreesUpTo)

abbrev DelegatesAgree (limit : Option Level) (d d' : Value → Value → Evaluation Verdict) : Prop :=
  ∀ rule v, AgreesUpTo limit (d rule v) (d' rule v)

variable {limit : Option Level} {site : Site} {d d' : Value → Value → Evaluation Verdict}

namespace NumberRule

end NumberRule

namespace TextRule

end TextRule

namespace BooleanRule

end BooleanRule

namespace MappingRule

variable {ignoreCase : Bool}

mutual

theorem mismatch?_agrees (h : DelegatesAgree limit d d') :
    ∀ (expected : List (String × Value)) (actual : Fields),
      AgreesUpTo limit (mismatch? ⟨site, d⟩ ignoreCase expected actual)
        (mismatch? ⟨site, d'⟩ ignoreCase expected actual)
  | [], _ => by
    rw [mismatch?, mismatch?]
    exact .pure none
  | (key, expected) :: rest, actual => by
    rw [mismatch?, mismatch?]
    cases Fields.get? actual key with
    | none => exact .pure _
    | some found =>
      refine .bind (valueMismatch?_agrees h key expected found) fun reason ↦ ?_
      cases reason with
      | some reason => exact .pure _
      | none => exact mismatch?_agrees h rest actual

theorem valueMismatch?_agrees (h : DelegatesAgree limit d d')
    (key : String) : ∀ expected actual : Value,
      AgreesUpTo limit (valueMismatch? ⟨site, d⟩ ignoreCase key expected actual)
        (valueMismatch? ⟨site, d'⟩ ignoreCase key expected actual)
  | expected, actual => by
    rw [valueMismatch?.eq_def, valueMismatch?.eq_def]
    dsimp only
    split
    · exact .bind (h expected actual) fun _ ↦ .pure _
    · split
      · rename_i expectedFields actualFields _
        exact .bind (mismatch?_agrees h expectedFields actualFields) fun _ ↦ .pure _
      · exact .pure _

end

end MappingRule

namespace SequenceRule

variable {ignoreCase : Bool}

end SequenceRule

end AuditRules
