import AuditRules.Event

namespace AuditRules

/-- A result or an error, and in both cases the events on the way there. -/
structure Evaluation (α : Type) where
  events : List Event
  result : Except RuleError α

namespace Evaluation

variable {α β : Type}

instance : Monad Evaluation where
  pure a := ⟨[], .ok a⟩
  bind x f :=
    match x.result with
    | .ok a => let y := f a; ⟨x.events ++ y.events, y.result⟩
    | .error e => ⟨x.events, .error e⟩

instance : MonadExceptOf RuleError Evaluation where
  throw e := ⟨[], .error e⟩
  tryCatch x handle :=
    match x.result with
    | .ok _ => x
    | .error e => let y := handle e; ⟨x.events ++ y.events, y.result⟩

instance : MonadLift (Except RuleError) Evaluation where
  monadLift x := ⟨[], x⟩

def log (e : Event) : Evaluation Unit := ⟨[e], .ok ()⟩

end Evaluation

end AuditRules
