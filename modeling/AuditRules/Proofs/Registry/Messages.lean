import AuditRules.Proofs.Comparator.Messages
import AuditRules.Proofs.Registry

namespace AuditRules.Registry

open Evaluation (YieldsOnly)

variable {engine : PatternEngine}

def ruleBound (limit : Nat) (bound : Value → Nat) (spec : Value) : Nat :=
  match Rule.ofValue spec with
  | .ok rule =>
    NumberRule.messageBound limit rule + TextRule.messageBound limit +
      BooleanRule.messageBound limit + MappingRule.messageBound limit bound rule +
      SequenceRule.messageBound limit bound rule
  | .error _ => 0

/-- A bound on the message of a rule that is delegated through some levels. -/
def messageBound (limit : Nat) : Nat → Value → Nat
  | 0 => fun _ ↦ 0
  | levels + 1 => ruleBound limit (messageBound limit levels)

variable {limits : Limits} {checkId : String}

/-- One step: what a rule says is bounded if what it delegates is. -/
theorem evaluate_within_step {n : Nat} {bound : Value → Nat}
    (h : ((builtins engine limits).context checkId n).Curbs limits.rendering bound) (spec : Value)
    {actual : Value} (hactual : actual.ListsBelow lengthRange) :
    YieldsOnly (Verdict.Within (ruleBound limits.rendering bound spec))
      ((builtins engine limits).evaluate checkId n spec actual) := by
  rcases evaluate_routes (builtins engine limits) checkId n spec actual with
    ⟨e, he, -⟩ | ⟨fields, tag, c, rfl, -, hc, heq⟩
  · exact Evaluation.Ensures.of_error he trivial
  · obtain ⟨hmem, -⟩ := of_get?_builtins hc
    rw [heq, ruleBound, Rule.ofValue]
    dsimp only
    rcases mem_builtin.1 hmem with rfl | rfl | rfl | rfl | rfl
    · exact (NumberRule.compare_within h _ actual).weaken fun _ hv ↦ hv.mono (by omega)
    · exact (TextRule.compare_within h _ actual).weaken fun _ hv ↦ hv.mono (by omega)
    · exact (BooleanRule.compare_within h _ actual).weaken fun _ hv ↦ hv.mono (by omega)
    · exact (MappingRule.compare_within h _ hactual).weaken fun _ hv ↦ hv.mono (by omega)
    · exact (SequenceRule.compare_within h _ hactual).weaken fun _ hv ↦ hv.mono (by omega)

theorem context_curbs (engine : PatternEngine) (limits : Limits) (checkId : String) (n : Nat) :
    ((builtins engine limits).context checkId n).Curbs limits.rendering
      (messageBound limits.rendering n) := by
  induction n with
  | zero => exact ⟨rfl, fun _ _ _ ↦ trivial⟩
  | succ n ih => exact ⟨rfl, fun spec _ hactual ↦ evaluate_within_step ih spec hactual⟩

/-- For each rule and limits there is a length that no message exceeds, as long as every list that
is collected has fewer than 2 ^ 64 elements. -/
theorem run_message_bounded (engine : PatternEngine) (limits : Limits) (spec : Value) :
    ∃ bound, ∀ (checkId : String) (actual : Value), actual.ListsBelow 0x10000000000000000 →
      ∀ v, ((builtins engine limits).run checkId spec actual).result = .ok v →
        v.message.length ≤ bound := by
  refine ⟨messageBound limits.rendering (limits.nesting + 1) spec, ?_⟩
  intro checkId actual hactual v hv
  have hcurbs := context_curbs engine limits checkId limits.nesting
  exact (evaluate_within_step hcurbs spec hactual).accepts hv

def rootUser : Value := .object [(Rule.typeKey, .string "string"), ("match", .string "root")]

theorem run_rootUser_message : ∃ bound, ∀ s : String,
    (Value.string s).ListsBelow 0x10000000000000000 ∧
    ∃ v, ((builtins Pattern.engine .default).run "check" rootUser (.string s)).result = .ok v ∧
      v.message.length ≤ bound := by
  obtain ⟨bound, hbound⟩ := run_message_bounded Pattern.engine .default rootUser
  refine ⟨bound, ?_⟩
  intro s
  have hstring : (Value.string s).ListsBelow 0x10000000000000000 := .string s
  exact ⟨hstring, _, rfl, hbound "check" (.string s) hstring _ rfl⟩

end AuditRules.Registry
