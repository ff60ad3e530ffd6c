import AuditRules.Proofs.Registry.Parallel
import AuditRules.Proofs.Registry.Registration

namespace AuditRules

variable {engine : PatternEngine}

def RuleError.IsUnknown (e : RuleError) : Prop := ∃ tag, e = .unknownComparator tag

theorem RuleError.IsBadExpression.not_isUnknown {e : RuleError} (h : e.IsBadExpression) :
    ¬ e.IsUnknown := by
  obtain ⟨expression, reason, rfl⟩ := h
  rintro ⟨tag, h⟩
  cases h

namespace Registry

def known : Likeness := .unless RuleError.IsUnknown fun _ h ↦ h.not_isUnknown

variable {r r' : Registry} {c : Comparator}

theorem get?_registered (h : (r.register c).result = .ok r') {tag : String} {owner : Comparator}
    (howner : r.get? tag = some owner) : r'.get? tag = some owner := by
  obtain ⟨hfresh, rfl⟩ := register_ok h
  have htaken : tag ∈ r.names := mem_names.2 (by rw [howner]; rfl)
  have hname : tag ∉ c.names := fun hname ↦ hfresh tag hname htaken
  rw [get?_enter, if_neg hname, howner]

theorem limits_registered (h : (r.register c).result = .ok r') : r'.limits = r.limits := by
  obtain ⟨-, rfl⟩ := register_ok h
  rfl

theorem parallel_registered
    (hmade : ∀ entry ∈ r.table, entry.2 ∈ builtin engine ∨ entry.2.Immediate ∨ entry.2.Forwards)
    (h : (r.register c).result = .ok r') : r.Parallel known r' where
  get _ _ howner := get?_registered h howner
  unknown tag _ := .inr ⟨tag, rfl⟩
  respects tag owner howner := by
    rcases hmade (tag, owner) (mem_of_get? howner) with hbuiltin | himmediate | hforwards
    · exact builtin_respectsAt hbuiltin
    · exact himmediate.respectsAt
    · exact hforwards.respectsAt
  rendering := by rw [limits_registered h]

/-- Registration is conservative: with built-in comparators, ones that answer at once and ones that
hand on, a rule that comes upon no unknown type tag is answered the same, verdict or error, once
another comparator has been registered. -/
theorem run_registered
    (hmade : ∀ entry ∈ r.table, entry.2 ∈ builtin engine ∨ entry.2.Immediate ∨ entry.2.Forwards)
    (h : (r.register c).result = .ok r') (checkId : String) (spec actual : Value)
    (hknown : ∀ tag, (r.run checkId spec actual).result ≠ .error (.unknownComparator tag)) :
    (r'.run checkId spec actual).result = (r.run checkId spec actual).result := by
  have hmore : r'.limits.nesting = r.limits.nesting + 0 := by
    rw [limits_registered h, Nat.add_zero]
  have hrun : Evaluation.Related known known.verdicts
      (r.evaluate checkId r.limits.nesting spec actual)
      (r'.evaluate checkId r.limits.nesting spec actual) :=
    evaluate_parallel (parallel_registered hmade h) hmore (.inl rfl) _ spec actual
  rcases Evaluation.related_unless hrun with ⟨e, he, tag, rfl⟩ | heq
  · exact absurd he (hknown tag)
  · rw [run_result, run_result, limits_registered h]
    exact heq.symm

def servicesRegistry : Registry where
  limits := .default
  table := ("ssh", .forwarding "ssh" [] ["match"]
      (.object [(Rule.typeKey, .string "list"), ("match_all", .array [.string "ssh"])])) ::
    ("any", .fixed "any" [] ["match"] .passed fun _ _ _ ↦ "") ::
      (builtins Pattern.engine .default).table

theorem servicesRegistry_made : ∀ entry ∈ servicesRegistry.table,
    entry.2 ∈ builtin Pattern.engine ∨ entry.2.Immediate ∨ entry.2.Forwards := by
  refine List.forall_mem_cons.2 ⟨.inr (.inr (Comparator.forwarding_forwards _ _ _ _)), ?_⟩
  have hany := Comparator.fixed_immediate "any" [] ["match"] .passed fun _ _ _ ↦ ""
  refine List.forall_mem_cons.2 ⟨.inr (.inl hany), ?_⟩
  simp [builtins, builtin]

def sshRule : Value :=
  .object [(Rule.typeKey, .string "dict"), ("match", .object [
    ("services", .object [(Rule.typeKey, .string "ssh")])])]

def never : Comparator := .fixed "never" ["none"] ["match"] .failed fun _ _ _ ↦ ""

theorem run_sshRule :
    (servicesRegistry.register never).result = .ok (servicesRegistry.after never) ∧
    (∀ tag, (servicesRegistry.run "check" sshRule
      (.object [("services", .array [.string "ssh"])])).result ≠ .error (.unknownComparator tag)) ∧
    ((servicesRegistry.after never).run "check" sshRule
      (.object [("services", .array [.string "ssh"])])).result =
      (servicesRegistry.run "check" sshRule
        (.object [("services", .array [.string "ssh"])])).result := by
  have hnew : (servicesRegistry.register never).result = .ok (servicesRegistry.after never) :=
    register_fresh (by decide)
  have hknown : ∀ tag, (servicesRegistry.run "check" sshRule
      (.object [("services", .array [.string "ssh"])])).result ≠
        .error (.unknownComparator tag) := by
    intro tag h
    exact nomatch h
  exact ⟨hnew, hknown, run_registered servicesRegistry_made hnew "check" sshRule _ hknown⟩

end Registry

end AuditRules
