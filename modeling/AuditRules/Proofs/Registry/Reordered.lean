import AuditRules.Proofs.Registry.Nesting
import AuditRules.Proofs.Registry.Related
import AuditRules.Proofs.Value.Reordered

namespace AuditRules.Registry

open Evaluation (Related)

variable {engine : PatternEngine}

/-- A rule that compares a list as a whole, or delegates one that does, at any depth. -/
inductive UsesExactly : Value → Prop
  | here {fields : Fields} {tag : String} {expected : List Value}
      (htag : fields.get? Rule.typeKey = some (.string tag)) (hc : tag ∈ Comparator.sequence.names)
      (hrule : ListRule.parse ⟨fields⟩ = .ok (.exactly expected)) : UsesExactly (.object fields)
  | through {spec target : Value} (h : Delegates spec target) (htarget : UsesExactly target) :
      UsesExactly spec

variable {limits : Limits} {checkId : String} {spec v w : Value}

/-- One step: the rules that it delegates are answered alike, and so is the rule. -/
theorem evaluate_reordered_step {n : Nat} (hspec : ¬ UsesExactly spec)
    (h : ∀ target v w, Delegates spec target → v.Reordered w →
      Related .outcomes Likeness.outcomes.verdicts
        ((builtins engine limits).delegated checkId n target v)
        ((builtins engine limits).delegated checkId n target w))
    (hv : v.Reordered w) :
    Related .outcomes Likeness.outcomes.verdicts
      ((builtins engine limits).evaluate checkId n spec v)
      ((builtins engine limits).evaluate checkId n spec w) := by
  refine evaluate_related_of_compare (fun _ _ hc ↦ hc) (fun _ hc ↦ .inl hc)
    fun fields tag c hfields htag hc ↦ ?_
  subst hfields
  have hctx : ((builtins engine limits).context checkId n).AlikeOn .outcomes Value.Reordered
      (Delegates (.object fields)) ((builtins engine limits).context checkId n) := {
    values := Value.correspondence_reordered
    render := fun _ ↦ trivial
    render_related := fun _ _ _ ↦ trivial
    delegate := h }
  obtain ⟨hmem, hname⟩ := of_get?_builtins hc
  rcases mem_builtin.1 hmem with rfl | rfl | rfl | rfl | rfl
  · exact NumberRule.compare_related hctx _ hv
  · exact TextRule.compare_related hctx _ hv
  · exact BooleanRule.compare_related hctx _ hv
  · exact MappingRule.compare_related hctx _ hv
      fun mode expected hmode target ht ↦ .mapping htag hname hmode ht
  · exact SequenceRule.compare_related hctx hv
      (fun parsed hparsed target ht ↦ .sequence htag hname hparsed ht)
      fun expected hexactly ↦ absurd (.here htag hname hexactly) hspec

/-- A whole run: no rule that is come to reads the order of keys. -/
theorem evaluate_reordered {n : Nat} (hspec : ¬ UsesExactly spec) (hv : v.Reordered w) :
    Related .outcomes Likeness.outcomes.verdicts
      ((builtins engine limits).evaluate checkId n spec v)
      ((builtins engine limits).evaluate checkId n spec w) := by
  induction n generalizing spec v w with
  | zero => exact evaluate_reordered_step hspec (fun _ _ _ _ _ ↦ .throw _) hv
  | succ n ih =>
    refine evaluate_reordered_step hspec (fun target v w ht hvw ↦ ?_) hv
    have htarget : ¬ UsesExactly target := fun hexactly ↦ hspec (.through ht hexactly)
    exact ih htarget hvw

/-- The order of keys never decides a check: without a list rule that compares lists as wholes, a
rule has the same outcome, or the same error, on a value and on the value with the keys of any of
its mappings in another order. -/
theorem run_reordered (limits : Limits) (checkId : String) {spec actual actual' : Value}
    (hspec : ¬ UsesExactly spec) (h : actual.Reordered actual') :
    (∃ v v', ((builtins engine limits).run checkId spec actual).result = .ok v ∧
      ((builtins engine limits).run checkId spec actual').result = .ok v' ∧
      v.outcome = v'.outcome) ∨
    ∃ e, ((builtins engine limits).run checkId spec actual).result = .error e ∧
      ((builtins engine limits).run checkId spec actual').result = .error e := by
  have hrun : Related .outcomes Likeness.outcomes.verdicts
      ((builtins engine limits).evaluate checkId limits.nesting spec actual)
      ((builtins engine limits).evaluate checkId limits.nesting spec actual') :=
    evaluate_reordered hspec h
  rcases Evaluation.related_outcomesUpTo hrun with hsame | ⟨e, e', he, he', heq⟩
  · exact .inl hsame
  · exact .inr ⟨e, he, heq ▸ he'⟩

theorem not_usesExactly_mapping {fields : Fields} {tag : String}
    (htag : fields.get? Rule.typeKey = some (.string tag)) (hc : tag ∈ Comparator.mapping.names)
    (hplain : ∀ mode expected target, (Rule.mk fields).select MappingRule.comparator
      MappingRule.modes = .ok (mode, expected) → ¬ MappingRule.Delegates mode expected target) :
    ¬ UsesExactly (.object fields) := by
  have hsequence {tag' : String} (htag' : fields.get? Rule.typeKey = some (.string tag')) :
      tag' ∉ Comparator.sequence.names := by
    obtain rfl := Value.string.inj (Option.some.inj (htag.symm.trans htag'))
    intro hname
    obtain rfl := List.mem_singleton.1 hname
    revert hc
    decide
  intro h
  cases h with
  | here htag' hc' _ => exact hsequence htag' hc'
  | through h _ =>
    cases h with
    | mapping _ _ hmode h => exact hplain _ _ _ hmode h
    | sequence htag' hc' _ _ => exact hsequence htag' hc'

def strictRule : Value :=
  .object [(Rule.typeKey, .string "list"),
    ("match_all", .array [.object [("mode", .string "strict")]])]

theorem not_usesExactly_strictRule : ¬ UsesExactly strictRule := by
  have hpattern (rule : Value) : ¬ MappingRule.RuleIn [("mode", .string "strict")] rule := by
    intro h
    cases h with
    | here h hrule =>
      obtain ⟨-, rfl⟩ := Prod.mk.inj (List.mem_singleton.1 h)
      cases hrule
    | deeper h _ _ => cases List.mem_singleton.1 h
  intro h
  cases h with
  | here _ _ hrule => exact nomatch hrule
  | through h htarget =>
    cases h with
    | mapping htag hc _ _ =>
      obtain rfl := Value.string.inj (Option.some.inj htag)
      revert hc
      decide
    | sequence _ _ hrule h =>
      obtain rfl := Except.ok.inj hrule
      rcases h with h | h
      · cases h with
        | mapping h =>
          obtain rfl := Value.object.inj (List.mem_singleton.1 h)
          refine not_usesExactly_mapping rfl (by decide) (fun mode expected target hmode h ↦ ?_)
            htarget
          obtain ⟨rfl, rfl⟩ := Prod.mk.inj (Except.ok.inj hmode)
          cases h with
          | entries h => exact hpattern target h
        | nestedAll h hrule =>
          obtain rfl := List.mem_singleton.1 h
          cases hrule
      · cases h

def strictUnits : Value :=
  .array [.object [("mode", .string "strict"), ("unit", .string "sshd")]]

def strictUnitsByName : Value :=
  .array [.object [("unit", .string "sshd"), ("mode", .string "strict")]]

theorem run_strictRule : ¬ UsesExactly strictRule ∧ strictUnits.Reordered strictUnitsByName ∧
    ((∃ v v', ((builtins Pattern.engine .default).run "check" strictRule strictUnits).result =
      .ok v ∧
      ((builtins Pattern.engine .default).run "check" strictRule strictUnitsByName).result =
        .ok v' ∧ v.outcome = v'.outcome) ∨
    ∃ e, ((builtins Pattern.engine .default).run "check" strictRule strictUnits).result = .error e ∧
      ((builtins Pattern.engine .default).run "check" strictRule strictUnitsByName).result =
        .error e) := by
  have hunit : (Value.object [("mode", .string "strict"), ("unit", .string "sshd")]).Over
      fun _ ↦ True := by
    refine .object (by decide) fun entry hentry ↦ ?_
    simp only [List.mem_cons, List.not_mem_nil, or_false] at hentry
    rcases hentry with rfl | rfl <;> exact .string _
  have hunits : strictUnits.Reordered strictUnitsByName := by
    refine .array rfl fun v w hvw ↦ ?_
    obtain ⟨rfl, rfl⟩ := Prod.mk.inj (List.mem_singleton.1 hvw)
    exact .of_perm hunit (.swap _ _ _)
  exact ⟨not_usesExactly_strictRule, hunits,
    run_reordered .default "check" not_usesExactly_strictRule hunits⟩

end AuditRules.Registry
