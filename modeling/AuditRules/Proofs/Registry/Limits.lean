import AuditRules.Proofs.Registry.Parallel

namespace AuditRules

open Evaluation (Related)

variable {engine : PatternEngine}

namespace Registry

theorem parallel_raised {table : List (String × Comparator)}
    (h : ∀ entry ∈ table, entry.2 ∈ builtin engine ∨ entry.2.Forwards) (n m rendering : Nat) :
    (Registry.mk ⟨n, rendering⟩ table).Parallel deeper (Registry.mk ⟨m, rendering⟩ table) where
  get _ _ hc := hc
  unknown _ hc := .inl hc
  respects tag c hc := by
    rcases h (tag, c) (mem_of_get? hc) with hbuiltin | hforwards
    · exact builtin_respectsAt hbuiltin
    · exact hforwards.respectsAt
  rendering := rfl

/-- Raising the limit is conservative: with built-in comparators and ones that hand on, what is
answered under a limit is answered the same, verdict or error, under each higher one. -/
theorem run_raised {table : List (String × Comparator)}
    (htable : ∀ entry ∈ table, entry.2 ∈ builtin engine ∨ entry.2.Forwards) {n m : Nat} (h : n ≤ m)
    (rendering : Nat) (checkId : String) (spec actual : Value)
    (hdeep : ¬ ((Registry.mk ⟨n, rendering⟩ table).run checkId spec actual).TooDeep) :
    ((Registry.mk ⟨m, rendering⟩ table).run checkId spec actual).result =
      ((Registry.mk ⟨n, rendering⟩ table).run checkId spec actual).result := by
  obtain ⟨more, rfl⟩ := Nat.exists_eq_add_of_le h
  have hrun := evaluate_parallel (parallel_raised htable n (n + more) rendering) rfl
    (.inr ⟨checkId, n, rfl⟩) n spec actual
  rcases related_deeper hrun with hdeep' | heq
  · exact absurd hdeep' hdeep
  · exact heq.symm

def portsTable : List (String × Comparator) :=
  ("ports", .forwarding "ports" [] ["match"]
    (.object [(Rule.typeKey, .string "list"), ("size", .ofInt 1)])) ::
      (builtins Pattern.engine .default).table

theorem portsTable_made :
    ∀ entry ∈ portsTable, entry.2 ∈ builtin Pattern.engine ∨ entry.2.Forwards := by
  refine List.forall_mem_cons.2 ⟨.inr (Comparator.forwarding_forwards _ _ _ _), ?_⟩
  simp [builtins, builtin]

theorem run_portsTable :
    (∀ entry ∈ portsTable, entry.2 ∈ builtin Pattern.engine ∨ entry.2.Forwards) ∧ 2 ≤ 5 ∧
    ¬ ((Registry.mk ⟨2, 16⟩ portsTable).run "check" (.object [(Rule.typeKey, .string "ports")])
      (.array [.ofInt 22])).TooDeep ∧
    ((Registry.mk ⟨5, 16⟩ portsTable).run "check" (.object [(Rule.typeKey, .string "ports")])
      (.array [.ofInt 22])).result =
    ((Registry.mk ⟨2, 16⟩ portsTable).run "check" (.object [(Rule.typeKey, .string "ports")])
      (.array [.ofInt 22])).result := by
  have hdeep : ¬ ((Registry.mk ⟨2, 16⟩ portsTable).run "check"
      (.object [(Rule.typeKey, .string "ports")]) (.array [.ofInt 22])).TooDeep := by
    rintro ⟨e, he, -⟩
    exact nomatch he
  exact ⟨portsTable_made, by decide, hdeep,
    run_raised portsTable_made (by decide) 16 "check" _ _ hdeep⟩

end Registry

inductive RuleError.SameButLabel : RuleError → RuleError → Prop
  | same (e : RuleError) : SameButLabel e e
  | tooDeep (checkId checkId' : String) (limit : Nat) :
      SameButLabel (.nestingTooDeep checkId limit) (.nestingTooDeep checkId' limit)

namespace Registry

def unlabelled : Likeness :=
  .outcomesUpTo RuleError.SameButLabel .same fun _ _ h ↦ by
    cases h with
    | same => rfl
    | tooDeep => exact iff_of_false (fun ⟨_, _, h⟩ ↦ nomatch h) fun ⟨_, _, h⟩ ↦ nomatch h

/-- Labels and truncation never decide a check: under one limit on nesting, any two runs of a rule
on a value have the same outcome or the same error, but for the label in it. -/
theorem run_unlabelled (nesting rendering rendering' : Nat) (checkId checkId' : String)
    (spec actual : Value) :
    (∃ v v', ((builtins engine ⟨nesting, rendering⟩).run checkId spec actual).result = .ok v ∧
      ((builtins engine ⟨nesting, rendering'⟩).run checkId' spec actual).result = .ok v' ∧
      v.outcome = v'.outcome) ∨
    (∃ e e', ((builtins engine ⟨nesting, rendering⟩).run checkId spec actual).result = .error e ∧
      ((builtins engine ⟨nesting, rendering'⟩).run checkId' spec actual).result = .error e' ∧
      e.SameButLabel e') := by
  have halike : (builtins engine ⟨nesting, rendering⟩).Alike unlabelled
      (builtins engine ⟨nesting, rendering'⟩) :=
    builtins_alike fun _ ↦ trivial
  have hlevels : Levels unlabelled (.nestingTooDeep checkId nesting)
      (.nestingTooDeep checkId' nesting) nesting nesting :=
    .inr ⟨rfl, .tooDeep checkId checkId' nesting⟩
  exact Evaluation.related_outcomesUpTo (evaluate_related halike hlevels spec actual)

end Registry

end AuditRules
