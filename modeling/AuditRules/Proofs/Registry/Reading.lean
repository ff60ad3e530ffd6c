import AuditRules.Proofs.Comparator.Reading

namespace AuditRules

variable {engine : PatternEngine}

namespace Registry

def scalarReaders (engine : PatternEngine) :
    List (Comparator × (Rule → Except RuleError Reading)) :=
  [(.number, NumberRule.read), (.text engine, TextRule.read engine),
    (.boolean, BooleanRule.read)]

theorem scalarReader_outcome {c : Comparator} {read : Rule → Except RuleError Reading}
    (hc : (c, read) ∈ scalarReaders engine) (ctx : Context) (rule : Rule) (actual : Value) :
    (c.compare ctx rule actual).result.map Verdict.outcome =
      read rule >>= fun r ↦ r.answer actual := by
  simp only [scalarReaders, List.mem_cons, Prod.mk.injEq, List.not_mem_nil, or_false] at hc
  rcases hc with ⟨rfl, rfl⟩ | ⟨rfl, rfl⟩ | ⟨rfl, rfl⟩
  · exact NumberRule.compare_outcome ctx rule actual
  · exact TextRule.compare_outcome engine ctx rule actual
  · exact BooleanRule.compare_outcome ctx rule actual

theorem scalarReader_fault {c : Comparator} {read : Rule → Except RuleError Reading}
    (hc : (c, read) ∈ scalarReaders engine) {tag : String} (htag : tag ∈ c.names) {rule : Rule}
    {r : Reading} (hread : read rule = .ok r) {e : RuleError} (he : r.fault = some e) :
    tag = "number" ∨ tag = "string" := by
  simp only [scalarReaders, List.mem_cons, Prod.mk.injEq, List.not_mem_nil, or_false] at hc
  rcases hc with ⟨rfl, rfl⟩ | ⟨rfl, rfl⟩ | ⟨rfl, rfl⟩
  · exact .inl (List.mem_singleton.1 htag)
  · exact .inr (List.mem_singleton.1 htag)
  · rw [BooleanRule.read_fault hread] at he
    cases he

theorem mem_builtin_of_scalarReader {c : Comparator} {read : Rule → Except RuleError Reading}
    (hc : (c, read) ∈ scalarReaders engine) : c ∈ builtin engine := by
  simp only [scalarReaders, List.mem_cons, Prod.mk.injEq, List.not_mem_nil, or_false] at hc
  rcases hc with ⟨rfl, -⟩ | ⟨rfl, -⟩ | ⟨rfl, -⟩ <;> simp [builtin]

/-- A rule on numbers, text or truth values errs alike on every value, or has a verdict on every
value, or it is a rule on numbers or text with a fault in one part of what it asks. Such a rule errs
with that fault on just the values of its kind that pass none of the tests before it. -/
theorem run_scalarRule (limits : Limits) (checkId : String) {c : Comparator}
    {read : Rule → Except RuleError Reading} (hc : (c, read) ∈ scalarReaders engine)
    {fields : Fields} {tag : String} (htag : tag ∈ c.names)
    (htype : fields.get? Rule.typeKey = some (.string tag)) :
    (∃ e, ∀ actual, ((builtins engine limits).run checkId (.object fields) actual).result =
      .error e) ∨
    (∀ actual, ∃ v, ((builtins engine limits).run checkId (.object fields) actual).result = .ok v) ∨
    ((tag = "number" ∨ tag = "string") ∧ ∃ r e, read ⟨fields⟩ = .ok r ∧ r.fault = some e ∧
      ∀ actual,
        (r.exhausts actual = true →
          ((builtins engine limits).run checkId (.object fields) actual).result = .error e) ∧
        (r.exhausts actual = false → ∃ v,
          ((builtins engine limits).run checkId (.object fields) actual).result = .ok v ∧
            v.outcome = if r.passes actual then .passed else .failed)) := by
  have hrun : ∀ actual,
      ((builtins engine limits).run checkId (.object fields) actual).result.map Verdict.outcome =
        read ⟨fields⟩ >>= fun r ↦ r.answer actual := by
    intro actual
    have hget := get?_builtins (mem_builtin_of_scalarReader hc) htag limits
    rw [run_result, evaluate_tagged htype hget]
    exact scalarReader_outcome hc _ _ actual
  cases hread : read ⟨fields⟩ with
  | error e =>
    refine .inl ⟨e, fun actual ↦ map_eq_error (f := Verdict.outcome) ?_⟩
    rw [hrun, hread]
    rfl
  | ok r =>
    have hanswer : ∀ actual,
        ((builtins engine limits).run checkId (.object fields) actual).result.map Verdict.outcome =
          r.answer actual := fun actual ↦ by rw [hrun, hread]; rfl
    have hdecided : ∀ actual, r.fault = none ∨ r.exhausts actual = false → ∃ v,
        ((builtins engine limits).run checkId (.object fields) actual).result = .ok v ∧
          v.outcome = if r.passes actual then .passed else .failed :=
      fun actual h ↦ map_eq_ok_iff.1 ((hanswer actual).trans (Reading.answer_decided h))
    cases hfault : r.fault with
    | none =>
      refine .inr (.inl fun actual ↦ ?_)
      obtain ⟨v, hv, -⟩ := hdecided actual (.inl hfault)
      exact ⟨v, hv⟩
    | some e =>
      refine .inr (.inr ⟨scalarReader_fault hc htag hread hfault, r, e, rfl, hfault,
        fun actual ↦ ⟨fun h ↦ ?_, fun h ↦ hdecided actual (.inr h)⟩⟩)
      exact map_eq_error ((hanswer actual).trans (Reading.answer_exhausted hfault h))

def rootNames : Fields :=
  [(Rule.typeKey, .string "string"), ("match_any", .array [.string "root", .array []])]

theorem run_rootNames : (Comparator.text Pattern.engine, TextRule.read Pattern.engine) ∈
    scalarReaders Pattern.engine ∧
    "string" ∈ (Comparator.text Pattern.engine).names ∧
    rootNames.get? Rule.typeKey = some (.string "string") ∧
    ∃ r e, TextRule.read Pattern.engine ⟨rootNames⟩ = .ok r ∧ r.fault = some e ∧ ∀ actual,
      (r.exhausts actual = true →
        ((builtins Pattern.engine .default).run "check" (.object rootNames) actual).result =
          .error e) ∧
      (r.exhausts actual = false → ∃ v,
        ((builtins Pattern.engine .default).run "check" (.object rootNames) actual).result = .ok v ∧
          v.outcome = if r.passes actual then .passed else .failed) := by
  have hreader : (Comparator.text Pattern.engine, TextRule.read Pattern.engine) ∈
    scalarReaders Pattern.engine := by simp [scalarReaders]
  have htag : "string" ∈ (Comparator.text Pattern.engine).names := by decide
  have htype : rootNames.get? Rule.typeKey = some (.string "string") := rfl
  refine ⟨hreader, htag, htype, ?_⟩
  rcases run_scalarRule .default "check" hreader htag htype with ⟨e, herror⟩ | hok | ⟨-, hpart⟩
  · exact nomatch herror (.string "root")
  · obtain ⟨v, hv⟩ := hok (.string "cron")
    exact nomatch hv
  · exact hpart

def manyRule : Value := .object [(Rule.typeKey, .string "number"), ("match", .string "many")]

/-- Null fails as any value does that is no number; numbers bring the fault to light. -/
theorem run_manyRule :
    ¬ ((∀ actual, ∃ e, ((builtins Pattern.engine .default).run "check" manyRule actual).result =
        .error e) ∨
      (∀ actual, ∃ v, ((builtins Pattern.engine .default).run "check" manyRule actual).result =
        .ok v)) := by
  rintro (herror | hok)
  · obtain ⟨e, he⟩ := herror .null
    exact nomatch he
  · obtain ⟨v, hv⟩ := hok (.ofInt 5)
    exact nomatch hv

end Registry

end AuditRules
