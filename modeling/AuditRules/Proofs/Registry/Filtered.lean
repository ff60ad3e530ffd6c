import AuditRules.Proofs.Registry.Related

namespace AuditRules

variable {engine : PatternEngine}

namespace SequenceRule

def filteredRule (filter rule : Fields) : Value :=
  .object [(Rule.typeKey, .string "list"), ("filter_compare", .object [
    ("filter", .object filter), ("compare", .object rule)])]

theorem passes_result {ctx : Context} {rule item : Value} {v : Verdict}
    (h : (ctx.delegate rule item).result = .ok v) :
    (passes ctx rule item).result = .ok v.passed := Evaluation.result_bind_ok h _

theorem passes_tooDeep {ctx : Context} {rule item : Value} (h : (ctx.delegate rule item).TooDeep) :
    (passes ctx rule item).TooDeep := by
  obtain ⟨e, he, hdeep⟩ := h
  exact ⟨e, Evaluation.result_bind_error he _, hdeep⟩

theorem keep_result {ctx : Context} {rule : Value} {items : List Value} (p : Value → Bool)
    (h : ∀ item ∈ items, (passes ctx rule item).TooDeep ∨
      (passes ctx rule item).result = .ok (p item)) :
    (keep ctx rule items).TooDeep ∨ (keep ctx rule items).result = .ok (items.filter p) := by
  induction items with
  | nil => exact .inr rfl
  | cons item rest ih =>
    rcases h item List.mem_cons_self with ⟨e, he, hdeep⟩ | hitem
    · exact .inl ⟨e, Evaluation.result_bind_error he _, hdeep⟩
    · have hstep : (keep ctx rule (item :: rest)).result = (do
          let kept ← keep ctx rule rest
          return if p item then item :: kept else kept : Evaluation (List Value)).result :=
        Evaluation.result_bind_ok hitem _
      rw [Evaluation.TooDeep, hstep, List.filter_cons]
      rcases ih fun other hmem ↦ h other (List.mem_cons_of_mem item hmem) with
        ⟨e, he, hdeep⟩ | hrest
      · exact .inl ⟨e, Evaluation.result_bind_error he _, hdeep⟩
      · exact .inr (Evaluation.result_bind_ok hrest _)

theorem compareFiltered_result {ctx : Context} {filter rule : Fields} {items kept : List Value}
    (h : (keep ctx (filterRule filter) items).result = .ok kept) :
    (compareFiltered ctx filter rule items).result =
      (ctx.delegate (innerRule rule) (.array kept)).result :=
  (Evaluation.result_bind_ok h _).trans (Evaluation.result_bind_ok rfl _)

end SequenceRule

namespace Registry

open SequenceRule

def accepts (r : Registry) (checkId : String) (spec actual : Value) : Bool :=
  (r.run checkId spec actual).result.toOption.any Verdict.passed

theorem accepts_of_ok {r : Registry} {checkId : String} {spec actual : Value} {v : Verdict}
    (h : (r.run checkId spec actual).result = .ok v) :
    r.accepts checkId spec actual = v.passed := by
  simp only [accepts, h, Except.toOption, Option.any_some]

theorem filteredRule_asks (filter rule : Fields) :
    Fields.Asks [(Rule.typeKey, .string "list"), ("filter_compare", .object [
      ("filter", .object filter), ("compare", .object rule)])] .sequence "filter_compare"
      (.object [("filter", .object filter), ("compare", .object rule)]) :=
  Fields.asks_written (by decide) (by decide) (by decide) _

theorem evaluate_filteredRule (limits : Limits) (checkId : String) (n : Nat) (filter rule : Fields)
    (items : List Value) :
    ((builtins engine limits).evaluate checkId n (filteredRule filter rule) (.array items)).result =
      (compareFiltered ((builtins engine limits).context checkId n) filter rule items).result := by
  have hasks := filteredRule_asks filter rule
  have hparse := (parse_asks (ListRule.filteredOf "filter_compare") hasks
    (by simp [ListRule.modes])).trans (filteredOf_eq _ rfl rfl)
  exact evaluate_array hasks hparse limits checkId n items

/-- A rule with a filter that does not nest too deeply is answered, verdict or error, as its inner
rule on the elements that pass the filter. -/
theorem run_filteredRule (limits : Limits) (checkId : String) (filter rule : Fields)
    (items : List Value)
    (hfilter : ∀ item ∈ items, ∃ v,
      ((builtins engine limits).run checkId (filterRule filter) item).result = .ok v)
    (hdeep : ¬ ((builtins engine limits).run checkId (filteredRule filter rule)
      (.array items)).TooDeep) :
    ((builtins engine limits).run checkId (filteredRule filter rule) (.array items)).result =
      ((builtins engine limits).run checkId (innerRule rule) (.array
        (items.filter ((builtins engine limits).accepts checkId (filterRule filter))))).result := by
  let ctx := (builtins engine limits).context checkId limits.nesting
  -- Both the filter and the inner rule are delegated, so each has a level less than on its own.
  have hpasses : ∀ item ∈ items, (passes ctx (filterRule filter) item).TooDeep ∨
      (passes ctx (filterRule filter) item).result =
        .ok ((builtins engine limits).accepts checkId (filterRule filter) item) := by
    intro item hitem
    obtain ⟨v, hv⟩ := hfilter item hitem
    rcases delegated_deeper limits checkId limits.nesting (filterRule filter) item with h | h
    · exact .inl (passes_tooDeep h)
    · exact .inr (accepts_of_ok hv ▸ passes_result (h.trans hv))
  have hrun :
      ((builtins engine limits).run checkId (filteredRule filter rule) (.array items)).result =
        (compareFiltered ctx filter rule items).result :=
    evaluate_filteredRule limits checkId limits.nesting filter rule items
  rw [Evaluation.TooDeep, hrun] at hdeep
  rw [hrun]
  rcases keep_result _ hpasses with ⟨e, he, h⟩ | hkept
  · exact absurd ⟨e, Evaluation.result_bind_error he _, h⟩ hdeep
  · rw [compareFiltered_result hkept] at hdeep ⊢
    rcases delegated_deeper limits checkId limits.nesting (innerRule rule) _ with h | h
    · exact absurd h hdeep
    · exact h

def runningService : Fields := [("match_any", .array [.object [("running", .bool true)]])]

def services : List Value :=
  [.object [("name", .string "cron"), ("running", .bool true)],
    .object [("name", .string "sshd"), ("running", .bool false)]]

theorem run_runningService :
    (∀ item ∈ services, ∃ v,
      ((builtins Pattern.engine .default).run "check" (filterRule [("name", .string "sshd")])
        item).result = .ok v) ∧
    ¬ ((builtins Pattern.engine .default).run "check"
      (filteredRule [("name", .string "sshd")] runningService) (.array services)).TooDeep ∧
    ((builtins Pattern.engine .default).run "check"
      (filteredRule [("name", .string "sshd")] runningService) (.array services)).result =
      ((builtins Pattern.engine .default).run "check" (innerRule runningService) (.array
        (services.filter
          ((builtins Pattern.engine .default).accepts "check"
            (filterRule [("name", .string "sshd")]))))).result := by
  have hfilter : ∀ item ∈ services, ∃ v,
      ((builtins Pattern.engine .default).run "check" (filterRule [("name", .string "sshd")])
        item).result = .ok v := by
    intro item hitem
    simp only [services, List.mem_cons, List.not_mem_nil, or_false] at hitem
    rcases hitem with rfl | rfl
    · exact ⟨_, rfl⟩
    · exact ⟨_, rfl⟩
  have hdeep :
      ¬ ((builtins Pattern.engine .default).run "check" (filteredRule [("name", .string "sshd")]
        runningService) (.array services)).TooDeep := by
    rintro ⟨e, he, -⟩
    exact nomatch he
  exact ⟨hfilter, hdeep, run_filteredRule .default "check" _ runningService _ hfilter hdeep⟩

end Registry

end AuditRules
