import AuditRules.Proofs.Registry.Mapping

namespace AuditRules

variable {engine : PatternEngine}

namespace SequenceRule

structure Filters (fields filter rule : Fields) : Prop where
  tagged : fields.get? Rule.typeKey = some (.string "list")
  parsed : ListRule.parse ⟨fields⟩ = .ok (.filtered filter rule)

/-- A list rule that applies filters in turn, each layer inside the one before, and puts a last rule
to what is left. -/
inductive Layered : Fields → List Fields → Fields → Prop
  | last {fields filter rule : Fields} (h : Filters fields filter rule) :
      Layered fields [filter] rule
  | layer {fields filter inner rule : Fields} {filters : List Fields}
      (h : Filters fields filter inner)
      (hinner : Layered (Fields.insertAll [(Rule.typeKey, .string "list")] inner) filters rule) :
      Layered fields (filter :: filters) rule

def filtering (filter rule : Fields) : Fields :=
  [("filter_compare", .object [("filter", .object filter), ("compare", .object rule)])]

theorem filters_written (filter rule : Fields) :
    Filters ((Rule.typeKey, .string "list") :: filtering filter rule) filter rule where
  tagged := rfl
  parsed := rfl

theorem layered_written (filter filter' rule : Fields) :
    Layered ((Rule.typeKey, .string "list") :: filtering filter (filtering filter' rule))
      [filter, filter'] rule :=
  .layer (filters_written filter (filtering filter' rule)) (.last (filters_written filter' rule))

theorem Layered.ne_nil {fields rule : Fields} {filters : List Fields}
    (h : Layered fields filters rule) : filters ≠ [] := by
  cases h with
  | last | layer => simp

end SequenceRule

namespace Registry

open SequenceRule

variable {limits : Limits} {checkId : String} {n : Nat}

theorem evaluate_filters {fields filter rule : Fields} (h : Filters fields filter rule)
    (hn : n ≤ limits.nesting) {items : List Value} {v : Verdict}
    (hv : ((builtins engine limits).evaluate checkId n (.object fields) (.array items)).result =
      .ok v) :
    ((builtins engine limits).delegated checkId n (innerRule rule) (.array
      (items.filter ((builtins engine limits).accepts checkId (filterRule filter))))).result =
        .ok v := by
  have hsequence : (builtins engine limits).get? "list" = some .sequence := rfl
  rw [evaluate_tagged h.tagged hsequence, Comparator.sequence, compare_array h.parsed] at hv
  obtain ⟨kept, hkept, hv⟩ := Evaluation.exists_of_result_bind_ok hv
  obtain ⟨-, -, hv⟩ := Evaluation.exists_of_result_bind_ok hv
  have hfilter : kept =
      items.filter ((builtins engine limits).accepts checkId (filterRule filter)) :=
    keep_eq_filter hn hkept
  rw [← hfilter]
  exact hv

theorem evaluate_layered {fields rule : Fields} {filters : List Fields}
    (h : Layered fields filters rule) (hn : n ≤ limits.nesting) {items : List Value} {v : Verdict}
    (hv : ((builtins engine limits).evaluate checkId n (.object fields) (.array items)).result =
      .ok v) :
    ((builtins engine limits).run checkId (innerRule rule) (.array (items.filter fun item ↦
      filters.all fun filter ↦
        (builtins engine limits).accepts checkId (filterRule filter) item))).result = .ok v := by
  induction h generalizing n items with
  | last h =>
    have hlast := delegated_ok hn (evaluate_filters h hn hv)
    simpa using hlast
  | layer h _ ih =>
    have hinner := evaluate_filters h hn hv
    cases n with
    | zero => cases hinner
    | succ n =>
      -- The inner layers see what this one leaves, so that the two filters come out nested.
      have hrest := ih (Nat.le_of_succ_le hn) hinner
      rw [List.filter_filter] at hrest
      simpa only [List.all_cons, Bool.and_comm] using hrest

theorem all_accepts_flatten {filters : List Fields} (hne : filters ≠ []) (item : Value) :
    (filters.all fun filter ↦ (builtins engine limits).accepts checkId (filterRule filter) item) =
      (builtins engine limits).accepts checkId (filterRule filters.flatten) item := by
  cases item with
  | object fields =>
    rw [Bool.eq_iff_iff, List.all_eq_true]
    simp only [accepts_filterRule_iff, List.mem_flatten]
    constructor
    · rintro h entry ⟨filter, hfilter, hentry⟩
      exact h filter hfilter entry hentry
    · intro h filter hfilter entry hentry
      exact h entry ⟨filter, hfilter, hentry⟩
  | null | bool | number | string | array =>
    obtain ⟨filter, rest, rfl⟩ := List.exists_cons_of_ne_nil hne
    rw [List.all_cons, accepts_filterRule_scalar rfl, accepts_filterRule_scalar rfl]
    rfl

theorem accepts_filterRule_perm {filter filter' : Fields} (h : filter.Perm filter') (item : Value) :
    (builtins engine limits).accepts checkId (filterRule filter) item =
      (builtins engine limits).accepts checkId (filterRule filter') item := by
  cases item with
  | object fields =>
    rw [Bool.eq_iff_iff]
    simp only [accepts_filterRule_iff, h.mem_iff]
  | null | bool | number | string | array =>
    rw [accepts_filterRule_scalar rfl, accepts_filterRule_scalar rfl]

theorem run_layered {fields rule : Fields} {filters : List Fields}
    (h : Layered fields filters rule) {items : List Value} {v : Verdict}
    (hv : ((builtins engine limits).run checkId (.object fields) (.array items)).result = .ok v) :
    ((builtins engine limits).run checkId (innerRule rule) (.array (items.filter
      ((builtins engine limits).accepts checkId (filterRule filters.flatten))))).result =
        .ok v := by
  have hlast := evaluate_layered h (Nat.le_refl limits.nesting) hv
  simpa only [all_accepts_flatten h.ne_nil] using hlast

/-- Rules with the same entries in their filters, however layered, have the same verdict. -/
theorem run_layered_perm {fields fields' rule : Fields} {filters filters' : List Fields}
    (h : Layered fields filters rule) (h' : Layered fields' filters' rule)
    (hperm : filters.flatten.Perm filters'.flatten) {items : List Value} {v v' : Verdict}
    (hv : ((builtins engine limits).run checkId (.object fields) (.array items)).result = .ok v)
    (hv' : ((builtins engine limits).run checkId (.object fields') (.array items)).result =
      .ok v') : v = v' := by
  have hlast := run_layered h hv
  have hlast' := run_layered h' hv'
  rw [funext (accepts_filterRule_perm hperm), hlast'] at hlast
  exact (Except.ok.inj hlast).symm

/-- A filter inside another one, the two exchanged, and one filter with the entries of both: any two
of these rules that have a verdict on a list have the same one. -/
theorem run_filters_fused {filter filter' rule nested swapped fused : Fields}
    (hnested : Layered nested [filter, filter'] rule)
    (hswapped : Layered swapped [filter', filter] rule)
    (hfused : Layered fused [filter ++ filter'] rule) (items : List Value) :
    ∀ fields ∈ [nested, swapped, fused], ∀ fields' ∈ [nested, swapped, fused], ∀ v v',
      ((builtins engine limits).run checkId (.object fields) (.array items)).result = .ok v →
      ((builtins engine limits).run checkId (.object fields') (.array items)).result = .ok v' →
      v = v' := by
  have hlayered : ∀ fields ∈ [nested, swapped, fused], ∃ filters, Layered fields filters rule ∧
      filters.flatten.Perm (filter ++ filter') := by
    intro fields hfields
    simp only [List.mem_cons, List.not_mem_nil, or_false] at hfields
    rcases hfields with rfl | rfl | rfl
    · exact ⟨_, hnested, by simp⟩
    · exact ⟨_, hswapped, by simpa using List.perm_append_comm⟩
    · exact ⟨_, hfused, by simp⟩
  intro fields hfields fields' hfields' v v' hv hv'
  obtain ⟨filters, hfilters, hperm⟩ := hlayered fields hfields
  obtain ⟨filters', hfilters', hperm'⟩ := hlayered fields' hfields'
  exact run_layered_perm hfilters hfilters' (hperm.trans hperm'.symm) hv hv'

def running : Fields := [("running", .bool true)]

def underRoot : Fields := [("user", .string "root")]

def backedUp : Fields := [("match_any", .array [.object [("name", .string "rsync")]])]

def processes : List Value :=
  [.object [("name", .string "rsync"), ("user", .string "root"), ("running", .bool false)],
    .object [("name", .string "cron"), ("user", .string "root"), ("running", .bool true)],
    .object [("name", .string "rsync"), ("user", .string "backup"), ("running", .bool true)]]

theorem run_processes :
    let tag : String × Value := (Rule.typeKey, .string "list")
    let nested := tag :: filtering running (filtering underRoot backedUp)
    let swapped := tag :: filtering underRoot (filtering running backedUp)
    let fused := tag :: filtering (running ++ underRoot) backedUp
    Layered nested [running, underRoot] backedUp ∧
    Layered swapped [underRoot, running] backedUp ∧
    Layered fused [running ++ underRoot] backedUp ∧
    ∃ v v', ((builtins Pattern.engine .default).run "check" (.object swapped)
      (.array processes)).result = .ok v ∧
      ((builtins Pattern.engine .default).run "check" (.object fused) (.array processes)).result =
        .ok v' ∧ v.outcome = .failed ∧ v = v' := by
  intro tag nested swapped fused
  have hnested : Layered nested _ _ := layered_written running underRoot backedUp
  have hswapped : Layered swapped _ _ := layered_written underRoot running backedUp
  have hfused : Layered fused _ _ := .last (filters_written (running ++ underRoot) backedUp)
  let failed := Verdict.fail ("list::match_any failure. Got=" ++
    (Value.array (processes.drop 1 |>.take 1)).render 2048)
  have hv :
      ((builtins Pattern.engine .default).run "check" (.object swapped) (.array processes)).result =
        .ok failed := rfl
  have hv' :
      ((builtins Pattern.engine .default).run "check" (.object fused) (.array processes)).result =
        .ok failed := rfl
  exact ⟨hnested, hswapped, hfused, _, _, hv, hv', rfl, run_filters_fused hnested hswapped hfused
    processes swapped (by simp) fused (by simp) _ _ hv hv'⟩

end Registry

end AuditRules
