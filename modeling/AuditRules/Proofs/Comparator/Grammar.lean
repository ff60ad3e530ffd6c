import AuditRules.Proofs.Comparator.Sequence

namespace AuditRules

variable {engine : PatternEngine}

namespace ListRule

def keys : List String :=
  ["size", "match", "match_any", "match_all", "match_any_if_keyvalue_matches", "filter_compare"]

def presentKeys (fields : Fields) : List String := keys.filter fields.contains

def notList (mode : String) : RuleError := .invalidRule "list" mode "expected a list"

def notMapping (mode what : String) (v : Value) : RuleError :=
  .invalidRule "list" mode ("'" ++ what ++ "' must be a mapping, got " ++ v.compact)

inductive KeyedFault : Value → RuleError → Prop
  | parts {v : Value} (hv : ∀ parts, v ≠ .object parts) :
      KeyedFault v (notMapping "match_any_if_keyvalue_matches" "match_any_if_keyvalue_matches" v)
  | keyMissing {parts : Fields} (hkey : parts.get? "match_key" = none) :
      KeyedFault (.object parts) (.missingKey "list" "match_key")
  | keyNoText {parts : Fields} {v : Value} (hkey : parts.get? "match_key" = some v)
      (hv : ∀ s, v ≠ .string s) :
      KeyedFault (.object parts) (.invalidRule "list" "match_any_if_keyvalue_matches"
        "'match_key' must be a string")
  | argsMissing {parts : Fields} {s : String} (hkey : parts.get? "match_key" = some (.string s))
      (hargs : parts.get? "args" = none) :
      KeyedFault (.object parts) (.missingKey "list" "args")
  | argsNoList {parts : Fields} {s : String} {v : Value}
      (hkey : parts.get? "match_key" = some (.string s)) (hargs : parts.get? "args" = some v)
      (hv : ∀ args, v ≠ .array args) :
      KeyedFault (.object parts) (notList "match_any_if_keyvalue_matches")
  | argNoMapping {parts : Fields} {s : String} {before : List Fields} {v : Value}
      {after : List Value} (hkey : parts.get? "match_key" = some (.string s))
      (hargs : parts.get? "args" = some (.array (before.map .object ++ v :: after)))
      (hv : ∀ arg, v ≠ .object arg) :
      KeyedFault (.object parts) (notMapping "match_any_if_keyvalue_matches" "args entry" v)

inductive FilteredFault : Value → RuleError → Prop
  | parts {v : Value} (hv : ∀ parts, v ≠ .object parts) :
      FilteredFault v (notMapping "filter_compare" "filter_compare" v)
  | filterMissing {parts : Fields} (hfilter : parts.get? "filter" = none) :
      FilteredFault (.object parts) (.missingKey "list" "filter")
  | filterNoMapping {parts : Fields} {v : Value} (hfilter : parts.get? "filter" = some v)
      (hv : ∀ filter, v ≠ .object filter) :
      FilteredFault (.object parts) (notMapping "filter_compare" "filter" v)
  | compareMissing {parts filter : Fields} (hfilter : parts.get? "filter" = some (.object filter))
      (hcompare : parts.get? "compare" = none) :
      FilteredFault (.object parts) (.missingKey "list" "compare")
  | compareNoMapping {parts filter : Fields} {v : Value}
      (hfilter : parts.get? "filter" = some (.object filter))
      (hcompare : parts.get? "compare" = some v) (hv : ∀ rule, v ≠ .object rule) :
      FilteredFault (.object parts) (notMapping "filter_compare" "compare" v)

/-- Why a mapping is no list rule. -/
inductive Refused (fields : Fields) : RuleError → Prop
  | noMode (h : presentKeys fields = []) : Refused fields (.missingMode "list" keys)
  | severalModes (h : 2 ≤ (presentKeys fields).length) :
      Refused fields (.ambiguousMode "list" (presentKeys fields))
  | items {mode : String} {payload : Value} (hmode : mode ∈ ["match", "match_any", "match_all"])
      (h : presentKeys fields = [mode]) (hvalue : fields.get? mode = some payload)
      (hlist : ∀ items, payload ≠ .array items) : Refused fields (notList mode)
  | keyed {payload : Value} {e : RuleError}
      (h : presentKeys fields = ["match_any_if_keyvalue_matches"])
      (hvalue : fields.get? "match_any_if_keyvalue_matches" = some payload)
      (hfault : KeyedFault payload e) : Refused fields e
  | filtered {payload : Value} {e : RuleError} (h : presentKeys fields = ["filter_compare"])
      (hvalue : fields.get? "filter_compare" = some payload) (hfault : FilteredFault payload e) :
      Refused fields e

theorem items_error {v : Value} (h : ∀ vs, v ≠ .array vs) (mode : String) :
    items mode v = .error (notList mode) := by
  cases v with
  | array vs => exact absurd rfl (h vs)
  | null | bool | number | string | object => rfl

theorem mapping_error {v : Value} (h : ∀ fields, v ≠ .object fields) (mode what : String) :
    mapping mode what v = .error (notMapping mode what v) := by
  cases v with
  | object fields => exact absurd rfl (h fields)
  | null | bool | number | string | array => rfl

theorem of_items_error {mode : String} {v : Value} {e : RuleError} (h : items mode v = .error e) :
    (∀ vs, v ≠ .array vs) ∧ e = notList mode := by
  have hv : ∀ vs, v ≠ .array vs := by
    rintro vs rfl
    cases h
  exact ⟨hv, Except.error.inj (h.symm.trans (items_error hv mode))⟩

theorem of_mapping_error {mode what : String} {v : Value} {e : RuleError}
    (h : mapping mode what v = .error e) :
    (∀ fields, v ≠ .object fields) ∧ e = notMapping mode what v := by
  have hv : ∀ fields, v ≠ .object fields := by
    rintro fields rfl
    cases h
  exact ⟨hv, Except.error.inj (h.symm.trans (mapping_error hv mode what))⟩

theorem of_mapM_mapping_error {mode what : String} {vs : List Value} {e : RuleError}
    (h : vs.mapM (mapping mode what) = .error e) :
    ∃ (before : List Fields) (v : Value) (after : List Value),
      vs = before.map .object ++ v :: after ∧ (∀ fields, v ≠ .object fields) ∧
        e = notMapping mode what v := by
  induction vs with
  | nil => cases h
  | cons v vs ih =>
    rw [List.mapM_cons] at h
    rcases bind_eq_error h with hfirst | ⟨fields, hfirst, hrest⟩
    · obtain ⟨hv, rfl⟩ := of_mapping_error hfirst
      exact ⟨[], v, vs, rfl, hv, rfl⟩
    · rcases bind_eq_error hrest with hvs | ⟨_, -, hdone⟩
      · obtain ⟨before, w, after, rfl, hw, rfl⟩ := ih hvs
        rw [SequenceRule.mapping_eq_ok_iff.1 hfirst]
        exact ⟨fields :: before, w, after, rfl, hw, rfl⟩
      · cases hdone

theorem mapM_mapping_error {v : Value} (h : ∀ fields, v ≠ .object fields) (before : List Fields)
    (after : List Value) (mode what : String) :
    (before.map Value.object ++ v :: after).mapM (mapping mode what) =
      .error (notMapping mode what v) := by
  induction before with
  | nil =>
    rw [List.map_nil, List.nil_append, List.mapM_cons, mapping_error h]
    rfl
  | cons fields before ih =>
    rw [List.map_cons, List.cons_append, List.mapM_cons, ih]
    rfl

theorem keyedOf_error_iff {payload : Value} {e : RuleError} :
    keyedOf "match_any_if_keyvalue_matches" payload = .error e ↔ KeyedFault payload e := by
  constructor
  -- The parts are read in turn: each is at fault itself, or what is read after it is.
  · intro h
    rcases bind_eq_error h with hparts | ⟨parts, hparts, hread⟩
    · obtain ⟨hv, rfl⟩ := of_mapping_error hparts
      exact .parts hv
    obtain rfl := SequenceRule.mapping_eq_ok_iff.1 hparts
    rcases bind_eq_error hread with hkey | ⟨v, hkey, htext⟩
    · obtain ⟨hmissing, rfl⟩ := Rule.of_require_error hkey
      exact .keyMissing hmissing
    have hkey := Rule.require_ok hkey
    cases v with
    | string s =>
      rcases bind_eq_error htext with hargs | ⟨w, hargs, hlist⟩
      · obtain ⟨hmissing, rfl⟩ := Rule.of_require_error hargs
        exact .argsMissing hkey hmissing
      have hargs := Rule.require_ok hargs
      rcases bind_eq_error hlist with hitems | ⟨args, hitems, hentries⟩
      · obtain ⟨hw, rfl⟩ := of_items_error hitems
        exact .argsNoList hkey hargs hw
      obtain rfl := SequenceRule.items_ok hitems
      rcases bind_eq_error hentries with hentry | ⟨_, -, hdone⟩
      · obtain ⟨before, arg, after, rfl, harg, rfl⟩ := of_mapM_mapping_error hentry
        exact .argNoMapping hkey hargs harg
      · cases hdone
    | null | bool | number | array | object =>
      obtain rfl := Except.error.inj htext
      exact .keyNoText hkey (by simp)
  · intro h
    cases h with
    | parts hv =>
      rw [keyedOf, mapping_error hv]
      rfl
    | keyMissing hkey =>
      simp only [keyedOf, mapping_object, Rule.require_none hkey, ok_bind, error_bind, comparator]
    | keyNoText hkey hv =>
      simp only [keyedOf, mapping_object, Rule.require_some hkey, ok_bind, comparator]
    | argsMissing hkey hargs =>
      simp only [keyedOf, mapping_object, Rule.require_some hkey, Rule.require_none hargs, ok_bind,
        error_bind, comparator]
    | argsNoList hkey hargs hv =>
      simp only [keyedOf, mapping_object, Rule.require_some hkey, Rule.require_some hargs,
        items_error hv, ok_bind, error_bind]
    | argNoMapping hkey hargs hv =>
      simp only [keyedOf, mapping_object, Rule.require_some hkey, Rule.require_some hargs,
        items_array, mapM_mapping_error hv, ok_bind, error_bind]

theorem filteredOf_error_iff {payload : Value} {e : RuleError} :
    filteredOf "filter_compare" payload = .error e ↔ FilteredFault payload e := by
  constructor
  · intro h
    rcases bind_eq_error h with hparts | ⟨parts, hparts, hread⟩
    · obtain ⟨hv, rfl⟩ := of_mapping_error hparts
      exact .parts hv
    obtain rfl := SequenceRule.mapping_eq_ok_iff.1 hparts
    rcases bind_eq_error hread with hv | ⟨v, hv, hfilter⟩
    · obtain ⟨hmissing, rfl⟩ := Rule.of_require_error hv
      exact .filterMissing hmissing
    have hv := Rule.require_ok hv
    rcases bind_eq_error hfilter with hfault | ⟨filter, hfilter, hrest⟩
    · obtain ⟨hnone, rfl⟩ := of_mapping_error hfault
      exact .filterNoMapping hv hnone
    obtain rfl := SequenceRule.mapping_eq_ok_iff.1 hfilter
    rcases bind_eq_error hrest with hw | ⟨w, hw, hcompare⟩
    · obtain ⟨hmissing, rfl⟩ := Rule.of_require_error hw
      exact .compareMissing hv hmissing
    rcases bind_eq_error hcompare with hfault | ⟨_, -, hdone⟩
    · obtain ⟨hnone, rfl⟩ := of_mapping_error hfault
      exact .compareNoMapping hv (Rule.require_ok hw) hnone
    · cases hdone
  · intro h
    cases h with
    | parts hv =>
      rw [filteredOf, mapping_error hv]
      rfl
    | filterMissing hfilter =>
      simp only [filteredOf, mapping_object, Rule.require_none hfilter, ok_bind, error_bind,
        comparator]
    | filterNoMapping hfilter hv =>
      simp only [filteredOf, mapping_object, Rule.require_some hfilter, mapping_error hv, ok_bind,
        error_bind]
    | compareMissing hfilter hcompare =>
      simp only [filteredOf, mapping_object, Rule.require_some hfilter, Rule.require_none hcompare,
        ok_bind, error_bind, comparator]
    | compareNoMapping hfilter hcompare hv =>
      simp only [filteredOf, mapping_object, Rule.require_some hfilter, Rule.require_some hcompare,
        mapping_error hv, ok_bind, error_bind]

theorem of_items_map_error {mode : String} {make : List Value → ListRule} {payload : Value}
    {e : RuleError} (h : (make <$> items mode payload) = .error e) :
    (∀ vs, payload ≠ .array vs) ∧ e = notList mode := by
  cases hitems : items mode payload with
  | ok vs =>
    rw [hitems] at h
    cases h
  | error e' =>
    rw [hitems] at h
    exact Except.error.inj h ▸ of_items_error hitems

theorem items_map_error {payload : Value} (h : ∀ vs, payload ≠ .array vs) (mode : String)
    (make : List Value → ListRule) : (make <$> items mode payload) = .error (notList mode) := by
  rw [items_error h]
  rfl

/-- What is written under a mode key is read as that mode. -/
theorem read_written {payload : Value} {parsed : ListRule} (h : Written payload parsed)
    {read : Value → Except RuleError ListRule} (hread : (parsed.mode, read) ∈ modes) :
    read payload = .ok parsed := by
  cases h with
  | size expression =>
    obtain rfl : read = fun v ↦ .ok (.size v) := by simpa [modes, mode] using hread
    rfl
  | exactly expected =>
    obtain rfl : read = fun v ↦ exactly <$> items "match" v := by
      simpa [modes, mode] using hread
    rfl
  | any patterns =>
    obtain rfl : read = fun v ↦ any <$> items "match_any" v := by
      simpa [modes, mode] using hread
    rfl
  | all patterns =>
    obtain rfl : read = fun v ↦ all <$> items "match_all" v := by
      simpa [modes, mode] using hread
    rfl
  | keyed hkey hargs =>
    obtain rfl : read = keyedOf "match_any_if_keyvalue_matches" := by
      simpa [modes, mode] using hread
    exact SequenceRule.keyedOf_eq _ hkey hargs
  | filtered hfilter hcompare =>
    obtain rfl : read = filteredOf "filter_compare" := by simpa [modes, mode] using hread
    exact SequenceRule.filteredOf_eq _ hfilter hcompare

theorem parse_single {fields : Fields} {key : String} {read : Value → Except RuleError ListRule}
    {payload : Value} (hread : (key, read) ∈ modes) (h : presentKeys fields = [key])
    (hvalue : fields.get? key = some payload) : parse ⟨fields⟩ = read payload := by
  have honly : ∀ other ∈ modes.map (·.1), fields.contains other = true → other = key := by
    intro other hother hcontains
    have hmem : other ∈ presentKeys fields := List.mem_filter.2 ⟨hother, hcontains⟩
    rw [h] at hmem
    exact List.mem_singleton.1 hmem
  rw [parse, Rule.select_eq comparator (by decide) hread hvalue honly]
  rfl

theorem parse_cases (fields : Fields) :
    (presentKeys fields = [] ∧ parse ⟨fields⟩ = .error (.missingMode "list" keys)) ∨
    (∃ key read payload, (key, read) ∈ modes ∧ presentKeys fields = [key] ∧
      fields.get? key = some payload ∧ parse ⟨fields⟩ = read payload) ∨
    (2 ≤ (presentKeys fields).length ∧
      parse ⟨fields⟩ = .error (.ambiguousMode "list" (presentKeys fields))) := by
  rcases Rule.select_cases fields comparator modes with
    ⟨hpresent, hselect⟩ | ⟨key, read, payload, hread, hpresent, hvalue, -⟩ |
    ⟨hpresent, hselect⟩
  · refine .inl ⟨hpresent, ?_⟩
    rw [parse, hselect]
    rfl
  · exact .inr (.inl ⟨key, read, payload, hread, hpresent, hvalue,
      parse_single hread hpresent hvalue⟩)
  · refine .inr (.inr ⟨hpresent, ?_⟩)
    rw [parse, hselect]
    rfl

theorem parse_ok_iff {fields : Fields} {parsed : ListRule} :
    parse ⟨fields⟩ = .ok parsed ↔ presentKeys fields = [parsed.mode] ∧
      ∃ payload, fields.get? parsed.mode = some payload ∧ Written payload parsed := by
  rcases parse_cases fields with ⟨hpresent, hparse⟩ |
    ⟨key, read, payload, hread, hpresent, hvalue, hparse⟩ | ⟨hpresent, hparse⟩
  · rw [hparse, hpresent]
    simp
  · rw [hparse, hpresent]
    constructor
    · intro h
      obtain ⟨rfl, hwritten⟩ := SequenceRule.read_ok hread h
      exact ⟨rfl, payload, hvalue, hwritten⟩
    · rintro ⟨hmode, written, hwritten, hshape⟩
      obtain rfl : key = parsed.mode := List.head_eq_of_cons_eq hmode
      obtain rfl : payload = written := Option.some.inj (hvalue.symm.trans hwritten)
      exact read_written hshape hread
  · rw [hparse]
    refine iff_of_false (by simp) ?_
    rintro ⟨hone, -⟩
    rw [hone] at hpresent
    exact absurd hpresent (by simp)

theorem refused_of_read_error {fields : Fields} {key : String}
    {read : Value → Except RuleError ListRule} {payload : Value} {e : RuleError}
    (hread : (key, read) ∈ modes) (hpresent : presentKeys fields = [key])
    (hvalue : fields.get? key = some payload) (h : read payload = .error e) :
    Refused fields e := by
  simp only [modes, List.mem_cons, Prod.mk.injEq, List.not_mem_nil, or_false] at hread
  rcases hread with ⟨rfl, rfl⟩ | ⟨rfl, rfl⟩ | ⟨rfl, rfl⟩ | ⟨rfl, rfl⟩ | ⟨rfl, rfl⟩ | ⟨rfl, rfl⟩
  · cases h
  · obtain ⟨hlist, rfl⟩ := of_items_map_error h
    exact .items (by simp) hpresent hvalue hlist
  · obtain ⟨hlist, rfl⟩ := of_items_map_error h
    exact .items (by simp) hpresent hvalue hlist
  · obtain ⟨hlist, rfl⟩ := of_items_map_error h
    exact .items (by simp) hpresent hvalue hlist
  · exact .keyed hpresent hvalue (keyedOf_error_iff.1 h)
  · exact .filtered hpresent hvalue (filteredOf_error_iff.1 h)

theorem parse_error_iff {fields : Fields} {e : RuleError} :
    parse ⟨fields⟩ = .error e ↔ Refused fields e := by
  constructor
  · intro h
    rcases parse_cases fields with ⟨hpresent, hparse⟩ |
      ⟨key, read, payload, hread, hpresent, hvalue, hparse⟩ | ⟨hpresent, hparse⟩
    · obtain rfl := Except.error.inj (hparse.symm.trans h)
      exact .noMode hpresent
    · exact refused_of_read_error hread hpresent hvalue (hparse.symm.trans h)
    · obtain rfl := Except.error.inj (hparse.symm.trans h)
      exact .severalModes hpresent
  · intro h
    cases h with
    | noMode hnone =>
      rcases parse_cases fields with ⟨-, hparse⟩ | ⟨key, -, -, -, hone, -⟩ | ⟨hseveral, -⟩
      · exact hparse
      · cases hnone.symm.trans hone
      · rw [hnone] at hseveral
        cases hseveral
    | severalModes hseveral =>
      rcases parse_cases fields with ⟨hnone, -⟩ | ⟨key, -, -, -, hone, -⟩ | ⟨-, hparse⟩
      · rw [hnone] at hseveral
        cases hseveral
      · rw [hone] at hseveral
        exact absurd hseveral (by simp)
      · exact hparse
    | items hmode hpresent hvalue hlist =>
      simp only [List.mem_cons, List.not_mem_nil, or_false] at hmode
      rcases hmode with rfl | rfl | rfl
      · have hread : ("match", fun v ↦ exactly <$> items "match" v) ∈ modes := by simp [modes]
        exact (parse_single hread hpresent hvalue).trans (items_map_error hlist _ _)
      · have hread : ("match_any", fun v ↦ any <$> items "match_any" v) ∈ modes := by simp [modes]
        exact (parse_single hread hpresent hvalue).trans (items_map_error hlist _ _)
      · have hread : ("match_all", fun v ↦ all <$> items "match_all" v) ∈ modes := by simp [modes]
        exact (parse_single hread hpresent hvalue).trans (items_map_error hlist _ _)
    | keyed hpresent hvalue hfault =>
      exact (parse_single (by simp [modes]) hpresent hvalue).trans (keyedOf_error_iff.2 hfault)
    | filtered hpresent hvalue hfault =>
      exact (parse_single (by simp [modes]) hpresent hvalue).trans (filteredOf_error_iff.2 hfault)

theorem run_unread {fields : Fields} (htype : fields.get? Rule.typeKey = some (.string "list"))
    {e : RuleError} (h : parse ⟨fields⟩ = .error e) (limits : Limits) (checkId : String)
    (actual : Value) :
    ((Registry.builtins engine limits).run checkId (.object fields) actual).result = .error e := by
  have hsequence : Comparator.sequence ∈ Registry.builtin engine := by simp [Registry.builtin]
  have hget := Registry.get?_builtins hsequence List.mem_cons_self limits
  rw [Registry.run_result, Registry.evaluate_tagged htype hget]
  change (SequenceRule.compare _ ⟨fields⟩ actual).result = _
  rw [SequenceRule.compare, h]
  exact Evaluation.result_bind_error rfl _

/-- A rule on lists is read just if it follows the grammar, as what is written there. Otherwise it
is refused for its first fault, whatever value it is put to. -/
theorem reads_grammar {fields : Fields}
    (htype : fields.get? Rule.typeKey = some (.string "list")) :
    (∀ parsed, parse ⟨fields⟩ = .ok parsed ↔ presentKeys fields = [parsed.mode] ∧
      ∃ payload, fields.get? parsed.mode = some payload ∧ Written payload parsed) ∧
    (∀ e, parse ⟨fields⟩ = .error e ↔ Refused fields e) ∧
    ∀ e, parse ⟨fields⟩ = .error e → ∀ limits checkId actual,
      ((Registry.builtins engine limits).run checkId (.object fields) actual).result = .error e :=
  ⟨fun _ ↦ parse_ok_iff, fun _ ↦ parse_error_iff, fun _ h limits checkId actual ↦
    run_unread htype h limits checkId actual⟩

def servicesRule : Fields :=
  [(Rule.typeKey, .string "list"), ("owner", .string "ops"),
    ("match_any_if_keyvalue_matches", .object [("match_key", .string "name"),
      ("args", .array [.object [("name", .string "sshd")], .bool true, .null])])]

theorem run_servicesRule : servicesRule.get? Rule.typeKey = some (.string "list") ∧
    ∀ limits checkId actual,
      ((Registry.builtins Pattern.engine limits).run checkId (.object servicesRule) actual).result =
        .error (.invalidRule "list" "match_any_if_keyvalue_matches"
          "'args entry' must be a mapping, got true") := by
  have htype : servicesRule.get? Rule.typeKey = some (.string "list") := rfl
  obtain ⟨-, herror, hrun⟩ := reads_grammar htype
  refine ⟨htype, hrun _ ((herror _).2 (.keyed rfl rfl ?_))⟩
  let sshd : Fields := [("name", .string "sshd")]
  have hargs : Fields.get? [("match_key", .string "name"), ("args",
      .array [.object sshd, .bool true, .null])] "args" =
        some (.array ([sshd].map .object ++ .bool true :: [.null])) := rfl
  exact .argNoMapping rfl hargs (by simp)

end ListRule

end AuditRules
