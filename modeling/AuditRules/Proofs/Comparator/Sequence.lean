import AuditRules.Proofs.Comparator
import AuditRules.Proofs.StableSort

namespace AuditRules

variable {engine : PatternEngine}

namespace ListRule

/-- What is written under the key of a mode for a rule to be read from it. -/
inductive Written : Value → ListRule → Prop
  | size (expression : Value) : Written expression (.size expression)
  | exactly (expected : List Value) : Written (.array expected) (.exactly expected)
  | any (patterns : List Value) : Written (.array patterns) (.any patterns)
  | all (patterns : List Value) : Written (.array patterns) (.all patterns)
  | keyed {parts : Fields} {key : String} {args : List Fields}
      (hkey : parts.get? "match_key" = some (.string key))
      (hargs : parts.get? "args" = some (.array (args.map .object))) :
      Written (.object parts) (.keyed key args)
  | filtered {parts filter rule : Fields} (hfilter : parts.get? "filter" = some (.object filter))
      (hcompare : parts.get? "compare" = some (.object rule)) :
      Written (.object parts) (.filtered filter rule)

theorem items_array (mode : String) (vs : List Value) : items mode (.array vs) = .ok vs := rfl

theorem mapping_object (mode what : String) (fields : Fields) :
    mapping mode what (.object fields) = .ok fields := rfl

end ListRule

namespace SequenceRule

theorem parse_asks {fields : Fields} {key : String} {payload : Value}
    (read : Value → Except RuleError ListRule) (h : fields.Asks .sequence key payload)
    (hread : (key, read) ∈ ListRule.modes) : ListRule.parse ⟨fields⟩ = read payload := by
  rw [ListRule.parse, Rule.select_eq ListRule.comparator (by decide) hread h.value h.only]
  rfl

theorem parse_any {fields : Fields} {patterns : List Value}
    (h : fields.Asks .sequence "match_any" (.array patterns)) :
    ListRule.parse ⟨fields⟩ = .ok (.any patterns) :=
  parse_asks (fun v ↦ ListRule.any <$> ListRule.items "match_any" v) h (by simp [ListRule.modes])

theorem parse_all {fields : Fields} {patterns : List Value}
    (h : fields.Asks .sequence "match_all" (.array patterns)) :
    ListRule.parse ⟨fields⟩ = .ok (.all patterns) :=
  parse_asks (fun v ↦ ListRule.all <$> ListRule.items "match_all" v) h (by simp [ListRule.modes])

theorem compare_array {rule : Rule} {parsed : ListRule} (h : ListRule.parse rule = .ok parsed)
    (ctx : Context) (items : List Value) : (compare ctx rule (.array items)).result =
      (compareItems ctx parsed rule.ignoreCase (.array items) items).result := by
  rw [compare, h, Evaluation.liftM_ok_bind]
  exact Evaluation.result_bind_ok rfl _

theorem evaluate_array {fields : Fields} {mode : String} {payload : Value} {parsed : ListRule}
    (h : fields.Asks .sequence mode payload) (hparse : ListRule.parse ⟨fields⟩ = .ok parsed)
    (limits : Limits) (checkId : String) (n : Nat) (items : List Value) :
    ((Registry.builtins engine limits).evaluate checkId n (.object fields) (.array items)).result =
      (compareItems ((Registry.builtins engine limits).context checkId n) parsed
        (Rule.mk fields).ignoreCase (.array items) items).result := by
  rw [Registry.evaluate_asks h (by simp [Registry.builtin])]
  exact compare_array hparse _ items

theorem mapping_eq_ok_iff {mode what : String} {v : Value} {fields : Fields} :
    ListRule.mapping mode what v = .ok fields ↔ v = .object fields := by
  cases v with
  | object => simp [ListRule.mapping_object]
  | null | bool | number | string | array => exact iff_of_false nofun nofun

theorem mapM_mapping_eq_ok_iff {mode what : String} {vs : List Value} {args : List Fields} :
    vs.mapM (ListRule.mapping mode what) = .ok args ↔ vs = args.map .object := by
  rw [mapM_eq_ok_iff, ← List.forall₂_eq_eq_eq, List.forall₂_map_right_iff]
  simp only [mapping_eq_ok_iff]

theorem keyedOf_eq {parts : Fields} {key : String} {args : List Fields} (mode : String)
    (hkey : parts.get? "match_key" = some (.string key))
    (hargs : parts.get? "args" = some (.array (args.map .object))) :
    ListRule.keyedOf mode (.object parts) = .ok (.keyed key args) := by
  have hentries : (args.map Value.object).mapM (ListRule.mapping mode "args entry") = .ok args :=
    mapM_mapping_eq_ok_iff.2 rfl
  simp only [ListRule.keyedOf, ListRule.mapping_object, ListRule.items_array,
    Rule.require_some hkey, Rule.require_some hargs, hentries, ok_bind]
  rfl

theorem filteredOf_eq {parts filter rule : Fields} (mode : String)
    (hfilter : parts.get? "filter" = some (.object filter))
    (hcompare : parts.get? "compare" = some (.object rule)) :
    ListRule.filteredOf mode (.object parts) = .ok (.filtered filter rule) := by
  simp only [ListRule.filteredOf, ListRule.mapping_object, Rule.require_some hfilter,
    Rule.require_some hcompare, ok_bind]
  rfl

theorem items_ok {mode : String} {v : Value} {items : List Value}
    (h : ListRule.items mode v = .ok items) : v = .array items := by
  cases v with
  | array => rw [Except.ok.inj h]
  | null | bool | number | string | object => cases h

theorem keyedOf_ok {mode : String} {payload : Value} {rule : ListRule}
    (h : ListRule.keyedOf mode payload = .ok rule) :
    ∃ key args, rule = .keyed key args ∧ ListRule.Written payload rule := by
  obtain ⟨parts, hparts, h⟩ := exists_of_bind_ok h
  obtain ⟨v, hkey, h⟩ := exists_of_bind_ok h
  cases v with
  | string key =>
    obtain ⟨w, hargs, h⟩ := exists_of_bind_ok h
    obtain ⟨items, hitems, h⟩ := exists_of_bind_ok h
    obtain ⟨args, hmap, h⟩ := exists_of_bind_ok h
    obtain rfl : .keyed key args = rule := Except.ok.inj h
    rw [mapping_eq_ok_iff.1 hparts]
    rw [items_ok hitems, mapM_mapping_eq_ok_iff.1 hmap] at hargs
    exact ⟨key, args, rfl, .keyed (Rule.require_ok hkey) (Rule.require_ok hargs)⟩
  | null | bool | number | array | object => cases h

theorem filteredOf_ok {mode : String} {payload : Value} {rule : ListRule}
    (h : ListRule.filteredOf mode payload = .ok rule) :
    ∃ filter inner, rule = .filtered filter inner ∧ ListRule.Written payload rule := by
  obtain ⟨parts, hparts, h⟩ := exists_of_bind_ok h
  obtain ⟨v, hv, h⟩ := exists_of_bind_ok h
  obtain ⟨filter, hfilter, h⟩ := exists_of_bind_ok h
  obtain ⟨w, hw, h⟩ := exists_of_bind_ok h
  obtain ⟨inner, hinner, h⟩ := exists_of_bind_ok h
  obtain rfl : .filtered filter inner = rule := Except.ok.inj h
  rw [mapping_eq_ok_iff.1 hfilter] at hv
  rw [mapping_eq_ok_iff.1 hinner] at hw
  rw [mapping_eq_ok_iff.1 hparts]
  exact ⟨filter, inner, rfl, .filtered (Rule.require_ok hv) (Rule.require_ok hw)⟩

theorem items_map_ok {mode : String} {payload : Value} {make : List Value → ListRule}
    {rule : ListRule} (h : make <$> ListRule.items mode payload = .ok rule) :
    ∃ items, payload = .array items ∧ rule = make items := by
  cases hi : ListRule.items mode payload with
  | ok items =>
    rw [hi] at h
    exact ⟨items, items_ok hi, (Except.ok.inj h).symm⟩
  | error e => rw [hi] at h; cases h

theorem read_ok {key : String} {read : Value → Except RuleError ListRule}
    (hread : (key, read) ∈ ListRule.modes) {payload : Value} {rule : ListRule}
    (h : read payload = .ok rule) : rule.mode = key ∧ ListRule.Written payload rule := by
  simp only [ListRule.modes, List.mem_cons, Prod.mk.injEq, List.not_mem_nil, or_false] at hread
  rcases hread with ⟨rfl, rfl⟩ | ⟨rfl, rfl⟩ | ⟨rfl, rfl⟩ | ⟨rfl, rfl⟩ | ⟨rfl, rfl⟩ | ⟨rfl, rfl⟩
  · obtain rfl : .size payload = rule := Except.ok.inj h
    exact ⟨rfl, .size payload⟩
  · obtain ⟨items, rfl, rfl⟩ := items_map_ok h
    exact ⟨rfl, .exactly items⟩
  · obtain ⟨items, rfl, rfl⟩ := items_map_ok h
    exact ⟨rfl, .any items⟩
  · obtain ⟨items, rfl, rfl⟩ := items_map_ok h
    exact ⟨rfl, .all items⟩
  · obtain ⟨key, args, rfl, hwritten⟩ := keyedOf_ok h
    exact ⟨rfl, hwritten⟩
  · obtain ⟨filter, inner, rfl, hwritten⟩ := filteredOf_ok h
    exact ⟨rfl, hwritten⟩

/-- A rule that can be read is written under the key of its mode. -/
theorem parse_ok {fields : Fields} {rule : ListRule} (h : ListRule.parse ⟨fields⟩ = .ok rule) :
    ∃ payload, fields.get? rule.mode = some payload ∧ ListRule.Written payload rule := by
  obtain ⟨⟨read, payload⟩, hselect, h⟩ := exists_of_bind_ok h
  obtain ⟨key, hmem, hvalue⟩ := Rule.select_ok hselect
  obtain ⟨rfl, hwritten⟩ := read_ok hmem h
  exact ⟨payload, hvalue, hwritten⟩

theorem numberRule_asks {mode : String} (hm : mode ∈ Comparator.number.modes) (e : Value) :
    Fields.Asks [(Rule.typeKey, .string "number"), (mode, e)] .number mode e :=
  Fields.asks_written (by decide) (by rintro rfl; revert hm; decide) (by decide) e

theorem mappingRule_asks {mode : String} (hm : mode ∈ Comparator.mapping.modes) (e : Value)
    (ignoreCase : Bool) : Fields.Asks [(Rule.typeKey, .string "dict"), (mode, e),
      (Rule.ignoreCaseKey, .bool ignoreCase)] .mapping mode e :=
  Fields.asks_written (by decide) (by rintro rfl; revert hm; decide)
    (by cases ignoreCase <;> decide) e

def filterRule (filter : Fields) : Value :=
  .object [(Rule.typeKey, .string "dict"), ("match", .object filter)]

theorem filterRule_asks (filter : Fields) :
    Fields.Asks [(Rule.typeKey, .string "dict"), ("match", .object filter)] .mapping "match"
      (.object filter) :=
  Fields.asks_written (by decide) (by decide) (by decide) (.object filter)

def innerRule (rule : Fields) : Value :=
  .object (Fields.insertAll [(Rule.typeKey, .string "list")] rule)

theorem sortItems_ok {key : Option String} {items : List Value}
    (h : items.length ≤ 20 ∨ IsOrderOn (elementOrder key) items) :
    sortItems key items = .ok (insertionSort (elementOrder key · · == .lt) items) := by
  rw [sortItems, sortBy_eq_some h]

theorem sortItems_perm {key : Option String} {items sorted : List Value}
    (h : sortItems key items = .ok sorted) : sorted.Perm items := by
  unfold sortItems at h
  split at h
  · rename_i hsorted
    rw [← Except.ok.inj h]
    exact sortBy_perm hsorted
  · cases h

theorem sortItems_error {key : Option String} {items : List Value} {e : RuleError}
    (h : sortItems key items = .error e) : e = .aborted := by
  unfold sortItems at h
  split at h
  · cases h
  · exact (Except.error.inj h).symm

theorem equalSorted_error {key : Option String} {xs ys : List Value} {e : RuleError}
    (h : equalSorted key xs ys = .error e) : e = .aborted := by
  rcases bind_eq_error h with h | ⟨sorted, -, h⟩
  · exact sortItems_error h
  · rcases bind_eq_error h with h | ⟨_, -, h⟩
    · exact sortItems_error h
    · cases h

theorem equalSorted_ok {key : Option String} {xs ys xs' ys' : List Value}
    (hxs : sortItems key xs = .ok xs') (hys : sortItems key ys = .ok ys') :
    equalSorted key xs ys = .ok (equalItems xs' ys') := by
  rw [equalSorted, hxs, ok_bind, hys]
  rfl

def firstSettles (ctx : Context) (expected : List Value) (first : Value) : Evaluation Bool :=
  match first.shape, expected with
  | .whole n, e :: _ => passesNumber ctx (numberRule "match" e) n
  | _, _ => pure false

def sortKey (first : Value) : Option String :=
  match first.shape with
  | .mapping fields => fields.keys.head?
  | _ => none

theorem compareExactly_cons (ctx : Context) (expected : List Value) (actual first : Value)
    (rest : List Value) : compareExactly ctx expected actual (first :: rest) = (do
      if ← firstSettles ctx expected first then return .checkPassed
      return .ofBool (← equalSorted (sortKey first) (first :: rest) expected)
        ("list::match failure. Got=" ++ ctx.render actual)) := by
  unfold compareExactly firstSettles sortKey
  dsimp only
  cases first.shape <;> cases expected <;> rfl

theorem filter_isObject (patterns : List Value) :
    patterns.filter Value.isObject = (patterns.filterMap Value.toObject?).map .object := by
  induction patterns with
  | nil => rfl
  | cons pattern patterns ih =>
    cases pattern <;>
      simpa only [List.filter_cons, List.filterMap_cons, Value.isObject, Value.toObject?,
        Option.isSome_some, Option.isSome_none, if_true, Bool.false_eq_true, if_false,
        List.map_cons, List.cons.injEq, true_and] using ih

theorem mem_filterMap_toObject? {patterns : List Value} {fields : Fields} :
    fields ∈ patterns.filterMap Value.toObject? ↔ .object fields ∈ patterns := by
  constructor
  · intro h
    obtain ⟨pattern, hmem, hp⟩ := List.mem_filterMap.1 h
    cases pattern with
    | object => obtain rfl := Option.some.inj hp; exact hmem
    | null | bool | number | string | array => cases hp
  · exact fun h ↦ List.mem_filterMap.2 ⟨_, h, rfl⟩

def expressionsPass (ctx : Context) (patterns : List Value) (n : Int) : Evaluation Bool :=
  let expressions := patterns.filter fun p ↦ (NumberExpression.parse p).isOk
  if expressions.isEmpty then pure false
  else passesNumber ctx (numberRule "match_any" (.array expressions)) n

def mappingsPass (ctx : Context) (ignoreCase : Bool) (patterns : List Value) (item : Value) :
    Evaluation Bool :=
  let mappings := patterns.filter Value.isObject
  if mappings.isEmpty then pure false
  else passes ctx (mappingRule "match_any" (.array mappings) ignoreCase) item

theorem itemSatisfiesAny_eq (ctx : Context) (ignoreCase : Bool) (patterns : List Value)
    (item : Value) : itemSatisfiesAny ctx ignoreCase patterns item =
      match item.shape with
      | .mapping _ => mappingsPass ctx ignoreCase patterns item
      | .whole n => do
        if ← expressionsPass ctx patterns n then return true
        patterns.anyM (scalarSatisfies ctx ignoreCase item)
      | .other _ => patterns.anyM (scalarSatisfies ctx ignoreCase item) := by
  unfold itemSatisfiesAny mappingsPass expressionsPass
  dsimp only
  cases item.shape with
  | whole => dsimp only; split <;> rfl
  | mapping | other => rfl

/-- An element that is a mapping and an argument, with equal values under a key. -/
def Hit (key : String) (item : Value) (arg : Fields) : Prop :=
  ∃ (fields : Fields) (v w : Value), item = .object fields ∧ fields.get? key = some v ∧
    arg.get? key = some w ∧ v.equal w = true

theorem shape_object (fields : Fields) : (Value.object fields).shape = .mapping fields := rfl

theorem eq_object_of_shape {item : Value} {fields : Fields} (h : item.shape = .mapping fields) :
    item = .object fields := by
  unfold Value.shape at h
  split at h
  · cases h
  · cases h; rfl
  · cases h

def hits (key : String) (item : Value) (arg : Fields) : Bool :=
  (item.get? key).any fun v ↦ (arg.get? key).any v.equal

theorem hits_object (key : String) (fields arg : Fields) : hits key (.object fields) arg =
    (fields.get? key).any fun v ↦ (arg.get? key).any v.equal := rfl

theorem hits_iff {key : String} {item : Value} {arg : Fields} :
    hits key item arg = true ↔ Hit key item arg := by
  constructor
  · intro h
    cases item with
    | object fields =>
      obtain ⟨v, hv, h⟩ := (Option.any_eq_true _ _).1 (hits_object key fields arg ▸ h)
      obtain ⟨w, hw, hvw⟩ := (Option.any_eq_true _ _).1 h
      exact ⟨fields, v, w, rfl, hv, hw, hvw⟩
    | null | bool | number | string | array => cases h
  · rintro ⟨fields, v, w, rfl, hv, hw, hvw⟩
    simp only [hits_object, hv, hw, Option.any_some, hvw]

theorem keyedPairs_eq (key : String) (args : List Fields) (items : List Value) :
    keyedPairs key args items =
      items.flatMap fun item ↦ (args.filter (hits key item)).map fun arg ↦ (item, arg) := by
  unfold keyedPairs
  congr 1
  funext item
  cases hshape : item.shape with
  | mapping fields =>
    obtain rfl := eq_object_of_shape hshape
    cases hkey : fields.get? key <;> simp [funext (hits_object key fields), hkey]
  | whole | other =>
    cases item with
    | object => cases hshape
    | null | bool | number | string | array => simp [hits, Value.get?, Value.toObject?]

theorem mem_keyedPairs {key : String} {args : List Fields} {items : List Value} {item : Value}
    {arg : Fields} :
    (item, arg) ∈ keyedPairs key args items ↔ item ∈ items ∧ arg ∈ args ∧ Hit key item arg := by
  rw [keyedPairs_eq, ← hits_iff]
  simp only [List.mem_flatMap, List.mem_map, List.mem_filter, Prod.mk.injEq]
  constructor
  · rintro ⟨item', hitem, arg', ⟨harg, hhit⟩, rfl, rfl⟩
    exact ⟨hitem, harg, hhit⟩
  · rintro ⟨hitem, harg, hhit⟩
    exact ⟨item, hitem, arg, ⟨harg, hhit⟩, rfl, rfl⟩

end SequenceRule

end AuditRules
