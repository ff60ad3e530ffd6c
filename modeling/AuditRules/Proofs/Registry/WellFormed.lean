import AuditRules.Proofs.Comparator.Delegates
import AuditRules.Proofs.Rule.WellFormed

namespace AuditRules

open Evaluation (ErrsOnly result_liftM)

variable {engine : PatternEngine}

variable {allowed : RuleError → Prop}

structure Context.Answers (engine : PatternEngine) (allowed : RuleError → Prop) (ctx : Context) :
    Prop where
  rule : ∀ spec v, WellFormedRule engine spec → ErrsOnly allowed (ctx.delegate spec v)
  number : ∀ e v,
    ErrsOnly (OrBadExpression allowed) (ctx.delegate (SequenceRule.numberRule "match" e) v)
  sorts : allowed .aborted

namespace NumberRule

theorem compare_one_ensures {fields : Fields} {e : Value} (h : fields.Asks .number "match" e)
    (he : ∀ error, NumberExpression.parse e = .error error → allowed error) (ctx : Context)
    (actual : Value) : ErrsOnly allowed (compare ctx ⟨fields⟩ actual) := by
  rw [compare, select_asks .one h, Evaluation.liftM_ok_bind]
  refine .bind (ensures_event ctx _ _) fun _ _ ↦ ?_
  cases actual.toQuantity? with
  | none => exact trivial
  | some q =>
    cases hp : NumberExpression.parse e with
    | ok expression => exact .of_ok (by rw [result_liftM, compareOne, hp]; rfl) trivial
    | error error => exact .of_error (by rw [result_liftM, compareOne, hp]; rfl) (he error hp)

theorem compare_any_ensures {fields : Fields} {es : List Value}
    (h : fields.Asks .number "match_any" (.array es))
    (hes : ∀ e ∈ es, (NumberExpression.parse e).isOk = true) (ctx : Context) (actual : Value) :
    ErrsOnly allowed (compare ctx ⟨fields⟩ actual) := by
  rw [compare, select_asks .any h, Evaluation.liftM_ok_bind]
  refine .bind (ensures_event ctx _ _) fun _ _ ↦ ?_
  cases actual.toQuantity? with
  | none => exact trivial
  | some q =>
    obtain ⟨found, hfound⟩ : ∃ found, (es.anyM fun e ↦
        return (← NumberExpression.parse e).holds q : Except RuleError Bool) = .ok found := by
      refine anyM_ok fun e he ↦ ?_
      obtain ⟨expression, hp⟩ := isOk_iff.1 (hes e he)
      exact ⟨expression.holds q, by rw [hp]; rfl⟩
    exact .of_ok (by rw [result_liftM, compareAny, hfound]; rfl) trivial

end NumberRule

namespace TextRule

theorem compare_ensures {fields : Fields} {payload : Value} (mode : Mode)
    (h : fields.Asks (.text engine) mode.key payload)
    (hs : ∀ text, ∃ found,
      satisfied engine mode (Rule.mk fields).ignoreCase payload text = .ok found)
    (ctx : Context) (actual : Value) :
    ErrsOnly allowed (compare engine ctx ⟨fields⟩ actual) := by
  rw [compare, select_asks mode h, Evaluation.liftM_ok_bind]
  refine .bind (ensures_event ctx _ _) fun _ _ ↦ ?_
  cases actual.toText? with
  | none => exact trivial
  | some text =>
    obtain ⟨found, hfound⟩ := hs text
    simp only [hfound, Evaluation.liftM_ok_bind]
    exact trivial

theorem satisfied_equal {v : Value} (h : v.toText?.isSome = true) (ignoreCase : Bool)
    (text : String) : ∃ found, satisfied engine .equal ignoreCase v text = .ok found := by
  obtain ⟨s, hs⟩ := Option.isSome_iff_exists.1 h
  exact ⟨_, by rw [satisfied, expectedText_ok hs]; rfl⟩

theorem satisfied_any {vs : List Value} (h : ∀ v ∈ vs, v.toText?.isSome = true)
    (ignoreCase : Bool) (text : String) :
    ∃ found, satisfied engine .any ignoreCase (.array vs) text = .ok found := by
  refine anyM_ok fun v hv ↦ ?_
  obtain ⟨s, hs⟩ := Option.isSome_iff_exists.1 (h v hv)
  exact ⟨_, by rw [expectedText_ok hs]; rfl⟩

theorem satisfied_pattern {v : Value} {s : String} {ignoreCase : Bool} (hv : v.toText? = some s)
    (hs : (engine ignoreCase s).isOk = true) (text : String) :
    ∃ found, satisfied engine .pattern ignoreCase v text = .ok found := by
  cases hp : engine ignoreCase s with
  | error e => rw [hp] at hs; cases hs
  | ok isMatch =>
    refine ⟨isMatch text, ?_⟩
    rw [satisfied, expectedText_ok hv]
    simp only [matchesPattern, hp, bind, Except.bind]

end TextRule

namespace BooleanRule

theorem compare_ensures {fields : Fields} {payload : Value}
    (h : fields.Asks .boolean "match" payload) (hv : payload.toBool?.isSome = true)
    (ctx : Context) (actual : Value) :
    ErrsOnly allowed (compare ctx ⟨fields⟩ actual) := by
  obtain ⟨expected, he⟩ := Option.isSome_iff_exists.1 hv
  rw [compare, select_asks h, Evaluation.liftM_ok_bind]
  refine .bind (ensures_event ctx _ _) fun _ _ ↦ ?_
  rw [he]
  cases actual.toBool? <;> exact trivial

end BooleanRule

namespace MappingRule

theorem RuleIn.wellFormed {pattern : Fields} {rule : Value} (hr : RuleIn pattern rule)
    (h : WellFormedPattern engine pattern) : WellFormedRule engine rule := by
  induction hr with
  | here hmem ht => exact h.typed hmem ht
  | deeper hmem hn _ ih => exact ih (h.nested hmem hn)

theorem compareFields_ensures {fields : Fields} {payload : Value} (mode : Mode)
    (h : fields.Asks .mapping mode.key payload) (ctx : Context)
    (hfields : ∀ actual entries, ErrsOnly allowed
      (compareFields ctx mode (Rule.mk fields).ignoreCase payload actual entries))
    (actual : Value) : ErrsOnly allowed (compare ctx ⟨fields⟩ actual) := by
  rw [compare, select_asks mode h, Evaluation.liftM_ok_bind]
  refine .bind (ensures_event ctx _ _) fun _ _ ↦ ?_
  cases actual with
  | object entries => exact hfields _ _
  | null | bool | number | string | array => exact trivial

theorem compareEntries_ensures {ctx : Context} (hctx : ctx.Answers engine allowed)
    {expected : Fields} (h : WellFormedPattern engine expected) (ignoreCase : Bool)
    (actual : Value) (entries : Fields) :
    ErrsOnly allowed (compareFields ctx .entries ignoreCase (.object expected) actual entries) := by
  simp only [compareFields, expectedMapping, Evaluation.liftM_ok_bind]
  refine .bind (mismatch?_errsOnly isHereditary_all expected entries trivial fun rule v hr _ ↦
    hctx.rule rule v (hr.wellFormed h)) fun reason _ ↦ ?_
  cases reason <;> exact trivial

theorem compareAny_ensures {ctx : Context} (hctx : ctx.Answers engine allowed)
    {candidates : List Fields}
    (h : ∀ candidate ∈ candidates, WellFormedPattern engine candidate) (ignoreCase : Bool)
    (actual : Value) (entries : Fields) : ErrsOnly allowed
      (compareFields ctx .any ignoreCase (.array (candidates.map .object)) actual entries) := by
  simp only [compareFields, expectedMappings, Evaluation.liftM_ok_bind]
  refine .bind (.anyM fun v hv ↦ ?_) fun _ _ ↦ trivial
  obtain ⟨candidate, hc, rfl⟩ := List.mem_map.1 hv
  simp only [expectedMapping, Evaluation.liftM_ok_bind]
  exact .bind (mismatch?_errsOnly isHereditary_all candidate entries trivial fun rule v hr _ ↦
    hctx.rule rule v (hr.wellFormed (h candidate hc))) fun _ _ ↦ trivial

theorem compareKeys_ensures (ctx : Context) (mode : Mode) (hmode : mode = .keyAny ∨ mode = .keyAll)
    (keys : List String) (ignoreCase : Bool) (actual : Value) (entries : Fields) :
    ErrsOnly allowed
      (compareFields ctx mode ignoreCase (.array (keys.map .string)) actual entries) := by
  rcases hmode with rfl | rfl <;>
    (simp only [compareFields, expectedKeys_ok, Evaluation.liftM_ok_bind]; exact trivial)

end MappingRule

namespace SequenceRule

theorem nestedRule_wellFormed {patterns : List Value} {pattern rule : Value}
    (hp : ∀ pattern, .object pattern ∈ patterns → WellFormedPattern engine pattern)
    (hmem : pattern ∈ patterns) (hrule : pattern.nestedRule? = some rule) :
    WellFormedRule engine rule := by
  obtain ⟨key, rest, rfl, ht⟩ := Value.nestedRule?_eq_some hrule
  exact (hp _ hmem).typed List.mem_cons_self ht

variable {ctx : Context} (hctx : ctx.Answers engine allowed) (ignoreCase : Bool)

include hctx

theorem answered_size {e : Value} (he : (NumberExpression.parse e).isOk = true) :
    Answered allowed (fun _ ↦ True) ctx ignoreCase (.size e) where
  delegates target v h _ := by
    cases h with
    | length => exact hctx.rule _ v (.number (numberRule_asks (by decide) e) he)
  tries _ _ h _ := nomatch h
  sorts _ _ _ h := nomatch h

theorem answered_exactly (expected : List Value) :
    Answered allowed (fun _ ↦ True) ctx ignoreCase (.exactly expected) where
  delegates _ _ h _ := nomatch h
  tries target v h _ := by
    cases h with
    | first e => exact hctx.number e v
  sorts _ _ _ _ _ e he := by
    rw [equalSorted_error he]
    exact hctx.sorts

theorem answered_any {patterns : List Value}
    (hp : ∀ pattern, .object pattern ∈ patterns → WellFormedPattern engine pattern) :
    Answered allowed (fun _ ↦ True) ctx ignoreCase (.any patterns) where
  delegates target v h _ := by
    cases h with
    | mappings =>
      rw [filter_isObject]
      exact hctx.rule _ v (.mappingAny (mappingRule_asks (by decide) _ ignoreCase)
        fun candidate hmem ↦ hp candidate (mem_filterMap_toObject?.1 hmem))
    | nestedAny hmem hrule => exact hctx.rule target v (nestedRule_wellFormed hp hmem hrule)
  tries target v h _ := by
    cases h with
    | expressions =>
      have hrule := hctx.rule _ v (.numberAny (numberRule_asks (by decide)
        (.array (patterns.filter fun p ↦ (NumberExpression.parse p).isOk)))
          fun e he ↦ (List.mem_filter.1 he).2)
      exact hrule.mono fun _ ↦ .inl
  sorts _ _ _ h := nomatch h

theorem answered_all {patterns : List Value}
    (hp : ∀ pattern, .object pattern ∈ patterns → WellFormedPattern engine pattern) :
    Answered allowed (fun _ ↦ True) ctx ignoreCase (.all patterns) where
  delegates target v h _ := by
    cases h with
    | mapping hmem =>
      exact hctx.rule _ v (.mapping (mappingRule_asks (by decide) _ ignoreCase) (hp _ hmem))
    | nestedAll hmem hrule => exact hctx.rule target v (nestedRule_wellFormed hp hmem hrule)
  tries _ _ h _ := nomatch h
  sorts _ _ _ h := nomatch h

theorem answered_keyed {args : List Fields} (hp : ∀ arg ∈ args, WellFormedPattern engine arg)
    (key : String) : Answered allowed (fun _ ↦ True) ctx ignoreCase (.keyed key args) where
  delegates target v h _ := by
    cases h with
    | argument hmem =>
      exact hctx.rule _ v (.mapping (mappingRule_asks (by decide) _ ignoreCase) (hp _ hmem))
  tries _ _ h _ := nomatch h
  sorts _ _ _ h := nomatch h

theorem answered_filtered {filter rule : Fields} (hf : WellFormedPattern engine filter)
    (hr : WellFormedRule engine (innerRule rule)) :
    Answered allowed (fun _ ↦ True) ctx ignoreCase (.filtered filter rule) where
  delegates target v h _ := by
    cases h with
    | filter => exact hctx.rule _ v (.mapping (filterRule_asks filter) hf)
    | inner => exact hctx.rule _ v hr
  tries _ _ h _ := nomatch h
  sorts _ _ _ h := nomatch h

end SequenceRule

namespace Registry

open SequenceRule

variable {limits : Limits} {checkId : String} {remaining : Nat}

/-- A list rule that can be read is answered if the rules that it makes up are. -/
theorem evaluate_read_ensures {fields : Fields} {mode : String} {payload : Value}
    (read : Value → Except RuleError ListRule) (hread : (mode, read) ∈ ListRule.modes)
    (h : fields.Asks .sequence mode payload) {rule : ListRule} (hrule : read payload = .ok rule)
    (hanswered : Answered allowed (fun _ ↦ True)
      ((builtins engine limits).context checkId remaining) (Rule.mk fields).ignoreCase rule)
    (actual : Value) : ErrsOnly allowed
      ((builtins engine limits).evaluate checkId remaining (.object fields) actual) := by
  have hparse : ListRule.parse ⟨fields⟩ = .ok rule := (parse_asks read h hread).trans hrule
  rw [evaluate_asks h (by simp [builtin])]
  refine compare_errsOnly isHereditary_all (hparse ▸ .ok rule) (fun parsed hparsed ↦ ?_) trivial
  obtain rfl : rule = parsed := Except.ok.inj (hparse.symm.trans hparsed)
  exact hanswered

/-- One step: a well-formed rule is answered if the rules that its comparator delegates are. -/
theorem evaluate_ensures
    (hctx : ((builtins engine limits).context checkId remaining).Answers engine allowed)
    {spec : Value} (h : WellFormedRule engine spec) (actual : Value) : ErrsOnly allowed
      ((builtins engine limits).evaluate checkId remaining spec actual) := by
  cases h with
  | number h he =>
    rw [evaluate_asks h (by simp [builtin])]
    refine NumberRule.compare_one_ensures h (fun error hp ↦ ?_) _ actual
    rw [hp] at he
    cases he
  | numberAny h hes =>
    rw [evaluate_asks h (by simp [builtin])]
    exact NumberRule.compare_any_ensures h hes _ actual
  | text h hv =>
    rw [evaluate_asks h (by simp [builtin])]
    exact TextRule.compare_ensures .equal h (TextRule.satisfied_equal hv _) _ actual
  | textAny h hvs =>
    rw [evaluate_asks h (by simp [builtin])]
    exact TextRule.compare_ensures .any h (TextRule.satisfied_any hvs _) _ actual
  | textPattern h hv hs =>
    rw [evaluate_asks h (by simp [builtin])]
    exact TextRule.compare_ensures .pattern h (TextRule.satisfied_pattern hv hs) _ actual
  | boolean h hv =>
    rw [evaluate_asks h (by simp [builtin])]
    exact BooleanRule.compare_ensures h hv _ actual
  | mapping h he =>
    rw [evaluate_asks h (by simp [builtin])]
    exact MappingRule.compareFields_ensures .entries h _
      (MappingRule.compareEntries_ensures hctx he _) actual
  | mappingAny h hc =>
    rw [evaluate_asks h (by simp [builtin])]
    exact MappingRule.compareFields_ensures .any h _
      (MappingRule.compareAny_ensures hctx hc _) actual
  | mappingKeyAny h =>
    rw [evaluate_asks h (by simp [builtin])]
    exact MappingRule.compareFields_ensures .keyAny h _
      (MappingRule.compareKeys_ensures _ .keyAny (.inl rfl) _ _) actual
  | mappingKeyAll h =>
    rw [evaluate_asks h (by simp [builtin])]
    exact MappingRule.compareFields_ensures .keyAll h _
      (MappingRule.compareKeys_ensures _ .keyAll (.inr rfl) _ _) actual
  | size h he =>
    exact evaluate_read_ensures (fun v ↦ .ok (.size v)) (by simp [ListRule.modes]) h rfl
      (answered_size hctx _ he) actual
  | exactly h =>
    exact evaluate_read_ensures (fun v ↦ ListRule.exactly <$> ListRule.items "match" v)
      (by simp [ListRule.modes]) h rfl (answered_exactly hctx _ _) actual
  | any h hp =>
    exact evaluate_read_ensures (fun v ↦ ListRule.any <$> ListRule.items "match_any" v)
      (by simp [ListRule.modes]) h rfl (answered_any hctx _ hp) actual
  | all h hp =>
    exact evaluate_read_ensures (fun v ↦ ListRule.all <$> ListRule.items "match_all" v)
      (by simp [ListRule.modes]) h rfl (answered_all hctx _ hp) actual
  | keyed h hkey hargs hp =>
    exact evaluate_read_ensures (ListRule.keyedOf "match_any_if_keyvalue_matches")
      (by simp [ListRule.modes]) h (keyedOf_eq _ hkey hargs) (answered_keyed hctx _ hp _) actual
  | filtered h hfilter hcompare hf hr =>
    exact evaluate_read_ensures (ListRule.filteredOf "filter_compare") (by simp [ListRule.modes])
      h (filteredOf_eq _ hfilter hcompare) (answered_filtered hctx _ hf hr) actual

theorem context_answers (engine : PatternEngine) (limits : Limits) (checkId : String)
    (remaining : Nat) : ((builtins engine limits).context checkId remaining).Answers engine
      fun e ↦ e = .nestingTooDeep checkId limits.nesting ∨ e = .aborted := by
  induction remaining with
  | zero => exact ⟨fun _ _ _ ↦ .inl rfl, fun _ _ ↦ .inl (.inl rfl), .inr rfl⟩
  | succ n ih =>
    refine ⟨fun spec v h ↦ evaluate_ensures ih h v, fun e v ↦ ?_, .inr rfl⟩
    have hasks := numberRule_asks List.mem_cons_self e
    have hstep : (builtins engine limits).delegated checkId (n + 1) (numberRule "match" e) v =
        NumberRule.compare ((builtins engine limits).context checkId n) _ v :=
      evaluate_asks hasks (by simp [builtin]) limits checkId n v
    change ErrsOnly _ ((builtins engine limits).delegated checkId (n + 1) _ v)
    rw [hstep]
    exact NumberRule.compare_one_ensures hasks (fun error hp ↦ .inr (NumberRule.parse_error hp)) _ v

/-- A well-formed rule has a verdict on every value, unless it nests more deeply than the limit
allows or lists in it cannot be sorted. -/
theorem run_wellFormedRule (limits : Limits) (checkId : String) {spec : Value}
    (h : WellFormedRule engine spec) (actual : Value) :
    (∃ verdict, ((builtins engine limits).run checkId spec actual).result = .ok verdict) ∨
      ((builtins engine limits).run checkId spec actual).result =
        .error (.nestingTooDeep checkId limits.nesting) ∨
      ((builtins engine limits).run checkId spec actual).result = .error .aborted := by
  have hanswers := context_answers engine limits checkId limits.nesting
  have hrun := evaluate_ensures hanswers h actual
  rw [run_result]
  cases hr : ((builtins engine limits).evaluate checkId limits.nesting spec actual).result with
  | ok verdict => exact .inl ⟨verdict, hr⟩
  | error e =>
    rcases hrun.allows hr with rfl | rfl
    · exact .inr (.inl hr)
    · exact .inr (.inr hr)

end Registry

end AuditRules
