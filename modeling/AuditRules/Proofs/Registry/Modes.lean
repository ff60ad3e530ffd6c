import AuditRules.Proofs.Registry.Mapping

namespace AuditRules

open Evaluation (YieldsOnly)

variable {engine : PatternEngine}

namespace SequenceRule

variable {accepts : Value → Value → Bool} {ctx : Context} {ignoreCase : Bool}

/-- Number expressions are all that one mode takes for an integer and the other does not. -/
theorem elementSatisfies_iff_satisfies {pattern : Value}
    (h : (NumberExpression.parse pattern).isOk = false) (item : Value) :
    ElementSatisfies accepts ignoreCase item pattern ↔
      Satisfies accepts ignoreCase item pattern := by
  unfold ElementSatisfies Satisfies
  cases item.shape with
  | mapping | other => rfl
  | whole n =>
    have hnone : ¬ HoldsOf n pattern := by
      rintro ⟨e, he, -⟩
      rw [he] at h
      cases h
    simp only [hnone, false_or]

theorem scanPairs_passed_iff {pairs : List (Value × Fields)} {mismatched : Bool} {o : Outcome}
    (haccepts : ∀ rule v, YieldsOnly (fun verdict ↦ verdict.passed = accepts rule v)
      (ctx.delegate rule v))
    (hdecided : ∀ item arg, YieldsOnly Verdict.Decided
      (ctx.delegate (mappingRule "match" (.object arg) ignoreCase) item))
    (h : (scanPairs ctx ignoreCase mismatched pairs).result = .ok o) :
    o = .passed ↔ ∃ p ∈ pairs,
      accepts (mappingRule "match" (.object p.2) ignoreCase) p.1 = true := by
  induction pairs generalizing mismatched with
  | nil =>
    have ho : o = if mismatched then .failed else .notApplicable := (Except.ok.inj h).symm
    cases mismatched <;> simp [ho]
  | cons pair rest ih =>
    obtain ⟨item, arg⟩ := pair
    simp only [List.mem_cons, exists_eq_or_imp]
    rcases scanPairs_cons h with ⟨⟨v, hv, ho⟩, rfl⟩ | ⟨⟨v, hv, ho⟩, hrest⟩ | ⟨⟨v, hv, ho⟩, -⟩
    · -- The pairs after this one are not looked at, and may be in error.
      have hpassed := (haccepts _ _).accepts hv
      exact iff_of_true rfl (.inl (by simp [← hpassed, Verdict.passed, ho]))
    · have hfailed := (haccepts _ _).accepts hv
      simp [ih hrest, ← hfailed, Verdict.passed, ho]
    · exact absurd ho ((hdecided item arg).accepts hv)

theorem keyedPairs_single (key : String) (arg : Fields) (items : List Value) :
    keyedPairs key [arg] items =
      (items.filter (hits key · arg)).map fun item ↦ (item, arg) := by
  rw [keyedPairs_eq]
  induction items with
  | nil => rfl
  | cons item rest ih =>
    rw [List.flatMap_cons, ih]
    cases h : hits key item arg <;> simp [h]

end SequenceRule

namespace Registry

open SequenceRule

variable {limits : Limits} {checkId : String}

/-- Of patterns that are no number expressions, all are required just where each of them alone has
an element. -/
theorem run_allRule_iff_anyRules {fields : Fields} {patterns : List Value}
    (h : fields.Asks .sequence "match_all" (.array patterns))
    (hpatterns : ∀ p ∈ patterns, (NumberExpression.parse p).isOk = false) {single : Value → Fields}
    (hsingle : ∀ p ∈ patterns, (single p).Asks .sequence "match_any" (.array [p]))
    (hcase : ∀ p ∈ patterns, (Rule.mk (single p)).ignoreCase = (Rule.mk fields).ignoreCase)
    {items : List Value} {v : Verdict} {w : Value → Verdict}
    (hv : ((builtins engine limits).run checkId (.object fields) (.array items)).result = .ok v)
    (hw : ∀ p ∈ patterns, ((builtins engine limits).run checkId (.object (single p))
      (.array items)).result = .ok (w p)) :
    v.outcome = .passed ↔ ∀ p ∈ patterns, (w p).outcome = .passed := by
  have hall := (outcome_of_met (run_allRule_result h hv)).1
  rw [hall]
  refine forall₂_congr fun p hp ↦ ?_
  have hany := (run_anyRule_outcome (hsingle p hp) (hw p hp)).1
  rw [hany, hcase p hp]
  simp only [Meets, SomeSatisfies, List.mem_singleton, exists_eq_left]
  simp only [elementSatisfies_iff_satisfies (hpatterns p hp)]

def anyRule (pattern : Value) : Fields :=
  [(Rule.typeKey, .string "list"), ("match_any", .array [pattern])]

theorem anyRule_asks (pattern : Value) :
    (anyRule pattern).Asks .sequence "match_any" (.array [pattern]) :=
  Fields.asks_written (by decide) (by decide) (by decide) _

def daemonPatterns : List Value := [.string "sshd", .object [("name", .string "cron")]]

theorem run_onlySshd :
    sshdAndCron.Asks .sequence "match_all" (.array daemonPatterns) ∧
    (∀ p ∈ daemonPatterns, (NumberExpression.parse p).isOk = false) ∧
    ∃ (v : Verdict) (w : Value → Verdict),
      ((builtins Pattern.engine .default).run "check" (.object sshdAndCron)
        (.array onlySshd)).result = .ok v ∧
      (∀ p ∈ daemonPatterns, ((builtins Pattern.engine .default).run "check" (.object (anyRule p))
        (.array onlySshd)).result = .ok (w p)) ∧
      v.outcome = .failed ∧
      (v.outcome = .passed ↔ ∀ p ∈ daemonPatterns, (w p).outcome = .passed) := by
  have hasks : sshdAndCron.Asks .sequence "match_all" (.array daemonPatterns) :=
    Fields.asks_written (by decide) (by decide) (by decide) _
  have hpatterns : ∀ p ∈ daemonPatterns, (NumberExpression.parse p).isOk = false := by decide
  let failed := Verdict.fail ("list::match_any failure. Got=" ++ (Value.array onlySshd).render 2048)
  let w (p : Value) := if p.isObject then failed else .checkPassed
  have hw : ∀ p ∈ daemonPatterns,
      ((builtins Pattern.engine .default).run "check" (.object (anyRule p))
      (.array onlySshd)).result = .ok (w p) := by
    intro p hp
    simp only [daemonPatterns, List.mem_cons, List.not_mem_nil, or_false] at hp
    rcases hp with rfl | rfl
    · rfl
    · rfl
  exact ⟨hasks, hpatterns, _, w, rfl, hw, rfl,
    run_allRule_iff_anyRules hasks hpatterns (fun p _ ↦ anyRule_asks p) (fun _ _ ↦ rfl) rfl hw⟩

theorem someSatisfies_mapping {r : Registry} {ignoreCase : Bool} {items : List Value}
    (hitems : ∀ item ∈ items, item.isObject = true) (arg : Fields) :
    SomeSatisfies r checkId ignoreCase items [.object arg] ↔ ∃ item ∈ items,
      r.accepts checkId (mappingRule "match" (.object arg) ignoreCase) item = true := by
  simp only [SomeSatisfies, List.mem_singleton, exists_eq_left]
  refine exists_congr fun item ↦ and_congr_right fun hitem ↦ ?_
  have hobject := hitems item hitem
  cases item with
  | object => simp [Satisfies, shape_object, Value.isObject, Value.toObject?]
  | null | bool | number | string | array => cases hobject

theorem accepts_named {arg : Fields} {key : String} {name : Value}
    (hname : arg.get? key = some name) (hplain : name.isObject = false) (item : Value) :
    (builtins engine limits).accepts checkId (filterRule [(key, name)]) item =
      hits key item arg := by
  cases item with
  | null | bool | number | string | array => exact accepts_filterRule_scalar rfl _
  | object entries =>
    rw [Bool.eq_iff_iff, accepts_filterRule_iff, List.forall_mem_singleton, hits_object, hname]
    cases hv : Fields.get? entries key with
    | none => simp
    | some v =>
      have huntyped := Value.isTypedRule_of_isObject hplain
      simp only [Option.some.injEq, exists_eq_left', Option.any_some]
      rw [MappingRule.valueMismatch?_whole huntyped (.inl hplain), Value.equalFolded_false]
      cases v.equal name with
      | true => exact iff_of_true rfl rfl
      | false => exact iff_of_false nofun nofun

theorem isObject_of_hits {key : String} {item : Value} {arg : Fields}
    (h : hits key item arg = true) : item.isObject = true := by
  obtain ⟨entries, -, -, rfl, -⟩ := hits_iff.1 h
  rfl

theorem run_keyed_passed_iff {fields : Fields} {key : String} {arg : Fields} {ignoreCase : Bool}
    (h : (builtins engine limits).Keyed fields key [arg] ignoreCase)
    {items : List Value} {v : Verdict}
    (hv : ((builtins engine limits).run checkId (.object fields) (.array items)).result = .ok v) :
    v.outcome = .passed ↔ SomeSatisfies (builtins engine limits) checkId ignoreCase
      (items.filter (hits key · arg)) [.object arg] := by
  have hobject : ∀ item ∈ items.filter (hits key · arg), item.isObject = true := by
    intro item hitem
    exact isObject_of_hits (List.mem_filter.1 hitem).2
  have hdecided := delegated_mappingRule_decided engine limits checkId limits.nesting ignoreCase
  rw [run_result, evaluate_keyed h] at hv
  have hscan := scan_of_compareKeyed hv
  rw [someSatisfies_mapping hobject, scanPairs_passed_iff
    (delegated_accepts (Nat.le_refl limits.nesting)) hdecided hscan, keyedPairs_single]
  simp

/-- A keyed rule with one argument does not apply where no element has its key value, and otherwise
comes out as asking for the argument among the elements that have it. -/
theorem run_keyed_single {fields any : Fields} {key : String} {arg : Fields} {name : Value}
    {ignoreCase : Bool} (h : (builtins engine limits).Keyed fields key [arg] ignoreCase)
    (hname : arg.get? key = some name) (hplain : name.isObject = false)
    (hany : any.Asks .sequence "match_any" (.array [.object arg]))
    (hcase : (Rule.mk any).ignoreCase = ignoreCase) {items kept : List Value}
    (hkept : kept =
      items.filter ((builtins engine limits).accepts checkId (filterRule [(key, name)])))
    {v w : Verdict}
    (hv : ((builtins engine limits).run checkId (.object fields) (.array items)).result = .ok v)
    (hw : ((builtins engine limits).run checkId (.object any) (.array kept)).result = .ok w) :
    (kept = [] → v.outcome = .notApplicable) ∧ (kept ≠ [] → v.outcome = w.outcome) := by
  rw [funext (accepts_named hname hplain)] at hkept
  have hnone : v.outcome = .notApplicable ↔ kept = [] := by
    have hrun : v.outcome = .notApplicable ↔
        ∃ v', ((builtins engine limits).run checkId (.object fields) (.array items)).result =
          .ok v' ∧ v'.outcome = .notApplicable := by simp [hv]
    rw [hrun, run_keyed_notApplicable_iff h, hkept]
    simp [hits_iff]
  have hpassed := run_keyed_passed_iff h hv
  obtain ⟨hwpassed, hwfailed⟩ := run_anyRule_outcome hany hw
  rw [hcase, hkept, ← hpassed] at hwpassed hwfailed
  refine ⟨hnone.2, ?_⟩
  intro hne
  cases ho : v.outcome with
  | passed => exact (hwpassed.2 ho).symm
  | failed => exact (hwfailed.2 (by simp [ho])).symm
  | notApplicable => exact absurd (hnone.1 ho) hne

def rsyncs : List Value :=
  [.object [("name", .string "sshd"), ("running", .bool true)],
    .object [("name", .string "rsync"), ("running", .bool true)],
    .object [("running", .bool false), ("name", .string "rsync")]]

def stoppedRsync : Fields := [("name", .string "rsync"), ("running", .bool false)]

theorem run_rsyncs :
    (builtins Pattern.engine .default).Keyed stoppedService "name" [stoppedRsync] false ∧
    rsyncs.drop 1 = rsyncs.filter ((builtins Pattern.engine .default).accepts "check"
      (filterRule [("name", .string "rsync")])) ∧
    ∃ v w, ((builtins Pattern.engine .default).run "check" (.object stoppedService)
      (.array rsyncs)).result = .ok v ∧
    ((builtins Pattern.engine .default).run "check" (.object (anyRule (.object stoppedRsync)))
      (.array (rsyncs.drop 1))).result = .ok w ∧
    (rsyncs.drop 1 = [] → v.outcome = .notApplicable) ∧
    (rsyncs.drop 1 ≠ [] → v.outcome = w.outcome) := by
  have hkeyed :
      (builtins Pattern.engine .default).Keyed stoppedService "name" [stoppedRsync] false :=
    ⟨⟨"list", rfl, rfl⟩, rfl, rfl⟩
  have hkept : rsyncs.drop 1 = rsyncs.filter ((builtins Pattern.engine .default).accepts "check"
      (filterRule [("name", .string "rsync")])) := rfl
  have hv : ((builtins Pattern.engine .default).run "check" (.object stoppedService)
      (.array rsyncs)).result = .ok .checkPassed := rfl
  have hw :
      ((builtins Pattern.engine .default).run "check" (.object (anyRule (.object stoppedRsync)))
        (.array (rsyncs.drop 1))).result = .ok .checkPassed := rfl
  have hasks := anyRule_asks (.object stoppedRsync)
  exact ⟨hkeyed, hkept, _, _, hv, hw, run_keyed_single hkeyed rfl rfl hasks rfl hkept hv hw⟩

end Registry

end AuditRules
