import AuditRules.Proofs.Comparator.Sequence

namespace AuditRules

open Evaluation (ErrsOnly)

variable {allowed : RuleError → Prop} {data : Value → Prop} {ctx : Context} {ignoreCase : Bool}

def OrBadExpression (allowed : RuleError → Prop) (e : RuleError) : Prop :=
  allowed e ∨ e.IsBadExpression

/-- A kind of data that has with a value all that a comparator may go on to with it: its parts, some
of its elements as a list, and any integer. -/
structure IsHereditary (data : Value → Prop) : Prop where
  integer : ∀ n : Int, data (.ofInt n)
  element : ∀ {items : List Value} {v : Value}, data (.array items) → v ∈ items → data v
  kept : ∀ {items kept : List Value}, data (.array items) → (∀ v ∈ kept, v ∈ items) →
    data (.array kept)
  entry : ∀ {fields : Fields} {key : String} {v : Value}, data (.object fields) →
    (key, v) ∈ fields → data v

theorem isHereditary_all : IsHereditary fun _ ↦ True :=
  ⟨fun _ ↦ trivial, fun _ _ ↦ trivial, fun _ _ ↦ trivial, fun _ _ ↦ trivial⟩

theorem ensures_event (ctx : Context) (message : String) (context : List (String × String)) :
    ErrsOnly allowed (ctx.event message context) := trivial

namespace MappingRule

/-- A rule inside a pattern for mappings, below any number of mappings that are none themselves. -/
inductive RuleIn : Fields → Value → Prop
  | here {pattern : Fields} {key : String} {rule : Value} (h : (key, rule) ∈ pattern)
      (hrule : rule.isTypedRule = true) : RuleIn pattern rule
  | deeper {pattern inner : Fields} {key : String} {rule : Value}
      (h : (key, .object inner) ∈ pattern) (hinner : (Value.object inner).isTypedRule = false)
      (hrule : RuleIn inner rule) : RuleIn pattern rule

inductive Delegates : Mode → Value → Value → Prop
  | entries {pattern : Fields} {rule : Value} (h : RuleIn pattern rule) :
      Delegates .entries (.object pattern) rule
  | candidate {candidates : List Value} {pattern : Fields} {rule : Value}
      (hmem : .object pattern ∈ candidates) (h : RuleIn pattern rule) :
      Delegates .any (.array candidates) rule

theorem expectedMapping_ok {mode : Mode} {v : Value} {fields : Fields}
    (h : expectedMapping mode v = .ok fields) : v = .object fields := by
  cases v with
  | object => rw [Except.ok.inj h]
  | null | bool | number | string | array => cases h

theorem expectedMappings_ok {v : Value} {candidates : List Value}
    (h : expectedMappings v = .ok candidates) : v = .array candidates := by
  cases v with
  | array => rw [Except.ok.inj h]
  | null | bool | number | string | object => cases h

theorem RuleIn.cons {pattern : Fields} {rule : Value} (h : RuleIn pattern rule)
    (entry : String × Value) : RuleIn (entry :: pattern) rule := by
  cases h with
  | here h hrule => exact .here (List.mem_cons_of_mem entry h) hrule
  | deeper h hinner hrule => exact .deeper (List.mem_cons_of_mem entry h) hinner hrule

mutual

theorem mismatch?_errsOnly (hdata : IsHereditary data) :
    ∀ (expected : List (String × Value)) (actual : Fields), data (.object actual) →
    (∀ rule v, RuleIn expected rule → data v → ErrsOnly allowed (ctx.delegate rule v)) →
    ErrsOnly allowed (mismatch? ctx ignoreCase expected actual)
  | [], _, _, _ => by rw [mismatch?]; exact trivial
  | (key, expected) :: rest, actual, hactual, h => by
    rw [mismatch?]
    cases hfound : Fields.get? actual key with
    | none => exact trivial
    | some found =>
      have hentry := valueMismatch?_errsOnly hdata key expected found
        (hdata.entry hactual (Fields.mem_of_get? hfound))
        (fun ht v ↦ h expected v (.here List.mem_cons_self ht))
        (by rintro inner rfl hn rule v hr; exact h rule v (.deeper List.mem_cons_self hn hr))
      refine .bind hentry fun reason _ ↦ ?_
      cases reason with
      | some reason => exact trivial
      | none =>
        exact mismatch?_errsOnly hdata rest actual hactual fun rule v hr ↦ h rule v (hr.cons _)

theorem valueMismatch?_errsOnly (hdata : IsHereditary data) (key : String) :
    ∀ (expected actual : Value), data actual →
    (expected.isTypedRule = true → ∀ v, data v → ErrsOnly allowed (ctx.delegate expected v)) →
    (∀ inner, expected = .object inner → (Value.object inner).isTypedRule = false →
      ∀ rule v, RuleIn inner rule → data v → ErrsOnly allowed (ctx.delegate rule v)) →
    ErrsOnly allowed (valueMismatch? ctx ignoreCase key expected actual)
  | expected, actual, hactual, ht, hn => by
    rw [valueMismatch?.eq_def]
    dsimp only
    split
    · rename_i htyped
      exact .bind (ht htyped actual hactual) fun _ _ ↦ trivial
    · rename_i huntyped
      split
      · rename_i expectedFields actualFields
        have hp := hn expectedFields rfl (by simpa using huntyped)
        exact .bind (mismatch?_errsOnly hdata expectedFields actualFields hactual hp)
          fun _ _ ↦ trivial
      · exact trivial

end

end MappingRule

namespace SequenceRule

/-- The rules that a list rule delegates and has to have answered. -/
inductive Delegates (ignoreCase : Bool) : ListRule → Value → Prop
  | length (expression : Value) :
      Delegates ignoreCase (.size expression) (numberRule "match" expression)
  | mappings (patterns : List Value) : Delegates ignoreCase (.any patterns)
      (mappingRule "match_any" (.array (patterns.filter Value.isObject)) ignoreCase)
  | nestedAny {patterns : List Value} {pattern rule : Value} (h : pattern ∈ patterns)
      (hrule : pattern.nestedRule? = some rule) : Delegates ignoreCase (.any patterns) rule
  | mapping {patterns : List Value} {fields : Fields} (h : .object fields ∈ patterns) :
      Delegates ignoreCase (.all patterns) (mappingRule "match" (.object fields) ignoreCase)
  | nestedAll {patterns : List Value} {pattern rule : Value} (h : pattern ∈ patterns)
      (hrule : pattern.nestedRule? = some rule) : Delegates ignoreCase (.all patterns) rule
  | argument {key : String} {args : List Fields} {arg : Fields} (h : arg ∈ args) :
      Delegates ignoreCase (.keyed key args) (mappingRule "match" (.object arg) ignoreCase)
  | filter (filter rule : Fields) : Delegates ignoreCase (.filtered filter rule) (filterRule filter)
  | inner (filter rule : Fields) : Delegates ignoreCase (.filtered filter rule) (innerRule rule)

/-- The number rules that a list rule only tries: a bad expression in one is taken back. -/
inductive Tries : ListRule → Value → Prop
  | first (expression : Value) (rest : List Value) :
      Tries (.exactly (expression :: rest)) (numberRule "match" expression)
  | expressions (patterns : List Value) : Tries (.any patterns)
      (numberRule "match_any"
        (.array (patterns.filter fun p ↦ (NumberExpression.parse p).isOk)))

theorem passes_errsOnly {rule v : Value} (h : ErrsOnly allowed (ctx.delegate rule v)) :
    ErrsOnly allowed (passes ctx rule v) :=
  .bind h fun _ _ ↦ trivial

theorem passesNumber_errsOnly {rule : Value} (n : Int)
    (h : ErrsOnly (OrBadExpression allowed) (ctx.delegate rule (.ofInt n))) :
    ErrsOnly allowed (passesNumber ctx rule n) := by
  refine .tryCatch (passes_errsOnly h) fun e he ↦ ?_
  rcases he with he | ⟨expression, reason, rfl⟩
  · split
    · exact trivial
    · exact he
  · exact trivial

theorem scalarSatisfies_errsOnly {pattern : Value} (item : Value)
    (h : ∀ rule, pattern.nestedRule? = some rule → ErrsOnly allowed (ctx.delegate rule item)) :
    ErrsOnly allowed (scalarSatisfies ctx ignoreCase item pattern) := by
  rw [scalarSatisfies]
  split
  · rename_i rule hrule
    exact passes_errsOnly (h rule hrule)
  · exact trivial

/-- The rules that a list rule delegates or tries err only as allowed, and so does the comparison of
sorted lists, on data of a kind. -/
structure Answered (allowed : RuleError → Prop) (data : Value → Prop) (ctx : Context)
    (ignoreCase : Bool) (rule : ListRule) : Prop where
  delegates : ∀ target v, Delegates ignoreCase rule target → data v →
    ErrsOnly allowed (ctx.delegate target v)
  tries : ∀ target v, Tries rule target → data v →
    ErrsOnly (OrBadExpression allowed) (ctx.delegate target v)
  sorts : ∀ expected items key, rule = .exactly expected → data (.array items) →
    FailsOnly allowed (equalSorted key items expected)

variable (hdata : IsHereditary data)

include hdata

theorem compareExactly_errsOnly {expected items : List Value}
    (h : Answered allowed data ctx ignoreCase (.exactly expected)) (actual : Value)
    (hitems : data (.array items)) :
    ErrsOnly allowed (compareExactly ctx expected actual items) := by
  cases items with
  | nil => exact .bind (ensures_event ctx _ _) fun _ _ ↦ trivial
  | cons first rest =>
    have hfirst : ErrsOnly allowed (firstSettles ctx expected first) := by
      unfold firstSettles
      split
      · exact passesNumber_errsOnly _ (h.tries _ _ (.first _ _) (hdata.integer _))
      · exact trivial
    rw [compareExactly_cons]
    refine .bind hfirst fun settled _ ↦ ?_
    cases settled with
    | true => exact trivial
    | false => exact .bind (.liftM (h.sorts expected _ _ rfl hitems)) fun _ _ ↦ trivial

theorem itemSatisfiesAny_errsOnly {patterns : List Value}
    (h : Answered allowed data ctx ignoreCase (.any patterns)) {item : Value} (hitem : data item) :
    ErrsOnly allowed (itemSatisfiesAny ctx ignoreCase patterns item) := by
  have hscalars : ErrsOnly allowed (patterns.anyM (scalarSatisfies ctx ignoreCase item)) :=
    .anyM fun pattern hmem ↦ scalarSatisfies_errsOnly item fun rule hrule ↦
      h.delegates rule item (.nestedAny hmem hrule) hitem
  rw [itemSatisfiesAny_eq]
  cases item.shape with
  | other => exact hscalars
  | mapping =>
    dsimp only [mappingsPass]
    split
    · exact trivial
    · exact passes_errsOnly (h.delegates _ _ (.mappings patterns) hitem)
  | whole n =>
    have hnumbers : ErrsOnly allowed (expressionsPass ctx patterns n) := by
      dsimp only [expressionsPass]
      split
      · exact trivial
      · exact passesNumber_errsOnly n (h.tries _ _ (.expressions patterns) (hdata.integer n))
    refine .bind hnumbers fun passed _ ↦ ?_
    cases passed with
    | true => exact trivial
    | false => exact hscalars

omit hdata

theorem elementSatisfies_errsOnly {patterns : List Value}
    (h : Answered allowed data ctx ignoreCase (.all patterns)) {pattern : Value}
    (hmem : pattern ∈ patterns) {item : Value} (hitem : data item) :
    ErrsOnly allowed (elementSatisfies ctx ignoreCase item pattern) := by
  have hscalar : ErrsOnly allowed (scalarSatisfies ctx ignoreCase item pattern) :=
    scalarSatisfies_errsOnly item fun rule hrule ↦
      h.delegates rule item (.nestedAll hmem hrule) hitem
  rw [elementSatisfies]
  cases item.shape with
  | whole | other => exact hscalar
  | mapping =>
    cases pattern with
    | object fields => exact passes_errsOnly (h.delegates _ _ (.mapping hmem) hitem)
    | null | bool | number | string | array => exact trivial

theorem compareAll_errsOnly (actual : Value) (items : List Value) : ∀ patterns : List Value,
    (∀ pattern ∈ patterns, ∀ item ∈ items,
      ErrsOnly allowed (elementSatisfies ctx ignoreCase item pattern)) →
    ErrsOnly allowed (compareAll ctx ignoreCase actual items patterns)
  | [], _ => trivial
  | pattern :: rest, h => by
    refine .bind (.anyM fun item hitem ↦ h pattern List.mem_cons_self item hitem) fun found _ ↦ ?_
    cases found with
    | true =>
      exact compareAll_errsOnly actual items rest
        fun other hmem ↦ h other (List.mem_cons_of_mem pattern hmem)
    | false => exact trivial

theorem scanPairs_errsOnly : ∀ (mismatched : Bool) (pairs : List (Value × Fields)),
    (∀ item arg, (item, arg) ∈ pairs →
      ErrsOnly allowed (ctx.delegate (mappingRule "match" (.object arg) ignoreCase) item)) →
    ErrsOnly allowed (scanPairs ctx ignoreCase mismatched pairs)
  | _, [], _ => trivial
  | mismatched, (item, arg) :: rest, h => by
    have hrest (mismatched : Bool) := scanPairs_errsOnly mismatched rest
      fun item arg hmem ↦ h item arg (List.mem_cons_of_mem _ hmem)
    refine .bind (h item arg List.mem_cons_self) fun verdict _ ↦ ?_
    cases verdict.outcome with
    | passed => exact trivial
    | failed => exact hrest true
    | notApplicable => exact hrest mismatched

theorem keep_ensures {rule : Value} : ∀ items : List Value,
    (∀ item ∈ items, ErrsOnly allowed (ctx.delegate rule item)) →
    Evaluation.Ensures allowed (·.Sublist items) (keep ctx rule items)
  | [], _ => .slnil
  | item :: rest, h => by
    refine .bind (passes_errsOnly (h item List.mem_cons_self)) fun passed _ ↦ ?_
    refine .bind (keep_ensures rest fun v hv ↦ h v (List.mem_cons_of_mem item hv))
      fun kept hkept ↦ ?_
    cases passed with
    | true => exact hkept.cons_cons item
    | false => exact hkept.cons item

include hdata

theorem compareItems_errsOnly {rule : ListRule} (h : Answered allowed data ctx ignoreCase rule)
    (actual : Value) {items : List Value} (hitems : data (.array items)) :
    ErrsOnly allowed (compareItems ctx rule ignoreCase actual items) := by
  have hitem {item : Value} (hmem : item ∈ items) : data item := hdata.element hitems hmem
  cases rule with
  | size expression =>
    exact .bind (h.delegates _ _ (.length expression) (hdata.integer _)) fun _ _ ↦ trivial
  | exactly expected => exact compareExactly_errsOnly hdata h actual hitems
  | any patterns =>
    exact .bind (.anyM fun item hmem ↦ itemSatisfiesAny_errsOnly hdata h (hitem hmem))
      fun _ _ ↦ trivial
  | all patterns =>
    exact compareAll_errsOnly actual items patterns
      fun pattern hpattern item hmem ↦ elementSatisfies_errsOnly h hpattern (hitem hmem)
  | keyed key args =>
    have hscan := scanPairs_errsOnly false (keyedPairs key args items) fun item arg hpair ↦
      have ⟨hmem, harg, _⟩ := mem_keyedPairs.1 hpair
      h.delegates _ item (.argument harg) (hitem hmem)
    refine .bind hscan fun outcome _ ↦ ?_
    cases outcome <;> exact trivial
  | filtered filter rule =>
    have hkeep := keep_ensures items fun item hmem ↦
      h.delegates _ item (.filter filter rule) (hitem hmem)
    refine .bind hkeep fun kept hkept ↦ .bind (ensures_event ctx _ _) fun _ _ ↦ ?_
    exact h.delegates _ _ (.inner filter rule) (hdata.kept hitems fun v hv ↦ hkept.subset hv)

/-- A list rule errs as its reading does, or as a rule that it delegates. -/
theorem compare_errsOnly {rule : Rule} (hread : FailsOnly allowed (ListRule.parse rule))
    (h : ∀ parsed, ListRule.parse rule = .ok parsed →
      Answered allowed data ctx rule.ignoreCase parsed) {actual : Value} (hactual : data actual) :
    ErrsOnly allowed (compare ctx rule actual) := by
  refine .bind (.liftM_eq hread) fun parsed hparsed ↦ ?_
  refine .bind (ensures_event ctx _ _) fun _ _ ↦ ?_
  cases actual with
  | array items => exact compareItems_errsOnly hdata (h parsed hparsed) _ hactual
  | null | bool | number | string | object => exact .bind (ensures_event ctx _ _) fun _ _ ↦ trivial

end SequenceRule

end AuditRules
