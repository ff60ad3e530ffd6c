import AuditRules.Proofs.Comparator.Delegates

namespace AuditRules

open Evaluation (YieldsOnly)

theorem Verdict.passed_ofBool (passed : Bool) (failure : String) :
    (ofBool passed failure).passed = passed := by
  cases passed <;> rfl

namespace Evaluation

variable {γ : Type}

/-- A test that answers only with whether a statement holds. -/
def Determines (P : Prop) (x : Evaluation Bool) : Prop := YieldsOnly (fun b ↦ b = true ↔ P) x

namespace Determines

theorem pure {P : Prop} {b : Bool} (h : b = true ↔ P) : Determines P (Pure.pure b) := h

theorem congr {P Q : Prop} {x : Evaluation Bool} (h : Determines P x) (hPQ : P ↔ Q) :
    Determines Q x := by
  rwa [← propext hPQ]

theorem or {P Q : Prop} {x y : Evaluation Bool} (hx : Determines P x) (hy : Determines Q y) :
    Determines (P ∨ Q) (do
      if ← x then return true
      y) := by
  refine Ensures.bind hx fun b hb ↦ ?_
  cases b with
  | true => exact iff_of_true rfl (.inl (hb.1 rfl))
  | false =>
    have hP : ¬ P := fun h ↦ nomatch hb.2 h
    exact hy.congr (by simp only [hP, false_or])

theorem anyM {p : γ → Evaluation Bool} {P : γ → Prop} {xs : List γ}
    (h : ∀ x ∈ xs, Determines (P x) (p x)) : Determines (∃ x ∈ xs, P x) (xs.anyM p) := by
  induction xs with
  | nil => exact pure (by simp)
  | cons x xs ih =>
    have hrest : Determines (∃ y ∈ xs, P y) (xs.anyM p) :=
      ih fun y hy ↦ h y (List.mem_cons_of_mem x hy)
    refine Ensures.bind (h x List.mem_cons_self) fun b hb ↦ ?_
    simp only [List.mem_cons, exists_eq_or_imp]
    cases b with
    | true => exact iff_of_true rfl (.inl (hb.1 rfl))
    | false =>
      have hx : ¬ P x := fun hP ↦ nomatch hb.2 hP
      exact hrest.congr (by simp only [hx, false_or])

end Determines

end Evaluation

open Evaluation (Determines)

namespace MappingRule

theorem candidate_result {ctx : Context} {ignoreCase : Bool} {candidate : Value} {fields : Fields}
    {found : Bool}
    (h : (do return (← mismatch? ctx ignoreCase (← expectedMapping .any candidate) fields).isNone :
      Evaluation Bool).result = .ok found) (actual : Value) :
    ∃ v, (compareFields ctx .entries ignoreCase candidate actual fields).result = .ok v ∧
      v.passed = found := by
  obtain ⟨pattern, hpattern, h⟩ := Evaluation.exists_of_result_bind_ok h
  obtain ⟨reason, hreason, hfound⟩ := Evaluation.exists_of_result_bind_ok h
  obtain rfl := expectedMapping_ok hpattern
  obtain rfl : reason.isNone = found := Except.ok.inj hfound
  cases reason with
  | none => exact ⟨.checkPassed, Evaluation.result_bind_ok hreason _, rfl⟩
  | some r => exact ⟨.fail _, Evaluation.result_bind_ok hreason _, rfl⟩

theorem compare_object {mode : Mode} {fields : Fields} {expected : Value}
    (h : fields.Asks .mapping mode.key expected) (ctx : Context) (entries : Fields) :
    (compare ctx ⟨fields⟩ (.object entries)).result =
      (compareFields ctx mode (Rule.mk fields).ignoreCase expected (.object entries)
        entries).result := by
  rw [compare, select_asks mode h, Evaluation.liftM_ok_bind]
  exact Evaluation.result_bind_ok rfl _

end MappingRule

namespace SequenceRule

def ScalarSatisfies (accepts : Value → Value → Bool) (ignoreCase : Bool) (item pattern : Value) :
    Prop :=
  match pattern.nestedRule? with
  | some rule => accepts rule item = true
  | none => pattern.isObject = false ∧ item.equalFolded ignoreCase pattern = true

def HoldsOf (n : Int) (pattern : Value) : Prop :=
  ∃ e, NumberExpression.parse pattern = .ok e ∧ e.holds (.ofInt n) = true

/-- An element satisfies a pattern of a list rule, given which values pass which rules. -/
def Satisfies (accepts : Value → Value → Bool) (ignoreCase : Bool) (item pattern : Value) : Prop :=
  match item.shape with
  | .mapping _ =>
    pattern.isObject = true ∧ accepts (mappingRule "match" pattern ignoreCase) item = true
  | .whole n => HoldsOf n pattern ∨ ScalarSatisfies accepts ignoreCase item pattern
  | .other _ => ScalarSatisfies accepts ignoreCase item pattern

/-- In a context, verdicts on what a list rule delegates tell what is accepted; rules with several
candidates tell whether one of them is. -/
structure Accepts (accepts : Value → Value → Bool) (ignoreCase : Bool) (ctx : Context) : Prop where
  rule : ∀ rule v, YieldsOnly (fun verdict ↦ verdict.passed = accepts rule v) (ctx.delegate rule v)
  numbers : ∀ (expressions : List Value) (n : Int),
    (∀ e ∈ expressions, (NumberExpression.parse e).isOk = true) →
    Determines (∃ e ∈ expressions, HoldsOf n e)
      (passesNumber ctx (numberRule "match_any" (.array expressions)) n)
  mappings : ∀ (candidates : List Value) (entries : Fields),
    Determines (∃ c ∈ candidates,
        accepts (mappingRule "match" c ignoreCase) (.object entries) = true)
      (passes ctx (mappingRule "match_any" (.array candidates) ignoreCase) (.object entries))

variable {accepts : Value → Value → Bool} {ctx : Context} {ignoreCase : Bool}

theorem passes_determines (h : Accepts accepts ignoreCase ctx) (rule v : Value) :
    Determines (accepts rule v = true) (passes ctx rule v) := by
  refine Evaluation.Ensures.bind (h.rule rule v) fun verdict hverdict ↦ ?_
  exact Determines.pure (by rw [hverdict])

theorem scalarSatisfies_determines (h : Accepts accepts ignoreCase ctx) (item pattern : Value) :
    Determines (ScalarSatisfies accepts ignoreCase item pattern)
      (scalarSatisfies ctx ignoreCase item pattern) := by
  unfold scalarSatisfies ScalarSatisfies
  cases pattern.nestedRule? with
  | some rule => exact passes_determines h rule item
  | none => exact Determines.pure (by simp)

theorem expressionsPass_determines (h : Accepts accepts ignoreCase ctx) (patterns : List Value)
    (n : Int) : Determines (∃ p ∈ patterns, HoldsOf n p) (expressionsPass ctx patterns n) := by
  let expressions := patterns.filter fun p ↦ (NumberExpression.parse p).isOk
  have hread : ∀ e ∈ expressions, (NumberExpression.parse e).isOk = true :=
    fun e he ↦ (List.mem_filter.1 he).2
  have hsame : (∃ e ∈ expressions, HoldsOf n e) ↔ ∃ p ∈ patterns, HoldsOf n p := by
    constructor
    · rintro ⟨e, he, hholds⟩
      exact ⟨e, (List.mem_filter.1 he).1, hholds⟩
    · rintro ⟨p, hp, e, hparse, hholds⟩
      exact ⟨p, List.mem_filter.2 ⟨hp, isOk_iff.2 ⟨e, hparse⟩⟩, e, hparse, hholds⟩
  refine Determines.congr ?_ hsame
  dsimp only [expressionsPass]
  split
  · rename_i hempty
    have hnil : expressions = [] := List.isEmpty_iff.1 hempty
    exact Determines.pure (by simp [hnil])
  · exact h.numbers expressions n hread

theorem mappingsPass_determines (h : Accepts accepts ignoreCase ctx) (patterns : List Value)
    (entries : Fields) :
    Determines (∃ p ∈ patterns, p.isObject = true ∧
      accepts (mappingRule "match" p ignoreCase) (.object entries) = true)
      (mappingsPass ctx ignoreCase patterns (.object entries)) := by
  let mappings := patterns.filter Value.isObject
  have hsame : (∃ c ∈ mappings,
        accepts (mappingRule "match" c ignoreCase) (.object entries) = true) ↔
      ∃ p ∈ patterns, p.isObject = true ∧
        accepts (mappingRule "match" p ignoreCase) (.object entries) = true := by
    simp only [mappings, List.mem_filter, and_assoc]
  refine Determines.congr ?_ hsame
  dsimp only [mappingsPass]
  split
  · rename_i hempty
    have hnil : mappings = [] := List.isEmpty_iff.1 hempty
    exact Determines.pure (by simp [hnil])
  · exact h.mappings mappings entries

/-- Mapping patterns and number expressions are put to an element together, and still the answer is
whether it satisfies one of the patterns. -/
theorem itemSatisfiesAny_determines (h : Accepts accepts ignoreCase ctx) (patterns : List Value)
    (item : Value) :
    Determines (∃ p ∈ patterns, Satisfies accepts ignoreCase item p)
      (itemSatisfiesAny ctx ignoreCase patterns item) := by
  have hscalars : Determines (∃ p ∈ patterns, ScalarSatisfies accepts ignoreCase item p)
      (patterns.anyM (scalarSatisfies ctx ignoreCase item)) :=
    .anyM fun p _ ↦ scalarSatisfies_determines h item p
  rw [itemSatisfiesAny_eq]
  unfold Satisfies
  cases hshape : item.shape with
  | mapping entries =>
    obtain rfl := eq_object_of_shape hshape
    exact mappingsPass_determines h patterns entries
  | other => exact hscalars
  | whole n =>
    refine ((expressionsPass_determines h patterns n).or hscalars).congr ?_
    simp only [and_or_left, exists_or]

theorem compareAny_outcome (h : Accepts accepts ignoreCase ctx) {patterns items : List Value}
    {actual : Value} {v : Verdict}
    (hv : (compareAny ctx ignoreCase patterns actual items).result = .ok v) :
    (v.outcome = .passed ↔
      ∃ item ∈ items, ∃ p ∈ patterns, Satisfies accepts ignoreCase item p) ∧
    (v.outcome = .failed ↔
      ¬ ∃ item ∈ items, ∃ p ∈ patterns, Satisfies accepts ignoreCase item p) := by
  have hsearch : Determines (∃ item ∈ items, ∃ p ∈ patterns, Satisfies accepts ignoreCase item p)
      (items.anyM (itemSatisfiesAny ctx ignoreCase patterns)) :=
    .anyM fun item _ ↦ itemSatisfiesAny_determines h patterns item
  obtain ⟨found, hfound, hv⟩ := Evaluation.exists_of_result_bind_ok hv
  have hiff := hsearch.accepts hfound
  obtain rfl := Except.ok.inj hv
  cases found with
  | true =>
    have hsome := hiff.1 rfl
    exact ⟨iff_of_true rfl hsome, iff_of_false nofun fun hnone ↦ hnone hsome⟩
  | false =>
    have hnone := mt hiff.2 nofun
    exact ⟨iff_of_false nofun hnone, iff_of_true rfl hnone⟩

def ElementSatisfies (accepts : Value → Value → Bool) (ignoreCase : Bool)
    (item pattern : Value) : Prop :=
  match item.shape with
  | .mapping _ =>
    pattern.isObject = true ∧ accepts (mappingRule "match" pattern ignoreCase) item = true
  | .whole _ | .other _ => ScalarSatisfies accepts ignoreCase item pattern

theorem elementSatisfies_determines (h : Accepts accepts ignoreCase ctx) (item pattern : Value) :
    Determines (ElementSatisfies accepts ignoreCase item pattern)
      (elementSatisfies ctx ignoreCase item pattern) := by
  have hscalar := scalarSatisfies_determines h item pattern
  unfold elementSatisfies ElementSatisfies
  cases item.shape with
  | whole | other => exact hscalar
  | mapping =>
    cases pattern.isObject with
    | true => exact (passes_determines h _ item).congr (by simp)
    | false => exact Determines.pure (by simp)

def Meets (accepts : Value → Value → Bool) (ignoreCase : Bool) (items : List Value)
    (pattern : Value) : Prop :=
  ∃ item ∈ items, ElementSatisfies accepts ignoreCase item pattern

def FirstUnmet (met : Value → Prop) (patterns : List Value) (pattern : Value) : Prop :=
  ∃ before after, patterns = before ++ pattern :: after ∧ (∀ p ∈ before, met p) ∧ ¬ met pattern

theorem FirstUnmet.not_forall {met : Value → Prop} {patterns : List Value} {pattern : Value}
    (h : FirstUnmet met patterns pattern) : ¬ ∀ p ∈ patterns, met p := by
  obtain ⟨before, after, rfl, -, hunmet⟩ := h
  intro hall
  apply hunmet
  exact hall pattern (List.mem_append_right before List.mem_cons_self)

theorem FirstUnmet.cons {met : Value → Prop} {patterns : List Value} {first pattern : Value}
    (hfirst : met first) (h : FirstUnmet met patterns pattern) :
    FirstUnmet met (first :: patterns) pattern := by
  obtain ⟨before, after, rfl, hbefore, hunmet⟩ := h
  refine ⟨first :: before, after, rfl, ?_, hunmet⟩
  intro p hp
  rcases List.mem_cons.1 hp with rfl | hp
  · exact hfirst
  · exact hbefore p hp

def unmetMessage (limit : Nat) (actual pattern : Value) : String :=
  "list::match_all failure. No element satisfies " ++ pattern.render limit ++ ". Got=" ++
    actual.render limit

/-- Patterns are tried in order until one is not met. -/
theorem compareAll_result (h : Accepts accepts ignoreCase ctx) {actual : Value}
    {items patterns : List Value} {v : Verdict}
    (hv : (compareAll ctx ignoreCase actual items patterns).result = .ok v) :
    (v = .checkPassed ∧ ∀ p ∈ patterns, Meets accepts ignoreCase items p) ∨
    ∃ p, FirstUnmet (Meets accepts ignoreCase items) patterns p ∧
      v = .fail (unmetMessage ctx.renderLimit actual p) := by
  induction patterns with
  | nil => exact .inl ⟨(Except.ok.inj hv).symm, by simp⟩
  | cons pattern rest ih =>
    have hsearch : Determines (Meets accepts ignoreCase items pattern)
        (items.anyM (elementSatisfies ctx ignoreCase · pattern)) :=
      .anyM fun item _ ↦ elementSatisfies_determines h item pattern
    obtain ⟨found, hfound, hv⟩ := Evaluation.exists_of_result_bind_ok hv
    have hiff := hsearch.accepts hfound
    cases found with
    | false =>
      have hunmet : ¬ Meets accepts ignoreCase items pattern := mt hiff.2 (by simp)
      have hfirst : FirstUnmet (Meets accepts ignoreCase items) (pattern :: rest) pattern :=
        ⟨[], rest, rfl, by simp, hunmet⟩
      exact .inr ⟨pattern, hfirst, (Except.ok.inj hv).symm⟩
    | true =>
      have hmet := hiff.1 rfl
      rcases ih hv with ⟨hpassed, hrest⟩ | ⟨p, hfirst, hfailed⟩
      · exact .inl ⟨hpassed, List.forall_mem_cons.2 ⟨hmet, hrest⟩⟩
      · exact .inr ⟨p, hfirst.cons hmet, hfailed⟩

theorem outcome_of_met {met : Value → Prop} {patterns : List Value} {message : Value → String}
    {v : Verdict} (h : (v = .checkPassed ∧ ∀ p ∈ patterns, met p) ∨
      ∃ p, FirstUnmet met patterns p ∧ v = .fail (message p)) :
    (v.outcome = .passed ↔ ∀ p ∈ patterns, met p) ∧
    (v.outcome = .failed ↔ ∃ p, FirstUnmet met patterns p ∧ v.message = message p) := by
  rcases h with ⟨rfl, hall⟩ | ⟨p, hfirst, rfl⟩
  · refine ⟨iff_of_true rfl hall, iff_of_false (by simp [Verdict.checkPassed, Verdict.pass]) ?_⟩
    rintro ⟨p, hfirst, -⟩
    exact hfirst.not_forall hall
  · have hnot : (Verdict.fail (message p)).outcome ≠ .passed := by simp [Verdict.fail]
    exact ⟨iff_of_false hnot hfirst.not_forall, iff_of_true rfl ⟨p, hfirst, rfl⟩⟩

end SequenceRule

end AuditRules
