import AuditRules.Proofs.Comparator.Keyed
import AuditRules.Proofs.Comparator.Mapping
import AuditRules.Proofs.Comparator.Reading
import AuditRules.Proofs.Comparator.Satisfies
import AuditRules.Proofs.Evaluation.Compatible

namespace AuditRules

open Evaluation (Compatible Implies YieldsOnly)

variable {engine : PatternEngine}

theorem Value.equalFolded_true {v w : Value} (h : v.equalFolded false w = true) :
    v.equalFolded true w = true := by
  cases v with
  | string s =>
    cases w with
    | string t =>
      have hst : s = t := by simpa [equalFolded, foldCase, Value.equal] using h
      simp [equalFolded, foldCase, Value.equal, hst]
    | null | bool | number | array | object => cases h
  | null | bool | number | array | object => cases w <;> exact h

/-- Whatever passes one rule passes another one too, if both are answered. -/
abbrev Evaluation.Relaxes (x y : Evaluation Verdict) : Prop :=
  Compatible (fun v w ↦ v.passed = true → w.passed = true) x y

open Evaluation (Relaxes)

namespace Evaluation

theorem Relaxes.refl (x : Evaluation Verdict) : Relaxes x x := by
  intro v w hv hw hpassed
  rwa [← Compatible.refl x v w hv hw]

theorem relaxes_ofBool {found found' : Bool} (h : found = true → found' = true)
    (failure failure' : String) :
    Relaxes (pure (.ofBool found failure)) (pure (.ofBool found' failure')) := by
  apply Compatible.pure
  simpa only [Verdict.passed_ofBool] using h

theorem relaxes_fail (failure : String) (y : Evaluation Verdict) :
    Relaxes (pure (.fail failure)) y := by
  intro v w hv _ hpassed
  rw [← Except.ok.inj hv] at hpassed
  cases hpassed

end Evaluation

open Evaluation (relaxes_ofBool relaxes_fail)

namespace Reading

variable {concerns : Value → Bool} {test test' : Value → Except RuleError (Value → Bool)}

theorem answer_ok {r : Reading} {v : Value} {o : Outcome} (h : r.answer v = .ok o) :
    o = if r.passes v then .passed else .failed := by
  by_cases hdecided : r.fault = none ∨ r.exhausts v = false
  · rw [answer_decided hdecided] at h
    exact (Except.ok.inj h).symm
  · obtain ⟨hfault, hexhausts⟩ := not_or.1 hdecided
    obtain ⟨e, he⟩ := Option.ne_none_iff_exists'.1 hfault
    rw [answer_exhausted he (by simpa using hexhausts)] at h
    cases h

theorem passes_ofAlternatives
    (h : ∀ c t, test c = .ok t → ∃ t', test' c = .ok t' ∧ ∀ v, t v = true → t' v = true)
    {cs : List Value} {v : Value} (hpasses : (ofAlternatives concerns test cs).passes v = true) :
    (ofAlternatives concerns test' cs).passes v = true := by
  simp only [passes, ofAlternatives_concerns, Bool.and_eq_true] at hpasses ⊢
  obtain ⟨hconcerns, htests⟩ := hpasses
  refine ⟨hconcerns, ?_⟩
  induction cs with
  | nil => exact htests
  | cons c cs ih =>
    rw [ofAlternatives] at htests ⊢
    cases ht : test c with
    | error e =>
      rw [ht] at htests
      cases htests
    | ok t =>
      obtain ⟨t', ht', himplies⟩ := h c t ht
      simp only [ht, ht', List.any_cons, Bool.or_eq_true] at htests ⊢
      exact htests.imp (himplies v) ih

end Reading

namespace TextRule

theorem equal_true {a b : String} (h : equal false a b = true) : equal true a b = true := by
  have hab : a = b := by simpa [equal] using h
  simp [equal, hab]

theorem test_ignoringCase {mode : Mode} (hmode : mode ≠ .pattern) {c : Value} {t : Value → Bool}
    (ht : test engine mode false c = .ok t) :
    ∃ t', test engine mode true c = .ok t' ∧ ∀ v, t v = true → t' v = true := by
  unfold test condition at ht ⊢
  cases hc : expectedText mode c with
  | error e =>
    rw [hc] at ht
    cases ht
  | ok expected =>
    rw [hc] at ht
    have hequal : ∀ v : Value, v.toText?.any (fun text ↦ equal false text expected) = true →
        v.toText?.any (fun text ↦ equal true text expected) = true := by
      intro v hv
      obtain ⟨text, htext, hequal⟩ := (Option.any_eq_true _ _).1 hv
      exact (Option.any_eq_true _ _).2 ⟨text, htext, equal_true hequal⟩
    cases mode with
    | pattern => exact absurd rfl hmode
    | equal | any =>
      obtain rfl := Except.ok.inj ht
      exact ⟨_, rfl, hequal⟩

theorem passes_ignoringCase {mode : Mode} (hmode : mode ≠ .pattern) {expected v : Value}
    (h : (reading engine mode false expected).passes v = true) :
    (reading engine mode true expected).passes v = true := by
  have htest : ∀ c t, test engine mode false c = .ok t →
      ∃ t', test engine mode true c = .ok t' ∧ ∀ v, t v = true → t' v = true :=
    fun _ _ ht ↦ test_ignoringCase hmode ht
  cases mode with
  | pattern => exact absurd rfl hmode
  | equal => exact Reading.passes_ofAlternatives htest h
  | any =>
    cases expected with
    | array candidates => exact Reading.passes_ofAlternatives htest h
    | null | bool | number | string | object => exact h

theorem compare_relaxes {strict relaxed : Fields} (mode : Mode) (hmode : mode ≠ .pattern)
    {expected : Value} (hstrict : strict.Asks (.text engine) mode.key expected)
    (hrelaxed : relaxed.Asks (.text engine) mode.key expected)
    (hminds : (Rule.mk strict).ignoreCase = false)
    (hignores : (Rule.mk relaxed).ignoreCase = true) (ctx : Context) (v : Value) :
    Relaxes (compare engine ctx ⟨strict⟩ v) (compare engine ctx ⟨relaxed⟩ v) := by
  have houtcome : ∀ fields : Fields, fields.Asks (.text engine) mode.key expected → ∀ a,
      (compare engine ctx ⟨fields⟩ v).result = .ok a →
        a.outcome =
          if (reading engine mode (Rule.mk fields).ignoreCase expected).passes v then .passed
          else .failed := by
    intro fields h a ha
    have hcompare := compare_outcome engine ctx ⟨fields⟩ v
    rw [ha, read, select_asks mode h] at hcompare
    exact Reading.answer_ok hcompare.symm
  intro a b ha hb hpassed
  have hstrictOutcome := houtcome strict hstrict a ha
  have hrelaxedOutcome := houtcome relaxed hrelaxed b hb
  rw [hminds] at hstrictOutcome
  rw [hignores] at hrelaxedOutcome
  cases hpasses : (reading engine mode false expected).passes v with
  | true =>
    rw [passes_ignoringCase hmode hpasses] at hrelaxedOutcome
    simp [Verdict.passed, hrelaxedOutcome]
  | false =>
    rw [hpasses] at hstrictOutcome
    simp [Verdict.passed, hstrictOutcome] at hpassed

end TextRule

namespace MappingRule

variable {ctx : Context}

mutual

theorem mismatch?_ignoringCase : ∀ (pattern : List (String × Value)) (actual : Fields),
    (mismatch? ctx false pattern actual).result = .ok none →
    (mismatch? ctx true pattern actual).result = .ok none
  | [], _, _ => by
    rw [mismatch?]
    rfl
  | (key, expected) :: rest, actual, h => by
    rw [mismatch?] at h ⊢
    cases hv : Fields.get? actual key with
    | none =>
      rw [hv] at h
      cases h
    | some v =>
      rw [hv] at h
      obtain ⟨reason, hreason, h⟩ := Evaluation.exists_of_result_bind_ok h
      cases reason with
      | some reason => cases h
      | none =>
        have hhere := valueMismatch?_ignoringCase key expected v hreason
        have hrest := mismatch?_ignoringCase rest actual h
        exact (Evaluation.result_bind_ok hhere _).trans hrest

theorem valueMismatch?_ignoringCase (key : String) : ∀ expected v : Value,
    (valueMismatch? ctx false key expected v).result = .ok none →
    (valueMismatch? ctx true key expected v).result = .ok none
  | expected, v, h => by
    by_cases hrule : expected.isTypedRule = true
    · -- A rule inside the pattern has a flag of its own.
      rw [valueMismatch?_rule hrule] at h ⊢
      exact h
    · have huntyped : expected.isTypedRule = false := by simpa using hrule
      by_cases hwhole : expected.isObject = false ∨ v.isObject = false
      · rw [valueMismatch?_whole huntyped hwhole] at h ⊢
        cases hequal : v.equalFolded false expected with
        | true => rw [Value.equalFolded_true hequal]; rfl
        | false =>
          rw [hequal] at h
          cases h
      · cases expected with
        | null | bool | number | string | array => exact absurd (.inl rfl) hwhole
        | object inner =>
          cases v with
          | null | bool | number | string | array => exact absurd (.inr rfl) hwhole
          | object fields =>
            rw [valueMismatch?_object huntyped] at h ⊢
            obtain ⟨reason, hreason, h⟩ := Evaluation.exists_of_result_bind_ok h
            cases reason with
            | some reason => cases h
            | none =>
              have hinner := mismatch?_ignoringCase inner fields hreason
              exact Evaluation.result_bind_ok hinner _

end

theorem compareFields_passed {expected actual : Value} {fields : Fields} {v : Verdict}
    (hv : (compareFields ctx .entries false expected actual fields).result = .ok v)
    (hpassed : v.passed = true) :
    (compareFields ctx .entries true expected actual fields).result = .ok .checkPassed := by
  obtain ⟨pattern, hpattern, hv⟩ := Evaluation.exists_of_result_bind_ok hv
  obtain ⟨reason, hreason, hv⟩ := Evaluation.exists_of_result_bind_ok hv
  cases reason with
  | some reason =>
    rw [← Except.ok.inj hv] at hpassed
    cases hpassed
  | none =>
    have hfits := mismatch?_ignoringCase pattern fields hreason
    exact (Evaluation.result_bind_ok hpattern _).trans (Evaluation.result_bind_ok hfits _)

theorem compareFields_relaxes (mode : Mode) (expected actual : Value) (fields : Fields) :
    Relaxes (compareFields ctx mode false expected actual fields)
      (compareFields ctx mode true expected actual fields) := by
  cases mode with
  | keyAny | keyAll => exact Evaluation.Relaxes.refl _
  | entries =>
    intro v w hv hw hpassed
    rw [compareFields_passed hv hpassed] at hw
    rw [← Except.ok.inj hw]
    rfl
  | any =>
    have hfits : ∀ pattern : Fields, Compatible (fun r r' ↦ r = none → r' = none)
        (mismatch? ctx false pattern fields) (mismatch? ctx true pattern fields) := by
      intro pattern r r' hr hr' hnone
      rw [hnone] at hr
      have hfit := mismatch?_ignoringCase pattern fields hr
      exact Except.ok.inj (hr'.symm.trans hfit)
    have hcandidate : ∀ c : Value,
        Implies (do return (← mismatch? ctx false (← expectedMapping .any c) fields).isNone)
          (do return (← mismatch? ctx true (← expectedMapping .any c) fields).isNone) := by
      intro c
      refine (Compatible.refl _).bind ?_
      rintro pattern _ rfl
      refine (hfits pattern).bind fun r r' hr ↦ Compatible.pure ?_
      simpa using hr
    refine (Compatible.refl _).bind ?_
    rintro candidates _ rfl
    have hsearch := Implies.anyM fun c (_ : c ∈ candidates) ↦ hcandidate c
    exact hsearch.bind fun found found' hfound ↦ relaxes_ofBool hfound _ _

theorem compare_relaxes {strict relaxed : Fields} (mode : Mode) {expected : Value}
    (hstrict : strict.Asks .mapping mode.key expected)
    (hrelaxed : relaxed.Asks .mapping mode.key expected)
    (hminds : (Rule.mk strict).ignoreCase = false)
    (hignores : (Rule.mk relaxed).ignoreCase = true) (v : Value) :
    Relaxes (compare ctx ⟨strict⟩ v) (compare ctx ⟨relaxed⟩ v) := by
  intro a b ha hb
  cases hobject : v.isObject with
  | false =>
    obtain ⟨message, hfail⟩ := compare_scalar hstrict hobject ctx
    exact relaxes_fail message _ a b (hfail.symm.trans ha) hb
  | true =>
    cases v with
    | null | bool | number | string | array => cases hobject
    | object fields =>
      rw [compare_object hstrict, hminds] at ha
      rw [compare_object hrelaxed, hignores] at hb
      exact compareFields_relaxes mode expected _ fields a b ha hb

end MappingRule

namespace SequenceRule

variable {ctx : Context}

def Eases (ctx : Context) : Prop :=
  ∀ (mode : MappingRule.Mode) (expected : Value) (entries : Fields),
    Relaxes (ctx.delegate (mappingRule mode.key expected false) (.object entries))
      (ctx.delegate (mappingRule mode.key expected true) (.object entries))

theorem passes_implies {rule rule' v : Value}
    (h : Relaxes (ctx.delegate rule v) (ctx.delegate rule' v)) :
    Implies (passes ctx rule v) (passes ctx rule' v) :=
  h.bind fun _ _ hpassed ↦ Compatible.pure hpassed

theorem scalarSatisfies_implies (item pattern : Value) :
    Implies (scalarSatisfies ctx false item pattern) (scalarSatisfies ctx true item pattern) := by
  unfold scalarSatisfies
  cases pattern.nestedRule? with
  | some rule => exact .refl _
  | none =>
    apply Compatible.pure
    intro h
    rw [Bool.and_eq_true] at h ⊢
    exact ⟨h.1, Value.equalFolded_true h.2⟩

theorem itemSatisfiesAny_implies (h : Eases ctx) (patterns : List Value) (item : Value) :
    Implies (itemSatisfiesAny ctx false patterns item)
      (itemSatisfiesAny ctx true patterns item) := by
  have hscalars : Implies (patterns.anyM (scalarSatisfies ctx false item))
      (patterns.anyM (scalarSatisfies ctx true item)) :=
    .anyM fun pattern _ ↦ scalarSatisfies_implies item pattern
  rw [itemSatisfiesAny_eq, itemSatisfiesAny_eq]
  cases hshape : item.shape with
  | other => exact hscalars
  | mapping entries =>
    obtain rfl := eq_object_of_shape hshape
    dsimp only [mappingsPass]
    split
    · exact .refl _
    · exact passes_implies (h .any _ entries)
  | whole n =>
    -- The number rule is the same, and whether it is passed decides if the search goes on.
    refine (Compatible.refl _).bind ?_
    rintro passed _ rfl
    cases passed with
    | true => exact Implies.refl (pure true)
    | false => exact hscalars

theorem elementSatisfies_implies (h : Eases ctx) (item pattern : Value) :
    Implies (elementSatisfies ctx false item pattern)
      (elementSatisfies ctx true item pattern) := by
  unfold elementSatisfies
  cases hshape : item.shape with
  | whole | other => exact scalarSatisfies_implies item pattern
  | mapping entries =>
    obtain rfl := eq_object_of_shape hshape
    dsimp only
    split
    · exact passes_implies (h .entries pattern entries)
    · exact .refl _

theorem compareAny_relaxes (h : Eases ctx) (patterns : List Value) (actual : Value)
    (items : List Value) :
    Relaxes (compareAny ctx false patterns actual items)
      (compareAny ctx true patterns actual items) := by
  have hsearch := Implies.anyM fun item (_ : item ∈ items) ↦
    itemSatisfiesAny_implies h patterns item
  exact hsearch.bind fun found found' hfound ↦ relaxes_ofBool hfound _ _

theorem compareAll_relaxes (h : Eases ctx) (actual : Value) (items patterns : List Value) :
    Relaxes (compareAll ctx false actual items patterns)
      (compareAll ctx true actual items patterns) := by
  induction patterns with
  | nil => exact Evaluation.Relaxes.refl _
  | cons pattern rest ih =>
    have hsearch := Implies.anyM fun item (_ : item ∈ items) ↦
      elementSatisfies_implies h item pattern
    refine hsearch.bind fun found found' hfound ↦ ?_
    cases found with
    | false => exact relaxes_fail _ _
    | true =>
      rw [hfound rfl]
      exact ih

/-- Of a list rule only what it asks of the elements can depend on the flag. -/
theorem compare_relaxes {strict relaxed : Rule}
    (hsame : ListRule.parse strict = ListRule.parse relaxed)
    (h : ∀ parsed, ListRule.parse relaxed = .ok parsed → ∀ items,
      Relaxes (compareItems ctx parsed strict.ignoreCase (.array items) items)
        (compareItems ctx parsed relaxed.ignoreCase (.array items) items)) (v : Value) :
    Relaxes (compare ctx strict v) (compare ctx relaxed v) := by
  intro a b ha hb
  obtain ⟨parsed, hparsed, ha⟩ := Evaluation.exists_of_result_bind_ok ha
  obtain ⟨parsed', hparsed', hb⟩ := Evaluation.exists_of_result_bind_ok hb
  obtain rfl := Except.ok.inj (hparsed.symm.trans (hsame.trans hparsed'))
  obtain ⟨-, -, ha⟩ := Evaluation.exists_of_result_bind_ok ha
  obtain ⟨-, -, hb⟩ := Evaluation.exists_of_result_bind_ok hb
  cases v with
  | array items => exact h parsed hparsed' items a b ha hb
  | null | bool | number | string | object =>
    obtain ⟨-, -, ha⟩ := Evaluation.exists_of_result_bind_ok ha
    obtain ⟨-, -, hb⟩ := Evaluation.exists_of_result_bind_ok hb
    exact relaxes_fail _ _ a b ha hb

end SequenceRule

end AuditRules
