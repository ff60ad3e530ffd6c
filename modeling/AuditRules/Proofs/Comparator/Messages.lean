import AuditRules.Proofs.Comparator.Delegates

namespace AuditRules

open Evaluation (YieldsOnly)

variable {engine : PatternEngine}

inductive Value.ListsBelow (n : Nat) : Value → Prop
  | null : ListsBelow n .null
  | bool (b : Bool) : ListsBelow n (.bool b)
  | number (x : Number) : ListsBelow n (.number x)
  | string (s : String) : ListsBelow n (.string s)
  | array {items : List Value} (hlength : items.length < n)
      (h : ∀ v ∈ items, ListsBelow n v) : ListsBelow n (.array items)
  | object {fields : List (String × Value)}
      (h : ∀ key v, (key, v) ∈ fields → ListsBelow n v) : ListsBelow n (.object fields)

namespace Value.ListsBelow

variable {n : Nat}

theorem get? {fields : Fields} (h : (Value.object fields).ListsBelow n) {key : String}
    {found : Value} (hfound : fields.get? key = some found) : found.ListsBelow n := by
  cases h with
  | object h => exact h key found (Fields.mem_of_get? hfound)

theorem sublist {items kept : List Value} (h : (Value.array items).ListsBelow n)
    (hkept : kept.Sublist items) : (Value.array kept).ListsBelow n := by
  cases h with
  | array hlength h =>
    have hle : kept.length ≤ items.length := hkept.length_le
    exact .array (by omega) fun v hv ↦ h v (hkept.subset hv)

end Value.ListsBelow

def lengthRange : Nat := 0x10000000000000000

theorem length_truncate (limit : Nat) (s : String) : (truncate limit s).length ≤ limit + 3 := by
  unfold truncate
  split
  · rename_i h
    rw [String.length_toList] at h
    omega
  · have htake : (s.toList.take limit).length ≤ limit := List.length_take_le limit _
    have hdots : "...".length = 3 := rfl
    rw [String.length_append, String.length_ofList, hdots]
    omega

theorem length_render (limit : Nat) (v : Value) : (v.render limit).length ≤ limit + 3 := by
  cases v with
  | string s => exact length_truncate limit s
  | null | bool | number | array | object => exact length_truncate limit _

theorem length_toString {n : Nat} (h : n < lengthRange) : (toString n).length ≤ 20 := by
  rw [Nat.toString_eq_ofList_toDigits, String.length_ofList,
    Nat.length_toDigits_le_iff (by decide) (by decide)]
  exact Nat.lt_trans h (by decide)

def Verdict.Within (bound : Nat) (v : Verdict) : Prop := v.message.length ≤ bound

theorem Verdict.Within.mono {n m : Nat} {v : Verdict} (h : v.Within n) (hle : n ≤ m) : v.Within m :=
  Nat.le_trans h hle

theorem Verdict.within_checkPassed {bound : Nat} (hbound : 12 ≤ bound) :
    checkPassed.Within bound := by
  have hpassed : checkPassed.message.length = 12 := rfl
  change checkPassed.message.length ≤ bound
  omega

theorem Verdict.within_notApplicable {bound : Nat} {message : String}
    (h : message.length ≤ bound) : (notApplicable message).Within bound := h

theorem Verdict.within_fail {bound : Nat} {failure : String} (h : failure.length ≤ bound) :
    (fail failure).Within bound := h

theorem Verdict.within_ofBool {bound : Nat} {failure : String} (hbound : 12 ≤ bound)
    (h : failure.length ≤ bound) (passed : Bool) : (ofBool passed failure).Within bound := by
  cases passed with
  | true => exact within_checkPassed hbound
  | false => exact h

/-- A context that shows no more than `limit` characters of a value, and in which the messages of
delegated rules are bounded, each by a number for its rule. -/
structure Context.Curbs (limit : Nat) (bound : Value → Nat) (ctx : Context) : Prop where
  limit : ctx.renderLimit = limit
  delegate : ∀ rule v, v.ListsBelow lengthRange →
    YieldsOnly (Verdict.Within (bound rule)) (ctx.delegate rule v)

variable {limit : Nat} {bound : Value → Nat} {ctx : Context}

theorem Context.Curbs.length_render (h : ctx.Curbs limit bound) (v : Value) :
    (ctx.render v).length ≤ limit + 3 := by
  rw [Site.render, h.limit]
  exact AuditRules.length_render limit v

namespace NumberRule

def expressionLength (expected : Value) : Nat :=
  match NumberExpression.parse expected with
  | .ok e => e.text.length
  | .error _ => 0

def messageBound (limit : Nat) (rule : Rule) : Nat :=
  match rule.select comparator modes with
  | .ok (_, expected) => 64 + expressionLength expected + 2 * (limit + 3)
  | .error _ => 0

theorem compare_within (h : ctx.Curbs limit bound) (rule : Rule) (actual : Value) :
    YieldsOnly (Verdict.Within (messageBound limit rule)) (compare ctx rule actual) := by
  unfold compare messageBound
  cases rule.select comparator modes with
  | error e => exact trivial
  | ok found =>
    obtain ⟨mode, expected⟩ := found
    have hactual := h.length_render actual
    have hexpected := h.length_render expected
    rw [Evaluation.liftM_ok_bind]
    refine .bind fun _ ↦ ?_
    dsimp only
    cases actual.toQuantity? with
    | none =>
      have hmode : mode.key.length ≤ 9 := by cases mode <;> decide
      have htexts : "number::".length + " failure. ".length + " is not a number".length ≤ 40 := by
        decide
      refine Verdict.within_fail ?_
      simp only [String.length_append]
      omega
    | some q =>
      cases mode with
      | one =>
        change YieldsOnly _ (liftM (compareOne ctx.toSite expected actual q))
        unfold compareOne expressionLength
        cases NumberExpression.parse expected with
        | error e => exact trivial
        | ok e =>
          have htexts : "number::match failure. Expected=".length + " Got=".length ≤ 64 := by
            decide
          refine Verdict.within_ofBool (by omega) ?_ _
          simp only [String.length_append]
          omega
      | any =>
        change YieldsOnly _ (liftM (compareAny ctx.toSite expected actual q))
        unfold compareAny
        split
        · have htexts : "number::match_any failure. Expected any of ".length +
              " Got=".length ≤ 64 := by decide
          refine .liftM_bind fun found ↦ Verdict.within_ofBool (by omega) ?_ found
          simp only [String.length_append]
          omega
        · exact trivial

end NumberRule

namespace TextRule

def messageBound (limit : Nat) : Nat := 64 + 2 * (limit + 3)

theorem compare_within (h : ctx.Curbs limit bound) (rule : Rule) (actual : Value) :
    YieldsOnly (Verdict.Within (messageBound limit)) (compare engine ctx rule actual) := by
  unfold messageBound
  refine .bind fun found ↦ ?_
  obtain ⟨mode, expected⟩ := found
  have hmode : mode.key.length ≤ 11 := by cases mode <;> decide
  have hactual := h.length_render actual
  have hexpected := h.length_render expected
  refine .bind fun _ ↦ ?_
  split
  · have htexts : "string::".length + " failure. ".length + " is not a string".length ≤ 40 := by
      decide
    refine Verdict.within_fail ?_
    simp only [String.length_append]
    omega
  · have htexts : "string::".length + " failure. Expected=".length + " Got=".length ≤ 40 := by
      decide
    refine .bind fun satisfied ↦ Verdict.within_ofBool (by omega) ?_ satisfied
    simp only [String.length_append]
    omega

end TextRule

namespace BooleanRule

def messageBound (limit : Nat) : Nat := 64 + (limit + 3)

theorem length_boolText (b : Bool) : (boolText b).length ≤ 5 := by cases b <;> decide

theorem compare_within (h : ctx.Curbs limit bound) (rule : Rule) (actual : Value) :
    YieldsOnly (Verdict.Within (messageBound limit)) (compare ctx rule actual) := by
  unfold messageBound
  refine .bind fun found ↦ .bind fun _ ↦ ?_
  have hactual := h.length_render actual
  split
  · exact trivial
  · rename_i e a _ _
    have hexpected := length_boolText e
    have hgot := length_boolText a
    have htexts : "boolean::match failure. Expected=".length + " Got=".length ≤ 40 := by decide
    refine Verdict.within_ofBool (by omega) ?_ _
    simp only [String.length_append]
    omega
  · have htexts : "boolean::match failure. ".length + " is not a boolean".length ≤ 64 := by decide
    refine Verdict.within_fail ?_
    simp only [String.length_append]
    omega

end BooleanRule

namespace MappingRule

mutual

def reasonBound (limit : Nat) (bound : Value → Nat) : List (String × Value) → Nat
  | [] => 0
  | (key, expected) :: rest =>
    40 + key.length + valueReasonBound limit bound expected + reasonBound limit bound rest

def valueReasonBound (limit : Nat) (bound : Value → Nat) : Value → Nat
  | .object fields => bound (.object fields) + 2 * (limit + 3) + reasonBound limit bound fields
  | v => bound v + 2 * (limit + 3)

end

theorem le_valueReasonBound (limit : Nat) (bound : Value → Nat) (v : Value) :
    bound v + 2 * (limit + 3) ≤ valueReasonBound limit bound v := by
  cases v <;> simp [valueReasonBound]

def ReasonWithin (n : Nat) (reason : Option String) : Prop := ∀ r, reason = some r → r.length ≤ n

theorem ReasonWithin.mono {n m : Nat} {reason : Option String} (h : ReasonWithin n reason)
    (hle : n ≤ m) : ReasonWithin m reason :=
  fun r hr ↦ Nat.le_trans (h r hr) hle

variable {ignoreCase : Bool}

mutual

theorem mismatch?_within (h : ctx.Curbs limit bound) :
    ∀ (expected : List (String × Value)) (actual : Fields),
      (Value.object actual).ListsBelow lengthRange →
      YieldsOnly (ReasonWithin (reasonBound limit bound expected))
        (mismatch? ctx ignoreCase expected actual)
  | [], _, _ => by
    rw [mismatch?]
    exact nofun
  | (key, expected) :: rest, actual, hactual => by
    rw [mismatch?, reasonBound]
    cases hfound : Fields.get? actual key with
    | none =>
      have htexts : "key '".length + "' not found".length ≤ 40 := by decide
      rintro r ⟨⟩
      simp only [String.length_append]
      omega
    | some found =>
      have hvalue := valueMismatch?_within h key expected found (hactual.get? hfound)
      refine Evaluation.Ensures.bind hvalue fun reason hreason ↦ ?_
      cases reason with
      | some reason =>
        have hlength := hreason reason rfl
        rintro r ⟨⟩
        omega
      | none =>
        have hrest := mismatch?_within h rest actual hactual
        exact hrest.weaken fun _ hr ↦ hr.mono (by omega)

theorem valueMismatch?_within (h : ctx.Curbs limit bound) (key : String) :
    ∀ expected actual : Value, actual.ListsBelow lengthRange →
      YieldsOnly (ReasonWithin (40 + key.length + valueReasonBound limit bound expected))
        (valueMismatch? ctx ignoreCase key expected actual)
  | expected, actual, hactual => by
    rw [valueMismatch?.eq_def]
    dsimp only
    have hle := le_valueReasonBound limit bound expected
    split
    · refine Evaluation.Ensures.bind (h.delegate expected actual hactual) fun verdict hverdict ↦ ?_
      have hmessage : verdict.message.length ≤ bound expected := hverdict
      cases hpassed : verdict.passed with
      | true => exact nofun
      | false =>
        have htexts : "key '".length + "': ".length ≤ 40 := by decide
        rintro r ⟨⟩
        simp only [String.length_append]
        omega
    · split
      · rename_i expectedFields actualFields _
        have hfields := mismatch?_within h expectedFields actualFields hactual
        refine Evaluation.Ensures.bind hfields fun reason hreason ↦ ?_
        cases reason with
        | none => exact nofun
        | some reason =>
          have hlength := hreason reason rfl
          have hdot : ".".length = 1 := rfl
          rintro r ⟨⟩
          simp only [String.length_append, valueReasonBound]
          omega
      · split
        · exact nofun
        · have htexts : "key '".length + "' expected ".length + " got ".length ≤ 40 := by decide
          have hexpected := h.length_render expected
          have hactual := h.length_render actual
          rintro r ⟨⟩
          simp only [String.length_append]
          omega

end

def keysBound : List String → Nat
  | [] => 2
  | key :: rest => (Quoted.quote key).length + 2 + keysBound rest

def expectedBound (limit : Nat) (bound : Value → Nat) (mode : Mode) (expected : Value) : Nat :=
  match mode, expected with
  | .entries, .object fields => reasonBound limit bound fields
  | .entries, _ | .any, _ => 0
  | .keyAny, expected | .keyAll, expected =>
    match expectedKeys mode expected with
    | .ok keys => keysBound keys
    | .error _ => 0

def messageBound (limit : Nat) (bound : Value → Nat) (rule : Rule) : Nat :=
  match rule.select comparator modes with
  | .ok (mode, expected) => 64 + (limit + 3) + expectedBound limit bound mode expected
  | .error _ => 0

theorem length_intercalate (keys : List String) :
    (", ".intercalate (keys.map Quoted.quote)).length + 2 ≤ keysBound keys := by
  have hcomma : ", ".length = 2 := rfl
  induction keys with
  | nil => exact Nat.le_refl 2
  | cons key rest ih =>
    rw [keysBound]
    cases rest with
    | nil =>
      simp only [keysBound, List.map_cons, List.map_nil, String.intercalate_singleton]
      omega
    | cons next rest =>
      simp only [List.map_cons, String.intercalate_cons_cons, String.length_append] at ih ⊢
      omega

theorem length_quotedList (keys : List String) : (Quoted.list keys).length ≤ keysBound keys := by
  have hkeys := length_intercalate keys
  have hopen : "[".length = 1 := rfl
  have hclose : "]".length = 1 := rfl
  rw [Quoted.list, String.length_append, String.length_append]
  omega

theorem keysBound_filter (p : String → Bool) (keys : List String) :
    keysBound (keys.filter p) ≤ keysBound keys := by
  induction keys with
  | nil => exact Nat.le_refl 2
  | cons key rest ih =>
    rw [List.filter_cons, keysBound]
    by_cases hkey : p key = true
    · rw [if_pos hkey, keysBound]
      omega
    · rw [if_neg hkey]
      omega

theorem compareEntries_within (h : ctx.Curbs limit bound) (expected : Value) {fields : Fields}
    (hactual : (Value.object fields).ListsBelow lengthRange) :
    YieldsOnly (Verdict.Within (64 + (limit + 3) + expectedBound limit bound .entries expected))
      (compareFields ctx .entries ignoreCase expected (.object fields) fields) := by
  have hrender := h.length_render (.object fields)
  cases expected with
  | object pattern =>
    rw [expectedBound, compareFields, expectedMapping, Evaluation.liftM_ok_bind]
    refine Evaluation.Ensures.bind (mismatch?_within h pattern fields hactual) ?_
    intro reason hreason
    cases reason with
    | none => exact Verdict.within_checkPassed (by omega)
    | some reason =>
      have hlength := hreason reason rfl
      have htexts : "dict::match failure. ".length + ". Got=".length ≤ 64 := by decide
      refine Verdict.within_fail ?_
      simp only [String.length_append]
      omega
  | null | bool | number | string | array => exact trivial

theorem compareFields_within (h : ctx.Curbs limit bound) (mode : Mode) (expected : Value)
    {fields : Fields} (hactual : (Value.object fields).ListsBelow lengthRange) :
    YieldsOnly (Verdict.Within (64 + (limit + 3) + expectedBound limit bound mode expected))
      (compareFields ctx mode ignoreCase expected (.object fields) fields) := by
  have hrender := h.length_render (.object fields)
  cases mode with
  | entries => exact compareEntries_within h expected hactual
  | any =>
    have htexts : "dict::match_any failure. Got=".length ≤ 64 := by decide
    refine .bind fun candidates ↦ .bind fun found ↦ Verdict.within_ofBool (by omega) ?_ found
    simp only [String.length_append]
    omega
  | keyAny =>
    unfold compareFields expectedBound
    dsimp only
    cases expectedKeys .keyAny expected with
    | error e => exact trivial
    | ok keys =>
      have hlist := length_quotedList keys
      have htexts : "dict::match_key_any failure. None of ".length + " found".length ≤ 64 := by
        decide
      refine Verdict.within_ofBool (by omega) ?_ _
      simp only [String.length_append]
      omega
  | keyAll =>
    unfold compareFields expectedBound
    dsimp only
    cases expectedKeys .keyAll expected with
    | error e => exact trivial
    | ok keys =>
      have hlist := length_quotedList (keys.filter fun key ↦ !fields.contains key)
      have hfilter := keysBound_filter (fun key ↦ !fields.contains key) keys
      have htexts : "dict::match_key_all failure. Missing keys ".length ≤ 64 := by decide
      refine Verdict.within_ofBool (by omega) ?_ _
      simp only [String.length_append]
      omega

theorem compare_within (h : ctx.Curbs limit bound) (rule : Rule) {actual : Value}
    (hactual : actual.ListsBelow lengthRange) :
    YieldsOnly (Verdict.Within (messageBound limit bound rule)) (compare ctx rule actual) := by
  unfold compare messageBound
  cases rule.select comparator modes with
  | error e => exact trivial
  | ok found =>
    obtain ⟨mode, expected⟩ := found
    have hrender := h.length_render actual
    rw [Evaluation.liftM_ok_bind]
    refine .bind fun _ ↦ ?_
    cases actual with
    | object fields => exact compareFields_within h mode expected hactual
    | null | bool | number | string | array =>
      have hmode : mode.key.length ≤ 13 := by cases mode <;> decide
      have htexts : "dict::".length + " failure. ".length + " is not a mapping".length ≤ 40 := by
        decide
      refine Verdict.within_fail ?_
      simp only [String.length_append]
      omega

end MappingRule

namespace SequenceRule

def ownBound (bound : Value → Nat) : ListRule → Nat
  | .keyed key _ => key.length
  | .filtered _ rule => bound (innerRule rule)
  | .size _ | .exactly _ | .any _ | .all _ => 0

def messageBound (limit : Nat) (bound : Value → Nat) (rule : Rule) : Nat :=
  match ListRule.parse rule with
  | .ok parsed => 80 + 2 * (limit + 3) + ownBound bound parsed
  | .error _ => 0

variable {ignoreCase : Bool}

theorem length_mode (rule : ListRule) : rule.mode.length ≤ 29 := by
  cases rule <;> simp only [ListRule.mode] <;> decide

theorem compareAll_within (h : ctx.Curbs limit bound) (actual : Value) (items : List Value) :
    ∀ patterns : List Value, YieldsOnly (Verdict.Within (80 + 2 * (limit + 3)))
      (compareAll ctx ignoreCase actual items patterns)
  | [] => Verdict.within_checkPassed (by omega)
  | pattern :: rest => by
    refine .bind fun found ↦ ?_
    cases found with
    | true => exact compareAll_within h actual items rest
    | false =>
      have hpattern := h.length_render pattern
      have hactual := h.length_render actual
      have htexts : "list::match_all failure. No element satisfies ".length +
          ". Got=".length ≤ 80 := by decide
      refine Verdict.within_fail ?_
      simp only [String.length_append]
      omega

theorem compareItems_within (h : ctx.Curbs limit bound) (rule : ListRule) {items : List Value}
    (hitems : (Value.array items).ListsBelow lengthRange) :
    YieldsOnly (Verdict.Within (80 + 2 * (limit + 3) + ownBound bound rule))
      (compareItems ctx rule ignoreCase (.array items) items) := by
  have hactual := h.length_render (.array items)
  cases rule with
  | size expression =>
    have hexpression := h.length_render expression
    have hlength : (toString items.length).length ≤ 20 := by
      cases hitems with
      | array hlength => exact length_toString hlength
    have htexts : "list::size failure. Expected=".length + " Got=".length ≤ 60 := by decide
    refine .bind fun verdict ↦ Verdict.within_ofBool (by omega) ?_ _
    simp only [String.length_append]
    omega
  | exactly expected =>
    cases items with
    | nil =>
      have htexts : "list::match failure. ".length + " is not a non-empty list".length ≤ 60 := by
        decide
      refine .bind fun _ ↦ Verdict.within_fail ?_
      simp only [String.length_append]
      omega
    | cons first rest =>
      have htexts : "list::match failure. Got=".length ≤ 60 := by decide
      rw [compareItems, compareExactly_cons]
      refine .bind fun settled ↦ ?_
      cases settled with
      | true => exact Verdict.within_checkPassed (by omega)
      | false =>
        refine .bind fun found ↦ Verdict.within_ofBool (by omega) ?_ found
        simp only [String.length_append]
        omega
  | any patterns =>
    have htexts : "list::match_any failure. Got=".length ≤ 60 := by decide
    refine .bind fun found ↦ Verdict.within_ofBool (by omega) ?_ found
    simp only [String.length_append]
    omega
  | all patterns => exact compareAll_within h _ items patterns
  | keyed key args =>
    refine .bind fun outcome ↦ ?_
    cases outcome with
    | passed => exact Verdict.within_checkPassed (by omega)
    | failed =>
      have htexts : "list::match_any_if_keyvalue_matches failure. Got=".length ≤ 60 := by decide
      refine Verdict.within_fail ?_
      simp only [String.length_append]
      omega
    | notApplicable =>
      have htexts : "Check Passed. No element with a matching '".length +
          "' value".length ≤ 60 := by decide
      refine Verdict.within_notApplicable ?_
      simp only [String.length_append, ownBound]
      omega
  | filtered filter rule =>
    -- The verdict of the inner rule is passed on as it is, on a part of the list.
    have hany (x : Evaluation Verdict) : Evaluation.ErrsOnly (fun _ ↦ True) x :=
      Evaluation.Ensures.iff.2 ⟨fun _ _ ↦ trivial, fun _ _ ↦ trivial⟩
    refine Evaluation.Ensures.bind (keep_ensures items fun _ _ ↦ hany _) fun kept hkept ↦ ?_
    refine YieldsOnly.bind fun _ ↦ ?_
    have hinner := h.delegate (innerRule rule) (.array kept) (hitems.sublist hkept)
    exact hinner.weaken fun v hv ↦ hv.mono (by simp only [ownBound]; omega)

theorem compare_within (h : ctx.Curbs limit bound) (rule : Rule) {actual : Value}
    (hactual : actual.ListsBelow lengthRange) :
    YieldsOnly (Verdict.Within (messageBound limit bound rule)) (compare ctx rule actual) := by
  unfold compare messageBound
  cases ListRule.parse rule with
  | error e => exact trivial
  | ok parsed =>
    have hrender := h.length_render actual
    rw [Evaluation.liftM_ok_bind]
    refine .bind fun _ ↦ ?_
    cases actual with
    | array items => exact compareItems_within h parsed hactual
    | null | bool | number | string | object =>
      have hmode := length_mode parsed
      have htexts : "list::".length + " failure. ".length +
          " is not an instance of list".length ≤ 50 := by decide
      refine .bind fun _ ↦ Verdict.within_fail ?_
      simp only [String.length_append]
      omega

end SequenceRule

end AuditRules
