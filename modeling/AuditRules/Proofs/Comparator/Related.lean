import AuditRules.Proofs.Comparator.Delegates
import AuditRules.Proofs.Evaluation.Related
import AuditRules.Proofs.Value.Correspondence

namespace AuditRules

open Evaluation (Related)

variable {engine : PatternEngine}

variable {L : Likeness}

structure Context.Alike (L : Likeness) (ctx ctx' : Context) : Prop where
  render : ∀ v, L.texts (ctx.render v) (ctx'.render v)
  delegate : ∀ spec v, Related L L.verdicts (ctx.delegate spec v) (ctx'.delegate spec v)

def Comparator.Respects (L : Likeness) (c : Comparator) : Prop :=
  ∀ {ctx ctx' : Context}, ctx.Alike L ctx' → ∀ rule v,
    Related L L.verdicts (c.compare ctx rule v) (c.compare ctx' rule v)

/-- Alike contexts at one site get alike answers from a comparator. -/
def Comparator.RespectsAt (L : Likeness) (c : Comparator) : Prop :=
  ∀ {ctx ctx' : Context}, ctx.toSite = ctx'.toSite → ctx.Alike L ctx' → ∀ rule v,
    Related L L.verdicts (c.compare ctx rule v) (c.compare ctx' rule v)

/-- Contexts that are alike on values that correspond, as far as certain rules are delegated. -/
structure Context.AlikeOn (L : Likeness) (V : Value → Value → Prop) (targets : Value → Prop)
    (ctx ctx' : Context) : Prop where
  values : Value.Correspondence V
  render : ∀ v, L.texts (ctx.render v) (ctx'.render v)
  render_related : ∀ v w, V v w → L.texts (ctx.render v) (ctx'.render w)
  delegate : ∀ target v w, targets target → V v w →
    Related L L.verdicts (ctx.delegate target v) (ctx'.delegate target w)

theorem Context.Alike.on {ctx ctx' : Context} (h : ctx.Alike L ctx') (targets : Value → Prop) :
    ctx.AlikeOn L Eq targets ctx' where
  values := Value.correspondence_eq
  render := h.render
  render_related v _ hv := hv ▸ h.render v
  delegate target v _ _ hv := hv ▸ h.delegate target v

variable {V : Value → Value → Prop} {targets : Value → Prop} {ctx ctx' : Context} {v w : Value}

theorem related_event (ctx ctx' : Context) (message message' : String)
    (context context' : List (String × String)) :
    Related L (fun _ _ ↦ True) (ctx.event message context) (ctx'.event message' context') := trivial

theorem related_ofBool (passed : Bool) {s t : String} (h : L.texts s t) :
    Related L L.verdicts (pure (.ofBool passed s)) (pure (.ofBool passed t)) :=
  Likeness.verdicts_ofBool passed h

theorem related_fail {s t : String} (h : L.texts s t) :
    Related L L.verdicts (pure (.fail s)) (pure (.fail t)) :=
  Likeness.verdicts_fail h

namespace NumberRule

theorem compare_related (h : ctx.AlikeOn L V targets ctx') (rule : Rule) (hv : V v w) :
    Related L L.verdicts (compare ctx rule v) (compare ctx' rule w) := by
  refine .bind (.liftM _) fun found found' hfound ↦ ?_
  subst hfound
  obtain ⟨mode, expected⟩ := found
  refine .bind (related_event ctx ctx' _ _ _ _) fun _ _ _ ↦ ?_
  have hrender := h.render_related v w hv
  rw [(h.values.lift hv).toQuantity?_eq]
  cases w.toQuantity? with
  | none => exact related_fail (Likeness.texts_around hrender _ _)
  | some q =>
    cases mode with
    | one =>
      refine .liftM_bind _ fun expression ↦ ?_
      exact related_ofBool _ (Likeness.texts_after hrender _)
    | any =>
      cases expected with
      | array candidates =>
        refine .liftM_bind _ fun found ↦ ?_
        exact related_ofBool found (L.texts_append
          (Likeness.texts_around (h.render (.array candidates)) _ _) hrender)
      | null | bool | number | string | object => exact .throw _

end NumberRule

namespace TextRule

theorem compare_related (h : ctx.AlikeOn L V targets ctx') (rule : Rule) (hv : V v w) :
    Related L L.verdicts (compare engine ctx rule v) (compare engine ctx' rule w) := by
  refine .bind (.liftM _) fun found found' hfound ↦ ?_
  subst hfound
  obtain ⟨mode, expected⟩ := found
  refine .bind (related_event ctx ctx' _ _ _ _) fun _ _ _ ↦ ?_
  have hrender := h.render_related v w hv
  rw [(h.values.lift hv).toText?_eq]
  cases w.toText? with
  | none => exact related_fail (Likeness.texts_around hrender _ _)
  | some text =>
    refine .bind (.liftM _) fun passed passed' hpassed ↦ ?_
    subst hpassed
    exact related_ofBool passed (L.texts_append
      (Likeness.texts_around (h.render expected) _ _) hrender)

end TextRule

namespace BooleanRule

theorem compare_related (h : ctx.AlikeOn L V targets ctx') (rule : Rule) (hv : V v w) :
    Related L L.verdicts (compare ctx rule v) (compare ctx' rule w) := by
  refine .bind (.liftM _) fun found found' hfound ↦ ?_
  subst hfound
  obtain ⟨_, expected⟩ := found
  refine .bind (related_event ctx ctx' _ _ _ _) fun _ _ _ ↦ ?_
  rw [(h.values.lift hv).toBool?_eq]
  cases expected.toBool? with
  | none => exact .throw _
  | some e =>
    cases w.toBool? with
    | none => exact related_fail (Likeness.texts_around (h.render_related v w hv) _ _)
    | some a => exact related_ofBool _ (L.texts_refl _)

end BooleanRule

namespace MappingRule

theorem unequal_related (h : ctx.AlikeOn L V targets ctx') (ignoreCase : Bool) (key : String)
    (expected : Value) (hv : V v w) : Related L (Option.Rel L.texts)
      (pure (if v.equalFolded ignoreCase expected then none
        else some ("key '" ++ key ++ "' expected " ++ ctx.render expected ++ " got " ++
          ctx.render v)))
      (pure (if w.equalFolded ignoreCase expected then none
        else some ("key '" ++ key ++ "' expected " ++ ctx'.render expected ++ " got " ++
          ctx'.render w))) := by
  rw [h.values.equalFolded_eq hv]
  cases w.equalFolded ignoreCase expected with
  | true => exact .pure .none
  | false =>
    exact .pure (.some (L.texts_append (Likeness.texts_around (h.render expected) _ _)
      (h.render_related v w hv)))

mutual

theorem mismatch?_related (h : ctx.AlikeOn L V targets ctx') (ignoreCase : Bool) :
    ∀ (expected : List (String × Value)) (xs ys : Fields), xs.Rel V ys →
      (∀ rule, RuleIn expected rule → targets rule) →
      Related L (Option.Rel L.texts) (mismatch? ctx ignoreCase expected xs)
        (mismatch? ctx' ignoreCase expected ys)
  | [], _, _, _, _ => by
    rw [mismatch?, mismatch?]
    exact .pure .none
  | (key, expected) :: rest, xs, ys, hxs, ht => by
    have hkey := hxs key
    rw [mismatch?, mismatch?]
    generalize Fields.get? xs key = x, Fields.get? ys key = y at hkey ⊢
    cases hkey with
    | none => exact .pure (.some (L.texts_refl _))
    | some hv =>
      have hentry := valueMismatch?_related h ignoreCase key expected _ _ hv
        (fun htyped ↦ ht expected (.here List.mem_cons_self htyped))
        (by rintro inner rfl hn rule hr; exact ht rule (.deeper List.mem_cons_self hn hr))
      refine .bind hentry fun r r' hr ↦ ?_
      cases hr with
      | some hreason => exact .pure (.some hreason)
      | none =>
        exact mismatch?_related h ignoreCase rest xs ys hxs fun rule hr ↦ ht rule (hr.cons _)

theorem valueMismatch?_related (h : ctx.AlikeOn L V targets ctx') (ignoreCase : Bool)
    (key : String) : ∀ expected v w : Value, V v w →
      (expected.isTypedRule = true → targets expected) →
      (∀ inner, expected = .object inner → (Value.object inner).isTypedRule = false →
        ∀ rule, RuleIn inner rule → targets rule) →
      Related L (Option.Rel L.texts) (valueMismatch? ctx ignoreCase key expected v)
        (valueMismatch? ctx' ignoreCase key expected w)
  | expected, v, w, hv, ht, hn => by
    have hequal := unequal_related h ignoreCase key expected hv
    rw [valueMismatch?.eq_def, valueMismatch?.eq_def]
    dsimp only
    split
    · rename_i htyped
      refine .bind (h.delegate expected v w (ht htyped) hv) fun verdict verdict' hverdict ↦ ?_
      rw [Likeness.verdicts_passed hverdict]
      cases verdict'.passed with
      | true => exact .pure .none
      | false => exact .pure (.some (Likeness.texts_after hverdict.2 _))
    · rename_i huntyped
      cases h.values.lift hv with
      | object hfields =>
        cases expected with
        | object expectedFields =>
          have hp := hn expectedFields rfl (by simpa using huntyped)
          refine .bind (mismatch?_related h ignoreCase expectedFields _ _ hfields hp)
            fun r r' hr ↦ ?_
          cases hr with
          | some hreason => exact .pure (.some (Likeness.texts_after hreason _))
          | none => exact .pure .none
        | null | bool | number | string | array => exact hequal
      | null | bool | number | string | array => cases expected <;> exact hequal

end

theorem compareFields_related (h : ctx.AlikeOn L V targets ctx') (mode : Mode)
    (ignoreCase : Bool) (expected : Value) (hv : V v w) {xs ys : Fields} (hxs : xs.Rel V ys)
    (ht : ∀ rule, Delegates mode expected rule → targets rule) :
    Related L L.verdicts (compareFields ctx mode ignoreCase expected v xs)
      (compareFields ctx' mode ignoreCase expected w ys) := by
  have hrender := h.render_related v w hv
  have hcontains : xs.contains = ys.contains := funext hxs.contains_eq
  cases mode with
  | entries =>
    refine .bind (.liftM_eq _) fun pattern pattern' hpattern ↦ ?_
    obtain ⟨rfl, hpattern⟩ := hpattern
    obtain rfl := expectedMapping_ok hpattern
    have hentries := mismatch?_related h ignoreCase pattern xs ys hxs
      fun rule hr ↦ ht rule (.entries hr)
    refine .bind hentries fun r r' hr ↦ ?_
    cases hr with
    | none => exact .pure (Likeness.verdicts_refl _)
    | some hreason =>
      exact related_fail (L.texts_append (Likeness.texts_around hreason _ _) hrender)
  | any =>
    refine .bind (.liftM_eq _) fun candidates candidates' hcandidates ↦ ?_
    obtain ⟨rfl, hcandidates⟩ := hcandidates
    obtain rfl := expectedMappings_ok hcandidates
    have hcandidate (candidate : Value) (hmem : candidate ∈ candidates) :
        Related L Eq
          (do return (← mismatch? ctx ignoreCase (← expectedMapping .any candidate) xs).isNone)
          (do
            return (← mismatch? ctx' ignoreCase (← expectedMapping .any candidate) ys).isNone) := by
      refine .bind (.liftM_eq _) fun pattern pattern' hpattern ↦ ?_
      obtain ⟨rfl, hpattern⟩ := hpattern
      obtain rfl := expectedMapping_ok hpattern
      refine .bind (mismatch?_related h ignoreCase pattern xs ys hxs
        fun rule hr ↦ ht rule (.candidate hmem hr)) fun r r' hr ↦ ?_
      cases hr <;> exact .pure rfl
    refine .bind (.anyM (List.forall₂_same.2 hcandidate)) fun found found' hfound ↦ ?_
    subst hfound
    exact related_ofBool found (Likeness.texts_after hrender _)
  | keyAny | keyAll =>
    refine .bind (.liftM _) fun keys keys' hkeys ↦ ?_
    subst hkeys
    rw [hcontains]
    exact related_ofBool _ (L.texts_refl _)

theorem compare_related (h : ctx.AlikeOn L V targets ctx') (rule : Rule) (hv : V v w)
    (ht : ∀ mode expected, rule.select comparator modes = .ok (mode, expected) →
      ∀ target, Delegates mode expected target → targets target) :
    Related L L.verdicts (compare ctx rule v) (compare ctx' rule w) := by
  refine .bind (.liftM_eq _) fun found found' hfound ↦ ?_
  obtain ⟨rfl, hfound⟩ := hfound
  obtain ⟨mode, expected⟩ := found
  refine .bind (related_event ctx ctx' _ _ _ _) fun _ _ _ ↦ ?_
  have hrender := h.render_related v w hv
  cases h.values.lift hv with
  | object hfields =>
    exact compareFields_related h mode rule.ignoreCase expected hv hfields (ht mode expected hfound)
  | null | bool | number | string | array =>
    exact related_fail (Likeness.texts_around hrender _ _)

end MappingRule

namespace SequenceRule

theorem passes_related (h : ctx.AlikeOn L V targets ctx') {rule : Value} (ht : targets rule)
    (hv : V v w) : Related L Eq (passes ctx rule v) (passes ctx' rule w) :=
  .bind (h.delegate rule v w ht hv) fun _ _ hverdict ↦ .pure (Likeness.verdicts_passed hverdict)

theorem passesNumber_related (h : ctx.AlikeOn L V targets ctx') {rule : Value}
    (ht : targets rule) (n : Int) :
    Related L Eq (passesNumber ctx rule n) (passesNumber ctx' rule n) := by
  refine .tryCatch (passes_related h ht (h.values.whole n)) ?_ ?_ ?_
  · rintro e e' ⟨expression, reason, rfl⟩ ⟨expression', reason', rfl⟩
    exact .bind (related_event ctx ctx' _ _ _ _) fun _ _ _ ↦ .pure rfl
  · intro e he
    split
    · exact absurd ⟨_, _, rfl⟩ he
    · rfl
  · intro e he
    split
    · exact absurd ⟨_, _, rfl⟩ he
    · rfl

theorem scalarSatisfies_related (h : ctx.AlikeOn L V targets ctx') (ignoreCase : Bool)
    {pattern : Value} (hv : V v w) (ht : ∀ rule, pattern.nestedRule? = some rule → targets rule) :
    Related L Eq (scalarSatisfies ctx ignoreCase v pattern)
      (scalarSatisfies ctx' ignoreCase w pattern) := by
  unfold scalarSatisfies
  split
  · rename_i rule hrule
    exact passes_related h (ht rule hrule) hv
  · rw [h.values.equalFolded_eq hv]
    exact .pure rfl

theorem elementSatisfies_related (h : ctx.AlikeOn L V targets ctx') {ignoreCase : Bool}
    {patterns : List Value}
    (ht : ∀ target, Delegates ignoreCase (.all patterns) target → targets target)
    {pattern : Value} (hmem : pattern ∈ patterns) (hv : V v w) :
    Related L Eq (elementSatisfies ctx ignoreCase v pattern)
      (elementSatisfies ctx' ignoreCase w pattern) := by
  have hscalar := scalarSatisfies_related h ignoreCase hv
    fun rule hrule ↦ ht rule (.nestedAll hmem hrule)
  have hshape := (h.values.lift hv).shape_rel
  unfold elementSatisfies
  generalize v.shape = shape, w.shape = shape' at hshape ⊢
  cases hshape with
  | whole | other => exact hscalar
  | mapping =>
    cases pattern with
    | object => exact passes_related h (ht _ (.mapping hmem)) hv
    | null | bool | number | string | array => exact .pure rfl

theorem compareSize_related (h : ctx.AlikeOn L V targets ctx') {expression : Value}
    (ht : targets (numberRule "match" expression)) {xs ys : List Value}
    (hxs : List.Forall₂ V xs ys) :
    Related L L.verdicts (compareSize ctx expression xs) (compareSize ctx' expression ys) := by
  unfold compareSize
  rw [hxs.length_eq]
  refine .bind (h.delegate _ _ _ ht (h.values.whole _)) fun verdict verdict' hverdict ↦ ?_
  rw [Likeness.verdicts_passed hverdict]
  exact related_ofBool _ (L.texts_append (Likeness.texts_around (h.render expression) _ _)
    (L.texts_refl _))

/-- A list is compared as a whole only with itself, since the order of its elements comes from
that of their keys. -/
theorem compareExactly_related (h : ctx.AlikeOn L V targets ctx') {expected : List Value}
    (ht : ∀ target, Tries (.exactly expected) target → targets target) (actual : Value)
    (items : List Value) : Related L L.verdicts (compareExactly ctx expected actual items)
      (compareExactly ctx' expected actual items) := by
  cases items with
  | nil =>
    exact .bind (related_event ctx ctx' _ _ _ _) fun _ _ _ ↦
      related_fail (Likeness.texts_around (h.render actual) _ _)
  | cons first rest =>
    have hfirst : Related L Eq (firstSettles ctx expected first)
        (firstSettles ctx' expected first) := by
      unfold firstSettles
      split
      · exact passesNumber_related h (ht _ (.first _ _)) _
      · exact .pure rfl
    rw [compareExactly_cons, compareExactly_cons]
    refine .bind hfirst fun settled settled' hsettled ↦ ?_
    subst hsettled
    cases settled with
    | true => exact .pure (Likeness.verdicts_refl _)
    | false =>
      refine .bind (.liftM _) fun found found' hfound ↦ ?_
      subst hfound
      exact related_ofBool found (Likeness.texts_after (h.render actual) _)

theorem itemSatisfiesAny_related (h : ctx.AlikeOn L V targets ctx') {ignoreCase : Bool}
    {patterns : List Value}
    (ht : ∀ target, Delegates ignoreCase (.any patterns) target ∨ Tries (.any patterns) target →
      targets target) (hv : V v w) :
    Related L Eq (itemSatisfiesAny ctx ignoreCase patterns v)
      (itemSatisfiesAny ctx' ignoreCase patterns w) := by
  have hscalars : Related L Eq (patterns.anyM (scalarSatisfies ctx ignoreCase v))
      (patterns.anyM (scalarSatisfies ctx' ignoreCase w)) :=
    .anyM (List.forall₂_same.2 fun pattern hmem ↦ scalarSatisfies_related h ignoreCase hv
      fun rule hrule ↦ ht rule (.inl (.nestedAny hmem hrule)))
  have hmappings : Related L Eq (mappingsPass ctx ignoreCase patterns v)
      (mappingsPass ctx' ignoreCase patterns w) := by
    unfold mappingsPass
    dsimp only
    split
    · exact .pure rfl
    · exact passes_related h (ht _ (.inl (.mappings patterns))) hv
  have hshape := (h.values.lift hv).shape_rel
  rw [itemSatisfiesAny_eq, itemSatisfiesAny_eq]
  generalize v.shape = shape, w.shape = shape' at hshape ⊢
  cases hshape with
  | other => exact hscalars
  | mapping => exact hmappings
  | whole n =>
    have hnumbers : Related L Eq (expressionsPass ctx patterns n)
        (expressionsPass ctx' patterns n) := by
      unfold expressionsPass
      dsimp only
      split
      · exact .pure rfl
      · exact passesNumber_related h (ht _ (.inr (.expressions patterns))) n
    refine .bind hnumbers fun passed passed' hpassed ↦ ?_
    subst hpassed
    cases passed with
    | true => exact .pure rfl
    | false => exact hscalars

theorem compareAll_related (h : ctx.AlikeOn L V targets ctx') {ignoreCase : Bool} (hv : V v w)
    {xs ys : List Value} (hxs : List.Forall₂ V xs ys) : ∀ patterns : List Value,
      (∀ pattern ∈ patterns, ∀ x y, V x y → Related L Eq
        (elementSatisfies ctx ignoreCase x pattern) (elementSatisfies ctx' ignoreCase y pattern)) →
      Related L L.verdicts (compareAll ctx ignoreCase v xs patterns)
        (compareAll ctx' ignoreCase w ys patterns)
  | [], _ => .pure (Likeness.verdicts_refl _)
  | pattern :: rest, hpatterns => by
    have hfound : Related L Eq (xs.anyM (elementSatisfies ctx ignoreCase · pattern))
        (ys.anyM (elementSatisfies ctx' ignoreCase · pattern)) :=
      .anyM (hxs.imp (hpatterns pattern List.mem_cons_self))
    refine .bind hfound fun found found' hfound ↦ ?_
    subst hfound
    cases found with
    | true =>
      exact compareAll_related h hv hxs rest
        fun other hmem ↦ hpatterns other (List.mem_cons_of_mem pattern hmem)
    | false =>
      exact related_fail (L.texts_append (Likeness.texts_around (h.render pattern) _ _)
        (h.render_related v w hv))

theorem hits_eq (hV : Value.Correspondence V) (hv : V v w) (key : String) (arg : Fields) :
    hits key v arg = hits key w arg := by
  cases hV.lift hv with
  | null | bool | number | string | array => rfl
  | @object xs ys hfields =>
    have hkey := hfields key
    rw [hits_object, hits_object]
    generalize Fields.get? xs key = x, Fields.get? ys key = y at hkey ⊢
    cases hkey with
    | none => rfl
    | some hvalue =>
      have hequal : Value.equal _ = Value.equal _ := funext (hV.equal hvalue)
      rw [Option.any_some, Option.any_some, hequal]

theorem keyedPairs_related {R : Value → Value → Prop} {key : String} {args : List Fields}
    {xs ys : List Value} (hxs : List.Forall₂ R xs ys)
    (hhits : ∀ v w, R v w → ∀ arg ∈ args, hits key v arg = hits key w arg) :
    List.Forall₂ (fun p q ↦ R p.1 q.1 ∧ p.2 = q.2 ∧ p.2 ∈ args) (keyedPairs key args xs)
      (keyedPairs key args ys) := by
  rw [keyedPairs_eq, keyedPairs_eq]
  refine List.rel_flatMap hxs fun v w hv ↦ ?_
  rw [List.filter_congr (hhits v w hv), List.forall₂_map_left_iff, List.forall₂_map_right_iff]
  exact List.forall₂_same.2 fun arg harg ↦ ⟨hv, rfl, (List.mem_filter.1 harg).1⟩

def PairsAlike (L : Likeness) (ctx ctx' : Context) (ignoreCase : Bool)
    (p q : Value × Fields) : Prop :=
  Related L L.verdicts (ctx.delegate (mappingRule "match" (.object p.2) ignoreCase) p.1)
    (ctx'.delegate (mappingRule "match" (.object q.2) ignoreCase) q.1)

theorem scanPairs_related {ignoreCase : Bool} {ps qs : List (Value × Fields)}
    (h : List.Forall₂ (PairsAlike L ctx ctx' ignoreCase) ps qs) (mismatched : Bool) :
    Related L Eq (scanPairs ctx ignoreCase mismatched ps)
      (scanPairs ctx' ignoreCase mismatched qs) := by
  induction h generalizing mismatched with
  | nil => exact .pure rfl
  | cons hpair _ ih =>
    refine .bind hpair fun verdict verdict' hverdict ↦ ?_
    rw [hverdict.1]
    cases verdict'.outcome with
    | passed => exact .pure rfl
    | failed => exact ih true
    | notApplicable => exact ih mismatched

theorem compareKeyed_related {ignoreCase : Bool} {key : String} {args : List Fields}
    {xs ys : List Value} (hrender : L.texts (ctx.render v) (ctx'.render w))
    (h : List.Forall₂ (PairsAlike L ctx ctx' ignoreCase) (keyedPairs key args xs)
      (keyedPairs key args ys)) :
    Related L L.verdicts (compareKeyed ctx ignoreCase key args v xs)
      (compareKeyed ctx' ignoreCase key args w ys) := by
  refine .bind (scanPairs_related h false) fun outcome outcome' houtcome ↦ ?_
  subst houtcome
  cases outcome with
  | passed => exact .pure (Likeness.verdicts_refl _)
  | failed => exact related_fail (Likeness.texts_after hrender _)
  | notApplicable => exact .pure (Likeness.verdicts_refl _)

theorem keep_related (h : ctx.AlikeOn L V targets ctx') {rule : Value} (ht : targets rule)
    {xs ys : List Value} (hxs : List.Forall₂ V xs ys) :
    Related L (List.Forall₂ V) (keep ctx rule xs) (keep ctx' rule ys) := by
  induction hxs with
  | nil => exact .pure .nil
  | cons hv _ ih =>
    refine .bind (passes_related h ht hv) fun passed passed' hpassed ↦ ?_
    subst hpassed
    refine .bind ih fun kept kept' hkept ↦ ?_
    cases passed with
    | true => exact .pure (.cons hv hkept)
    | false => exact .pure hkept

theorem compareItems_related (h : ctx.AlikeOn L V targets ctx') {ignoreCase : Bool}
    {rule : ListRule} (ht : ∀ target, Delegates ignoreCase rule target ∨ Tries rule target →
      targets target) (hv : V v w) {xs ys : List Value} (hxs : List.Forall₂ V xs ys)
    (hexactly : ∀ expected, rule = .exactly expected → v = w ∧ xs = ys) :
    Related L L.verdicts (compareItems ctx rule ignoreCase v xs)
      (compareItems ctx' rule ignoreCase w ys) := by
  have hrender := h.render_related v w hv
  cases rule with
  | size expression => exact compareSize_related h (ht _ (.inl (.length expression))) hxs
  | exactly expected =>
    obtain ⟨rfl, rfl⟩ := hexactly expected rfl
    exact compareExactly_related h (fun target htries ↦ ht target (.inr htries)) v xs
  | any patterns =>
    refine .bind (.anyM (hxs.imp fun _ _ hx ↦ itemSatisfiesAny_related h ht hx))
      fun found found' hfound ↦ ?_
    subst hfound
    exact related_ofBool found (Likeness.texts_after hrender _)
  | all patterns =>
    exact compareAll_related h hv hxs patterns fun pattern hmem _ _ hx ↦
      elementSatisfies_related h (fun target hd ↦ ht target (.inl hd)) hmem hx
  | keyed key args =>
    have hhits (x y : Value) (hx : V x y) (arg : Fields) (_ : arg ∈ args) :
        hits key x arg = hits key y arg := hits_eq h.values hx key arg
    refine compareKeyed_related hrender ((keyedPairs_related hxs hhits).imp ?_)
    rintro ⟨item, arg⟩ ⟨item', _⟩ ⟨hitem, rfl, harg⟩
    exact h.delegate _ item item' (ht _ (.inl (.argument harg))) hitem
  | filtered filter rule =>
    have hkeep := keep_related h (ht _ (.inl (.filter filter rule))) hxs
    refine .bind hkeep fun kept kept' hkept ↦ ?_
    exact .bind (related_event ctx ctx' _ _ _ _) fun _ _ _ ↦
      h.delegate _ _ _ (ht _ (.inl (.inner filter rule))) (h.values.array hkept)

theorem compare_related (h : ctx.AlikeOn L V targets ctx') {rule : Rule} (hv : V v w)
    (ht : ∀ parsed, ListRule.parse rule = .ok parsed → ∀ target,
      Delegates rule.ignoreCase parsed target ∨ Tries parsed target → targets target)
    (hexactly : ∀ expected, ListRule.parse rule = .ok (.exactly expected) → v = w) :
    Related L L.verdicts (compare ctx rule v) (compare ctx' rule w) := by
  refine .bind (.liftM_eq _) fun parsed parsed' hparsed ↦ ?_
  obtain ⟨rfl, hparsed⟩ := hparsed
  refine .bind (related_event ctx ctx' _ _ _ _) fun _ _ _ ↦ ?_
  have hrender := h.render_related v w hv
  cases h.values.lift hv with
  | array hitems =>
    refine compareItems_related h (ht parsed hparsed) hv hitems fun expected hrule ↦ ?_
    obtain heq := hexactly expected (hrule ▸ hparsed)
    exact ⟨heq, Value.array.inj heq⟩
  | null | bool | number | string | object =>
    exact .bind (related_event ctx ctx' _ _ _ _) fun _ _ _ ↦
      related_fail (Likeness.texts_around hrender _ _)

end SequenceRule

/-- Every built-in comparator answers alike in alike contexts. -/
theorem builtin_respects {c : Comparator} (hc : c ∈ Registry.builtin engine) : c.Respects L := by
  intro ctx ctx' h rule v
  have hon := h.on fun _ ↦ True
  rcases Registry.mem_builtin.1 hc with rfl | rfl | rfl | rfl | rfl
  · exact NumberRule.compare_related hon rule rfl
  · exact TextRule.compare_related hon rule rfl
  · exact BooleanRule.compare_related hon rule rfl
  · exact MappingRule.compare_related hon rule rfl fun _ _ _ _ _ ↦ trivial
  · exact SequenceRule.compare_related hon rfl (fun _ _ _ _ ↦ trivial) fun _ _ ↦ rfl

theorem builtin_respectsAt {c : Comparator} (hc : c ∈ Registry.builtin engine) : c.RespectsAt L :=
  fun _ h ↦ builtin_respects hc h

end AuditRules
