import AuditRules.Proofs.Comparator.Satisfies
import AuditRules.Proofs.Evaluation.Compatible
import AuditRules.Proofs.Registry.Satisfies

namespace AuditRules

open Evaluation (Compatible)

variable {engine : PatternEngine}

theorem exists_perm_cons {α : Type} {a : α} {xs : List α} (h : a ∈ xs) :
    ∃ rest, (a :: rest).Perm xs := by
  obtain ⟨before, after, rfl⟩ := List.append_of_mem h
  exact ⟨before ++ after, List.perm_middle.symm⟩

namespace SequenceRule

variable {ctx : Context} {ignoreCase : Bool} {item : Value}

/-- What the first entry of a mapping pattern makes of an element that is no mapping: only a rule
takes any. -/
def entryTakes (ctx : Context) (item : Value) (entry : String × Value) : Evaluation Bool :=
  if entry.2.isTypedRule then passes ctx entry.2 item else pure false

theorem scalarSatisfies_cons (entry : String × Value) (rest : Fields) :
    scalarSatisfies ctx ignoreCase item (.object (entry :: rest)) = entryTakes ctx item entry := by
  obtain ⟨key, inner⟩ := entry
  unfold scalarSatisfies entryTakes
  cases h : inner.isTypedRule <;> simp [Value.nestedRule?, h, Value.isObject, Value.toObject?]

def Interchangeable (ctx : Context) (entries : Fields) : Prop :=
  ∀ item : Value, item.isObject = false → ∀ e ∈ entries, ∀ e' ∈ entries,
    Compatible Eq (entryTakes ctx item e) (entryTakes ctx item e')

theorem interchangeable_of_untyped {entries : Fields}
    (h : ∀ entry ∈ entries, entry.2.isTypedRule = false) : Interchangeable ctx entries := by
  intro item _ e he e' he'
  simp only [entryTakes, h e he, h e' he']
  exact .refl _

theorem scalarSatisfies_compatible {entries first second : Fields}
    (h : Interchangeable ctx entries) (hfirst : first.Perm entries)
    (hsecond : second.Perm entries) (hitem : item.isObject = false) :
    Compatible Eq (scalarSatisfies ctx ignoreCase item (.object first))
      (scalarSatisfies ctx ignoreCase item (.object second)) := by
  have hperm : first.Perm second := hfirst.trans hsecond.symm
  cases first with
  | nil =>
    obtain rfl := hperm.nil_eq
    exact .refl _
  | cons e rest =>
    cases second with
    | nil => cases hperm.eq_nil
    | cons e' rest' =>
      rw [scalarSatisfies_cons, scalarSatisfies_cons]
      have he := hfirst.mem_iff.1 List.mem_cons_self
      have he' := hsecond.mem_iff.1 List.mem_cons_self
      exact h item hitem e he e' he'

def SwapsPattern (first second : Fields) (p q : Value) : Prop :=
  p = q ∨ p = .object first ∧ q = .object second

theorem forall₂_swapsPattern (before after : List Value) (first second : Fields) :
    List.Forall₂ (SwapsPattern first second) (before ++ .object first :: after)
      (before ++ .object second :: after) := by
  have hsame (patterns : List Value) : List.Forall₂ (SwapsPattern first second) patterns patterns :=
    List.forall₂_same.2 fun _ _ ↦ .inl rfl
  exact List.rel_append (hsame before) (.cons (.inr ⟨rfl, rfl⟩) (hsame after))

theorem scalarSatisfies_swapped {entries first second : Fields} (h : Interchangeable ctx entries)
    (hfirst : first.Perm entries) (hsecond : second.Perm entries) (hitem : item.isObject = false)
    {p q : Value} (hpq : SwapsPattern first second p q) :
    Compatible Eq (scalarSatisfies ctx ignoreCase item p)
      (scalarSatisfies ctx ignoreCase item q) := by
  rcases hpq with rfl | ⟨rfl, rfl⟩
  · exact .refl _
  · exact scalarSatisfies_compatible h hfirst hsecond hitem

theorem filter_expressions_swapped {first second : Fields} {ps qs : List Value}
    (h : List.Forall₂ (SwapsPattern first second) ps qs) :
    (ps.filter fun p ↦ (NumberExpression.parse p).isOk) =
      qs.filter fun p ↦ (NumberExpression.parse p).isOk := by
  induction h with
  | nil => rfl
  | cons hpq _ ih =>
    rcases hpq with rfl | ⟨rfl, rfl⟩
    · rw [List.filter_cons, List.filter_cons, ih]
    · exact ih

theorem itemSatisfiesAny_swapped {first second : Fields} {ps qs : List Value}
    (hpatterns : List.Forall₂ (SwapsPattern first second) ps qs)
    (h : ∀ p q, SwapsPattern first second p q → Compatible Eq
      (scalarSatisfies ctx ignoreCase item p) (scalarSatisfies ctx ignoreCase item q))
    (hitem : item.isObject = false) :
    Compatible Eq (itemSatisfiesAny ctx ignoreCase ps item)
      (itemSatisfiesAny ctx ignoreCase qs item) := by
  have hscalars : Compatible Eq (ps.anyM (scalarSatisfies ctx ignoreCase item))
      (qs.anyM (scalarSatisfies ctx ignoreCase item)) :=
    .anyM (hpatterns.imp h)
  rw [itemSatisfiesAny_eq, itemSatisfiesAny_eq]
  cases hshape : item.shape with
  | mapping fields =>
    obtain rfl := eq_object_of_shape hshape
    cases hitem
  | other => exact hscalars
  | whole n =>
    have hexpressions : expressionsPass ctx ps n = expressionsPass ctx qs n := by
      simp only [expressionsPass, filter_expressions_swapped hpatterns]
    have hnumbers : Compatible Eq (expressionsPass ctx ps n) (expressionsPass ctx qs n) := by
      rw [hexpressions]
      exact .refl _
    refine .bind hnumbers ?_
    rintro passed _ rfl
    cases passed with
    | true => exact .refl _
    | false => exact hscalars

theorem elementSatisfies_scalar (hitem : item.isObject = false) (pattern : Value) :
    elementSatisfies ctx ignoreCase item pattern = scalarSatisfies ctx ignoreCase item pattern := by
  unfold elementSatisfies
  cases hshape : item.shape with
  | mapping fields =>
    obtain rfl := eq_object_of_shape hshape
    cases hitem
  | whole | other => rfl

theorem compareAll_swapped {first second : Fields} {ps qs items : List Value} (actual : Value)
    (hpatterns : List.Forall₂ (SwapsPattern first second) ps qs)
    (h : ∀ item ∈ items, ∀ p q, SwapsPattern first second p q → Compatible Eq
      (scalarSatisfies ctx ignoreCase item p) (scalarSatisfies ctx ignoreCase item q))
    (hitems : ∀ item ∈ items, item.isObject = false) :
    Compatible (fun v w ↦ v.outcome = w.outcome) (compareAll ctx ignoreCase actual items ps)
      (compareAll ctx ignoreCase actual items qs) := by
  induction hpatterns with
  | nil => exact .pure rfl
  | @cons p q _ _ hpq _ ih =>
    have hsearch : Compatible Eq (items.anyM (elementSatisfies ctx ignoreCase · p))
        (items.anyM (elementSatisfies ctx ignoreCase · q)) := by
      apply Compatible.anyM
      apply List.forall₂_same.2
      intro item hitem
      rw [elementSatisfies_scalar (hitems item hitem), elementSatisfies_scalar (hitems item hitem)]
      exact h item hitem p q hpq
    refine .bind hsearch ?_
    rintro found _ rfl
    cases found with
    | true => exact ih
    | false => exact .pure rfl

theorem compareAny_swapped {first second : Fields} {ps qs items : List Value} (actual : Value)
    (hpatterns : List.Forall₂ (SwapsPattern first second) ps qs)
    (h : ∀ item ∈ items, ∀ p q, SwapsPattern first second p q → Compatible Eq
      (scalarSatisfies ctx ignoreCase item p) (scalarSatisfies ctx ignoreCase item q))
    (hitems : ∀ item ∈ items, item.isObject = false) :
    Compatible (fun v w ↦ v.outcome = w.outcome) (compareAny ctx ignoreCase ps actual items)
      (compareAny ctx ignoreCase qs actual items) := by
  have hsearch : Compatible Eq (items.anyM (itemSatisfiesAny ctx ignoreCase ps))
      (items.anyM (itemSatisfiesAny ctx ignoreCase qs)) := by
    apply Compatible.anyM
    apply List.forall₂_same.2
    intro item hitem
    exact itemSatisfiesAny_swapped hpatterns (h item hitem) (hitems item hitem)
  refine .bind hsearch ?_
  rintro found _ rfl
  exact .pure rfl

theorem compareAll_single {actual pattern : Value} {met : Bool}
    (h : (elementSatisfies ctx ignoreCase item pattern).result = .ok met) :
    ∃ v, (compareAll ctx ignoreCase actual [item] [pattern]).result = .ok v ∧
      v.outcome = if met then .passed else .failed := by
  have hsearch : ([item].anyM (elementSatisfies ctx ignoreCase · pattern)).result = .ok met := by
    refine (Evaluation.result_bind_ok h _).trans ?_
    cases met <;> rfl
  have hcompare := Evaluation.result_bind_ok hsearch fun found ↦
    if found then compareAll ctx ignoreCase actual [item] []
    else return .fail (unmetMessage ctx.renderLimit actual pattern)
  cases met with
  | true => exact ⟨.checkPassed, hcompare, rfl⟩
  | false => exact ⟨.fail _, hcompare, rfl⟩

end SequenceRule

namespace Registry

open SequenceRule

variable {limits : Limits} {checkId : String}

def Searches (fields : Fields) (mode : String) (patterns : List Value) : Prop :=
  fields.Asks .sequence mode (.array patterns) ∧ (mode = "match_any" ∨ mode = "match_all")

/-- Two rules that differ in the order of the entries of a mapping pattern have the same outcome on
elements that are no mappings, wherever both have one. -/
def OrderFree (engine : PatternEngine) (limits : Limits) (checkId : String) (entries : Fields) :
    Prop :=
  ∀ (mode : String) (rule rule' : Fields) (before after : List Value) (first second : Fields),
    first.Perm entries → second.Perm entries →
    Searches rule mode (before ++ .object first :: after) →
    Searches rule' mode (before ++ .object second :: after) →
    (Rule.mk rule').ignoreCase = (Rule.mk rule).ignoreCase →
    ∀ items : List Value, (∀ item ∈ items, item.isObject = false) →
      Compatible (fun v w ↦ v.outcome = w.outcome)
        ((builtins engine limits).run checkId (.object rule) (.array items))
        ((builtins engine limits).run checkId (.object rule') (.array items))

theorem orderFree_of_interchangeable {entries : Fields}
    (h : Interchangeable ((builtins engine limits).context checkId limits.nesting) entries) :
    OrderFree engine limits checkId entries := by
  rintro mode rule rule' before after first second hfirst hsecond ⟨hrule, hmode⟩ ⟨hrule', -⟩ hcase
    items hitems v w hv hw
  have hpatterns := forall₂_swapsPattern before after first second
  have hscalars : ∀ item ∈ items, ∀ p q, SwapsPattern first second p q → Compatible Eq
      (scalarSatisfies ((builtins engine limits).context checkId limits.nesting)
        (Rule.mk rule).ignoreCase item p)
      (scalarSatisfies ((builtins engine limits).context checkId limits.nesting)
        (Rule.mk rule).ignoreCase item q) :=
    fun item hitem p q hpq ↦ scalarSatisfies_swapped h hfirst hsecond (hitems item hitem) hpq
  rcases hmode with rfl | rfl
  · rw [run_result, evaluate_array hrule (parse_any hrule)] at hv
    rw [run_result, evaluate_array hrule' (parse_any hrule'), hcase] at hw
    exact compareAny_swapped (.array items) hpatterns hscalars hitems v w hv hw
  · rw [run_result, evaluate_array hrule (parse_all hrule)] at hv
    rw [run_result, evaluate_array hrule' (parse_all hrule'), hcase] at hw
    exact compareAll_swapped (.array items) hpatterns hscalars hitems v w hv hw

def entriesRule (entries : Fields) : Fields :=
  [(Rule.typeKey, .string "list"), ("match_all", .array [.object entries])]

theorem entriesRule_asks (entries : Fields) :
    (entriesRule entries).Asks .sequence "match_all" (.array [.object entries]) :=
  Fields.asks_written (by decide) (by decide) (by decide) _

theorem run_entriesRule {item : Value} {entry : String × Value} {rest : Fields} {taken : Bool}
    (hitem : item.isObject = false)
    (h : (entryTakes ((builtins engine limits).context checkId limits.nesting) item entry).result =
      .ok taken) :
    ∃ v, ((builtins engine limits).run checkId (.object (entriesRule (entry :: rest)))
      (.array [item])).result = .ok v ∧ v.outcome = if taken then .passed else .failed := by
  have hasks := entriesRule_asks (entry :: rest)
  rw [run_result, evaluate_array hasks (parse_all hasks)]
  apply compareAll_single
  rw [elementSatisfies_scalar hitem, scalarSatisfies_cons]
  exact h

theorem interchangeable_of_orderFree {entries : Fields}
    (h : OrderFree engine limits checkId entries) :
    Interchangeable ((builtins engine limits).context checkId limits.nesting) entries := by
  intro item hitem e he e' he' taken taken' htaken htaken'
  -- Either entry can be written first, and then decides about a list of just this element.
  obtain ⟨rest, hrest⟩ := exists_perm_cons he
  obtain ⟨rest', hrest'⟩ := exists_perm_cons he'
  obtain ⟨v, hv, hpassed⟩ := run_entriesRule hitem htaken
  obtain ⟨v', hv', hpassed'⟩ := run_entriesRule hitem htaken'
  have hsame : v.outcome = v'.outcome :=
    h "match_all" _ _ [] [] (e :: rest) (e' :: rest') hrest hrest'
      ⟨entriesRule_asks (e :: rest), .inr rfl⟩ ⟨entriesRule_asks (e' :: rest'), .inr rfl⟩ rfl [item]
      (by simpa using hitem) v v' hv hv'
  rw [hpassed, hpassed'] at hsame
  cases taken <;> cases taken' <;> simp at hsame ⊢

/-- The order in which the entries of a mapping pattern are written plays no part for elements that
are no mappings just where any two entries take the same ones. -/
theorem orderFree_iff (limits : Limits) (checkId : String) (entries : Fields) :
    OrderFree engine limits checkId entries ↔
      Interchangeable ((builtins engine limits).context checkId limits.nesting) entries :=
  ⟨interchangeable_of_orderFree, orderFree_of_interchangeable⟩

theorem orderFree_mount :
    OrderFree Pattern.engine .default "check"
      [("path", .string "/tmp"), ("fstype", .string "tmpfs")] := by
  apply (orderFree_iff .default "check" _).2
  apply interchangeable_of_untyped
  decide

def owner : Fields :=
  [("user", .object [(Rule.typeKey, .string "string"), ("match", .string "root")]),
    ("group", .string "wheel")]

def anyOwner (pattern : Fields) : Value :=
  .object [(Rule.typeKey, .string "list"), ("match_any", .array [.object pattern])]

theorem run_owner_reverse : owner.reverse.Perm owner ∧
    ((builtins Pattern.engine .default).run "check" (anyOwner owner)
      (.array [.string "root"])).result = .ok .checkPassed ∧
    ((builtins Pattern.engine .default).run "check" (anyOwner owner.reverse)
      (.array [.string "root"])).result = .ok (.fail "list::match_any failure. Got=[\"root\"]") :=
  ⟨List.reverse_perm _, rfl, rfl⟩

end Registry

end AuditRules
