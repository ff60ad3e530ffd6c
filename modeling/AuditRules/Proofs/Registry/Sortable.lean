import AuditRules.Proofs.Comparator.Exactly
import AuditRules.Proofs.Registry.Nesting
import AuditRules.Proofs.Registry.WellFormed
import AuditRules.Proofs.Value.Equality

namespace AuditRules

open Evaluation (ErrsOnly)

variable {engine : PatternEngine} {S : Number → Prop}

namespace Value

/-- Values over a set of numbers, and any integer, as the length of a list may be. -/
def Data (S : Number → Prop) (v : Value) : Prop := v.Over S ∨ ∃ n : Int, v = .ofInt n

theorem Data.over {items : List Value} (h : Data S (.array items)) : (array items).Over S := by
  rcases h with h | ⟨n, h⟩
  · exact h
  · cases h

theorem isHereditary_data : IsHereditary (Data S) where
  integer n := .inr ⟨n, rfl⟩
  element h hv := .inl (h.over.item hv)
  kept h hkept := .inl (.array fun v hv ↦ h.over.item (hkept v hv))
  entry h hv := by
    rcases h with h | ⟨n, h⟩
    · exact .inl (h.entry hv)
    · cases h

end Value

namespace MappingRule

theorem RuleIn.over {pattern : Fields} {rule : Value} (h : RuleIn pattern rule)
    (hpattern : (Value.object pattern).Over S) : rule.Over S := by
  induction h with
  | here h _ => exact hpattern.entry h
  | deeper h _ _ ih => exact ih (hpattern.entry h)

theorem Delegates.over {mode : Mode} {expected rule : Value} (h : Delegates mode expected rule)
    (hexpected : expected.Over S) : rule.Over S := by
  cases h with
  | entries h => exact h.over hexpected
  | candidate hmem h => exact h.over (hexpected.item hmem)

end MappingRule

namespace SequenceRule

theorem tagged_over {tag mode : String} (hmode : Rule.typeKey ≠ mode) {v : Value} (h : v.Over S) :
    (Value.object [(Rule.typeKey, .string tag), (mode, v)]).Over S := by
  refine .object (by simpa [Fields.keys] using hmode) ?_
  simp only [List.forall_mem_cons]
  exact ⟨.string tag, h, List.forall_mem_nil _⟩

theorem mappingRule_over {mode : String} (hmode : mode ∈ Comparator.mapping.modes) {v : Value}
    (h : v.Over S) (ignoreCase : Bool) : (mappingRule mode v ignoreCase).Over S := by
  have hkeys : [Rule.typeKey, mode, Rule.ignoreCaseKey].Nodup := by
    revert mode
    decide
  refine .object hkeys ?_
  simp only [List.forall_mem_cons]
  exact ⟨.string _, h, .bool _, List.forall_mem_nil _⟩

theorem innerRule_over {rule : Fields} (h : (Value.object rule).Over S) :
    (innerRule rule).Over S := by
  refine .object (Fields.nodup_insertAll (by simp [Fields.keys]) rule) fun entry hentry ↦ ?_
  rcases Fields.mem_insertAll hentry with hentry | hentry
  · obtain rfl := List.mem_singleton.1 hentry
    exact .string _
  · exact h.entry hentry

theorem nestedRule_over {pattern rule : Value} (h : pattern.Over S)
    (hrule : pattern.nestedRule? = some rule) : rule.Over S := by
  obtain ⟨key, rest, rfl, -⟩ := Value.nestedRule?_eq_some hrule
  exact h.entry List.mem_cons_self

theorem Delegates.over {ignoreCase : Bool} {payload target : Value} {rule : ListRule}
    (h : Delegates ignoreCase rule target) (hw : ListRule.Written payload rule)
    (hpayload : payload.Over S) : target.Over S := by
  cases h with
  | length expression =>
    cases hw
    exact tagged_over (by decide) hpayload
  | mappings patterns =>
    cases hw
    exact mappingRule_over (by decide)
      (.array fun v hv ↦ hpayload.item (List.mem_filter.1 hv).1) ignoreCase
  | nestedAny hmem hrule =>
    cases hw
    exact nestedRule_over (hpayload.item hmem) hrule
  | mapping hmem =>
    cases hw
    exact mappingRule_over (by decide) (hpayload.item hmem) ignoreCase
  | nestedAll hmem hrule =>
    cases hw
    exact nestedRule_over (hpayload.item hmem) hrule
  | argument hmem =>
    cases hw with
    | keyed _ hargs =>
      have hentry := hpayload.entry (Fields.mem_of_get? hargs)
      exact mappingRule_over (by decide) (hentry.item (List.mem_map_of_mem hmem)) ignoreCase
  | filter filter rule =>
    cases hw with
    | filtered hfilter _ =>
      exact tagged_over (by decide) (hpayload.entry (Fields.mem_of_get? hfilter))
  | inner filter rule =>
    cases hw with
    | filtered _ hcompare => exact innerRule_over (hpayload.entry (Fields.mem_of_get? hcompare))

theorem Tries.over {payload target : Value} {rule : ListRule} (h : Tries rule target)
    (hw : ListRule.Written payload rule) (hpayload : payload.Over S) : target.Over S := by
  cases h with
  | first expression rest =>
    cases hw
    exact tagged_over (by decide) (hpayload.item List.mem_cons_self)
  | expressions patterns =>
    cases hw
    exact tagged_over (by decide)
      (.array fun v hv ↦ hpayload.item (List.mem_filter.1 hv).1)

/-- Lists over sortable numbers can be sorted. -/
theorem equalSorted_answered (hS : ∀ n, S n → n.IsJson) (hsort : Number.Sortable S)
    (key : Option String) {items expected : List Value} (hitems : (Value.array items).Over S)
    (hexpected : (Value.array expected).Over S) :
    ∃ found, equalSorted key items expected = .ok found := by
  let place (n : Number) : Int × Int := (n.quanta, Number.tie S n)
  have hplace : Places S place := fun a b ha hb ↦ Number.order_eq hsort hS ha hb
  have hsorted {xs : List Value} (h : (Value.array xs).Over S) :=
    sortItems_ok (.inr (isOrderOn_of_places hplace key fun _ hv ↦ h.item hv))
  exact ⟨_, equalSorted_ok (hsorted hitems) (hsorted hexpected)⟩

end SequenceRule

namespace Registry

open SequenceRule

theorem Delegates.over {spec target : Value} (h : Delegates spec target) (hspec : spec.Over S) :
    target.Over S := by
  cases h with
  | mapping _ _ hmode h =>
    obtain ⟨key, -, hkey⟩ := Rule.select_ok hmode
    exact h.over (hspec.entry (Fields.mem_of_get? hkey))
  | sequence _ _ hrule h =>
    obtain ⟨payload, hpayload, hwritten⟩ := SequenceRule.parse_ok hrule
    have hover := hspec.entry (Fields.mem_of_get? hpayload)
    rcases h with h | h
    · exact h.over hwritten hover
    · exact h.over hwritten hover

theorem parse_exactly_over {fields : Fields} {expected : List Value}
    (h : ListRule.parse ⟨fields⟩ = .ok (.exactly expected)) (hspec : (Value.object fields).Over S) :
    (Value.array expected).Over S := by
  obtain ⟨payload, hpayload, hwritten⟩ := SequenceRule.parse_ok h
  cases hwritten
  exact hspec.entry (Fields.mem_of_get? hpayload)

/-- One step: the lists that a rule compares can be sorted, so it ends the program only if a rule
that it delegates does. -/
theorem evaluate_not_aborted_step (hS : ∀ n, S n → n.IsJson) (hsort : Number.Sortable S)
    {limits : Limits} {checkId : String} {n : Nat} {spec actual : Value} (hspec : spec.Over S)
    (hactual : Value.Data S actual)
    (h : ∀ target v, Delegates spec target → Value.Data S v →
      ErrsOnly (· ≠ .aborted) ((builtins engine limits).delegated checkId n target v)) :
    ErrsOnly (· ≠ .aborted) ((builtins engine limits).evaluate checkId n spec actual) := by
  refine evaluate_errsOnly (fun _ he ↦ he.2) Value.isHereditary_data h ?_ hactual
  rintro fields expected items key rfl hparse hitems e he
  obtain ⟨found, hfound⟩ := equalSorted_answered hS hsort key hitems.over
    (parse_exactly_over hparse hspec)
  cases hfound.symm.trans he

/-- A whole run: on sortable numbers no rule ends the program, however it is formed. -/
theorem evaluate_not_aborted (engine : PatternEngine) (limits : Limits) (checkId : String)
    (hS : ∀ n, S n → n.IsJson) (hsort : Number.Sortable S) (n : Nat)
    {spec actual : Value} (hspec : spec.Over S) (hactual : Value.Data S actual) :
    ErrsOnly (· ≠ .aborted) ((builtins engine limits).evaluate checkId n spec actual) := by
  induction n generalizing spec actual with
  | zero =>
    exact evaluate_not_aborted_step hS hsort hspec hactual fun target v _ _ ↦
      Evaluation.Ensures.of_error rfl nofun
  | succ n ih =>
    exact evaluate_not_aborted_step hS hsort hspec hactual fun target v ht hv ↦
      ih (ht.over hspec) hv

/-- Well-formed rules over a set of numbers have a verdict on all values over it, unless they nest
more deeply than the limit allows. -/
def WellFormedAnswered (engine : PatternEngine) (limits : Limits) (S : Number → Prop) : Prop :=
  ∀ (checkId : String) (spec actual : Value), WellFormedRule engine spec → spec.Over S →
    actual.Over S →
    (∃ verdict, ((builtins engine limits).run checkId spec actual).result = .ok verdict) ∨
      ((builtins engine limits).run checkId spec actual).result =
        .error (.nestingTooDeep checkId limits.nesting)

variable {limits : Limits}

theorem WellFormedAnswered.of_sortable (hS : ∀ n, S n → n.IsJson) (hsort : Number.Sortable S) :
    WellFormedAnswered engine limits S := by
  intro checkId spec actual h hspec hactual
  rcases run_wellFormedRule limits checkId h actual with hverdict | hdeep | haborted
  · exact .inl hverdict
  · exact .inr hdeep
  · have hrun := evaluate_not_aborted engine limits checkId hS hsort limits.nesting
      hspec (.inl hactual)
    exact absurd rfl (hrun.allows haborted)

def unsortable (a b c : Number) : List Value :=
  .string "a" :: .number a :: (List.replicate 9 (.number c) ++ List.replicate 11 (.number b))

theorem mem_unsortable {a b c : Number} {v : Value} (h : v ∈ unsortable a b c) :
    v = .string "a" ∨ v = .number a ∨ v = .number c ∨ v = .number b := by
  simp only [unsortable, List.mem_cons, List.mem_append] at h
  exact h.imp_right (Or.imp_right (Or.imp List.eq_of_mem_replicate List.eq_of_mem_replicate))

theorem unsortable_over {a b c : Number} (ha : S a) (hb : S b) (hc : S c) :
    (Value.array (unsortable a b c)).Over S := by
  refine .array fun v hv ↦ ?_
  rcases mem_unsortable hv with rfl | rfl | rfl | rfl
  · exact .string _
  · exact .number ha
  · exact .number hc
  · exact .number hb

/-- A number that ties with two others keeps these from being sorted. -/
theorem sortItems_unsortable {a b c : Number} (hac : a.order c = .eq) (hcb : c.order b = .eq)
    (hab : a.order b = .gt) :
    SequenceRule.sortItems none (unsortable a b c) = .error .aborted := by
  have horder : ¬ IsOrderOn (elementOrder none) (unsortable a b c) := by
    intro h
    have hle : (a.order c).isLE → (c.order b).isLE → (a.order b).isLE :=
      h.trans (.number a) (by simp [unsortable]) (.number c) (by simp [unsortable])
        (.number b) (by simp [unsortable])
    rw [hac, hcb, hab] at hle
    exact absurd (hle rfl rfl) (by decide)
  have hlength : ¬ (unsortable a b c).length ≤ 20 := by simp [unsortable]
  rw [SequenceRule.sortItems, sortBy, if_neg (not_or.2 ⟨hlength, horder⟩)]

theorem run_unsortable {a b c : Number} (hac : a.order c = .eq) (hcb : c.order b = .eq)
    (hab : a.order b = .gt) (engine : PatternEngine) (limits : Limits) (checkId : String) :
    ((builtins engine limits).run checkId (exactRule (unsortable a b c))
      (.array (unsortable a b c))).result = .error .aborted := by
  have hsorted : equalSorted none (unsortable a b c) (unsortable a b c) = .error .aborted := by
    rw [equalSorted, sortItems_unsortable hac hcb hab]
    rfl
  have hfirst : (Value.string "a").toWhole? = none := rfl
  exact (run_exactRule_result hfirst limits checkId _ _).trans (congrArg (Except.map _) hsorted)

theorem WellFormedAnswered.sortable (hS : ∀ n, S n → n.IsJson)
    (h : WellFormedAnswered engine limits S) : Number.Sortable S := by
  have hanswered {a b c : Number} (ha : S a) (hb : S b) (hc : S c) (hac : a.order c = .eq)
      (hcb : c.order b = .eq) : a.order b ≠ .gt := by
    intro hab
    have hover := unsortable_over ha hb hc
    have haborted := run_unsortable hac hcb hab engine limits ""
    rcases h "" _ _ (.exactly (exactRule_asks _)) (tagged_over (by decide) hover) hover with
      ⟨verdict, hverdict⟩ | hdeep
    · cases haborted.symm.trans hverdict
    · cases haborted.symm.trans hdeep
  intro m n hm hn hms hns hne hmn c hc hcm
  have hqm := (Number.equal_quantity_iff (hS _ hc) (hS _ hm)).1 hcm
  have hqn := hqm.trans ((Number.equal_quantity_iff (hS _ hm) (hS _ hn)).1 hmn)
  cases hi : c.toInt64? with
  | some i => rfl
  | none =>
    obtain ⟨hcm, hmc⟩ := Number.order_ties (hS _ hc) (hS _ hm) hi hqm
    obtain ⟨hcn, hnc⟩ := Number.order_ties (hS _ hc) (hS _ hn) hi hqn
    rcases Number.order_gt_or_gt hms hns hne with hgt | hgt
    · exact absurd hgt (hanswered hm hn hc hmc hcn)
    · exact absurd hgt (hanswered hn hm hc hnc hcm)

/-- Data causes no error in well-formed rules over a set of numbers, and never ends the program,
just where the numbers can be sorted. -/
theorem wellFormedAnswered_iff (engine : PatternEngine) (limits : Limits)
    (hS : ∀ n, S n → n.IsJson) :
    WellFormedAnswered engine limits S ↔ Number.Sortable S :=
  ⟨WellFormedAnswered.sortable hS, WellFormedAnswered.of_sortable hS⟩

theorem wellFormedAnswered_exact : (∀ n : Number, n.Exact → n.IsJson) ∧
    WellFormedAnswered Pattern.engine .default Number.Exact := by
  have hS : ∀ n : Number, n.Exact → n.IsJson := fun n hn ↦ hn.isJson
  refine ⟨hS, (wellFormedAnswered_iff Pattern.engine .default hS).2 ?_⟩
  intro m n hm hn _ _ hne hmn
  have hq := (Number.equal_quantity_iff (hS _ hm) (hS _ hn)).1 hmn
  exact absurd (Number.Exact.eq_of_quanta_eq hm hn hq) hne

/-- A list that is asked for as it is: among its numbers are two integers and the double that both
are rounded to. -/
def unsortableItems : List Value :=
  unsortable (.integer 9007199254740993) (.integer 9007199254740992) (.double Value.lastExact)

theorem run_unsortableItems :
    WellFormedRule Pattern.engine (exactRule unsortableItems) ∧
    (exactRule unsortableItems).Over Number.IsJson ∧
    (Value.array unsortableItems).Over Number.IsJson ∧
    ((builtins Pattern.engine .default).run "check" (exactRule unsortableItems)
      (.array unsortableItems)).result = .error .aborted := by
  have hover : (Value.array unsortableItems).Over Number.IsJson := by
    refine unsortable_over ?_ ?_ trivial
    · exact ⟨by decide, by decide⟩
    · exact ⟨by decide, by decide⟩
  refine ⟨.exactly (exactRule_asks _), tagged_over (by decide) hover, hover, ?_⟩
  exact run_unsortable (by decide +kernel) (by decide +kernel) (by decide +kernel) _ _ _

end Registry

end AuditRules
