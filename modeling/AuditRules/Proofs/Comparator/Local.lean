import AuditRules.Proofs.Comparator.Delegates

namespace AuditRules

open Evaluation (ErrsOnly)

variable {engine : PatternEngine}

namespace Rule

theorem require_local (rule : Rule) (comparator key : String) :
    Local (rule.require comparator key) := by
  unfold require
  split
  · exact .ok _
  · exact Local.error rfl

theorem select_local {Mode : Type} (rule : Rule) (comparator : String)
    (modes : List (String × Mode)) : Local (rule.select comparator modes) := by
  unfold select
  split
  · exact Local.error rfl
  · exact (rule.require_local comparator _).map _
  · exact Local.error rfl

end Rule

namespace NumberRule

theorem parse_local (v : Value) : Local (NumberExpression.parse v) :=
  fun _ h ↦ (parse_error h).isLocal

theorem compare_local (ctx : Context) (rule : Rule) (actual : Value) :
    ErrsOnly RuleError.IsLocal (compare ctx rule actual) := by
  refine .bind (.liftM (rule.select_local _ _)) fun found _ ↦ ?_
  obtain ⟨mode, expected⟩ := found
  refine .bind (ensures_event ctx _ _) fun _ _ ↦ ?_
  split
  · exact trivial
  · exact .liftM ((parse_local expected).bind fun _ ↦ .ok _)
  · refine .liftM ?_
    unfold compareAny
    split
    · exact (FailsOnly.anyM (fun candidate ↦ (parse_local candidate).bind fun _ ↦ .ok _) _).bind
        fun _ ↦ .ok _
    · exact Local.error rfl

end NumberRule

namespace TextRule

theorem expectedText_local (mode : Mode) (v : Value) : Local (expectedText mode v) := by
  unfold expectedText
  split
  · exact .ok _
  · exact Local.error rfl

theorem matchesPattern_local (ignoreCase : Bool) (pattern text : String) :
    Local (matchesPattern engine ignoreCase pattern text) := by
  unfold matchesPattern
  split
  · exact .ok _
  · exact Local.error rfl

theorem satisfied_local (mode : Mode) (ignoreCase : Bool) (expected : Value) (text : String) :
    Local (satisfied engine mode ignoreCase expected text) := by
  unfold satisfied
  split
  · exact (expectedText_local _ _).bind fun _ ↦ .ok _
  · exact .anyM (fun v ↦ (expectedText_local _ v).bind fun _ ↦ .ok _) _
  · exact Local.error rfl
  · exact (expectedText_local _ _).bind fun pattern ↦ matchesPattern_local ignoreCase pattern text

theorem compare_local (ctx : Context) (rule : Rule) (actual : Value) :
    ErrsOnly RuleError.IsLocal (compare engine ctx rule actual) := by
  refine .bind (.liftM (rule.select_local _ _)) fun found _ ↦ ?_
  obtain ⟨mode, expected⟩ := found
  refine .bind (ensures_event ctx _ _) fun _ _ ↦ ?_
  split
  · exact trivial
  · exact .bind (.liftM (satisfied_local _ _ _ _)) fun _ _ ↦ trivial

end TextRule

namespace BooleanRule

theorem compare_local (ctx : Context) (rule : Rule) (actual : Value) :
    ErrsOnly RuleError.IsLocal (compare ctx rule actual) := by
  refine .bind (.liftM (rule.select_local _ _)) fun found _ ↦ ?_
  refine .bind (ensures_event ctx _ _) fun _ _ ↦ ?_
  split
  · exact RuleError.isLocal_of_code rfl
  · exact trivial
  · exact trivial

end BooleanRule

namespace MappingRule

theorem expectedMapping_local (mode : Mode) (v : Value) : Local (expectedMapping mode v) := by
  unfold expectedMapping
  split
  · exact .ok _
  · exact Local.error rfl

theorem expectedKeys_local (mode : Mode) (v : Value) : Local (expectedKeys mode v) := by
  unfold expectedKeys
  split
  · refine .mapM (fun item ↦ ?_) _
    split
    · exact .ok _
    · exact Local.error rfl
  · exact Local.error rfl

theorem expectedMappings_local (v : Value) : Local (expectedMappings v) := by
  unfold expectedMappings
  split
  · exact .ok _
  · exact Local.error rfl

variable {allowed : RuleError → Prop} (hallowed : ∀ e, RuleError.IsLocal e → allowed e)
  {data : Value → Prop} (hdata : IsHereditary data) {ctx : Context} {ignoreCase : Bool}

include hallowed hdata

theorem compareFields_errsOnly {expected : Value} (mode : Mode) (actual : Value) {fields : Fields}
    (hfields : data (.object fields)) (h : ∀ rule v, Delegates mode expected rule → data v →
      ErrsOnly allowed (ctx.delegate rule v)) :
    ErrsOnly allowed (compareFields ctx mode ignoreCase expected actual fields) := by
  cases mode with
  | entries =>
    rw [compareFields]
    refine .bind (.liftM_eq ((expectedMapping_local .entries expected).mono hallowed))
      fun pattern hpattern ↦ ?_
    obtain rfl := expectedMapping_ok hpattern
    refine .bind (mismatch?_errsOnly hdata pattern fields hfields
      fun rule v hr ↦ h rule v (.entries hr)) fun reason _ ↦ ?_
    cases reason <;> exact trivial
  | any =>
    rw [compareFields]
    refine .bind (.liftM_eq ((expectedMappings_local expected).mono hallowed))
      fun candidates hcandidates ↦ ?_
    obtain rfl := expectedMappings_ok hcandidates
    refine .bind (.anyM fun candidate hmem ↦ ?_) fun _ _ ↦ trivial
    refine .bind (.liftM_eq ((expectedMapping_local .any candidate).mono hallowed))
      fun pattern hpattern ↦ ?_
    obtain rfl := expectedMapping_ok hpattern
    exact .bind (mismatch?_errsOnly hdata pattern fields hfields
      fun rule v hr ↦ h rule v (.candidate hmem hr)) fun _ _ ↦ trivial
  | keyAny | keyAll =>
    exact .bind (.liftM ((expectedKeys_local _ expected).mono hallowed)) fun _ _ ↦ trivial

theorem compare_errsOnly {rule : Rule} {actual : Value} (hactual : data actual)
    (h : ∀ mode expected, rule.select comparator modes = .ok (mode, expected) → ∀ target v,
      Delegates mode expected target → data v → ErrsOnly allowed (ctx.delegate target v)) :
    ErrsOnly allowed (compare ctx rule actual) := by
  refine .bind (.liftM_eq ((rule.select_local _ _).mono hallowed)) fun found hfound ↦ ?_
  obtain ⟨mode, expected⟩ := found
  refine .bind (ensures_event ctx _ _) fun _ _ ↦ ?_
  cases actual with
  | object fields =>
    exact compareFields_errsOnly hallowed hdata mode _ hactual (h mode expected hfound)
  | null | bool | number | string | array => exact trivial

end MappingRule

namespace SequenceRule

theorem items_local (mode : String) (v : Value) : Local (ListRule.items mode v) := by
  unfold ListRule.items
  split
  · exact .ok _
  · exact Local.error rfl

theorem mapping_local (mode what : String) (v : Value) : Local (ListRule.mapping mode what v) := by
  unfold ListRule.mapping
  split
  · exact .ok _
  · exact Local.error rfl

theorem keyedOf_local (mode : String) (payload : Value) :
    Local (ListRule.keyedOf mode payload) := by
  refine (mapping_local _ _ _).bind fun parts ↦ (Rule.require_local _ _ _).bind fun v ↦ ?_
  split
  · refine (Rule.require_local _ _ _).bind fun w ↦ (items_local _ _).bind fun items ↦ ?_
    exact (FailsOnly.mapM (mapping_local _ _) items).bind fun _ ↦ .ok _
  · exact Local.error rfl

theorem filteredOf_local (mode : String) (payload : Value) :
    Local (ListRule.filteredOf mode payload) := by
  refine (mapping_local _ _ _).bind fun parts ↦ (Rule.require_local _ _ _).bind fun v ↦ ?_
  refine (mapping_local _ _ _).bind fun filter ↦ (Rule.require_local _ _ _).bind fun w ↦ ?_
  exact (mapping_local _ _ _).bind fun _ ↦ .ok _

theorem modes_local {mode : String} {read : Value → Except RuleError ListRule}
    (h : (mode, read) ∈ ListRule.modes) (payload : Value) : Local (read payload) := by
  simp only [ListRule.modes, List.mem_cons, Prod.mk.injEq, List.not_mem_nil, or_false] at h
  rcases h with ⟨-, rfl⟩ | ⟨-, rfl⟩ | ⟨-, rfl⟩ | ⟨-, rfl⟩ | ⟨-, rfl⟩ | ⟨-, rfl⟩
  · exact .ok _
  · exact (items_local _ _).map _
  · exact (items_local _ _).map _
  · exact (items_local _ _).map _
  · exact keyedOf_local _ payload
  · exact filteredOf_local _ payload

theorem parse_local (rule : Rule) : Local (ListRule.parse rule) := by
  refine (rule.select_local _ _).bind_eq fun found hfound ↦ ?_
  obtain ⟨read, payload⟩ := found
  obtain ⟨mode, hmem, -⟩ := Rule.select_ok hfound
  exact modes_local hmem payload

end SequenceRule

end AuditRules
