import AuditRules.Proofs.Comparator.Local
import AuditRules.Proofs.Value.Depth

namespace AuditRules

open Evaluation (ErrsOnly)

variable {engine : PatternEngine}

/-- Levels that a rule needs below its own: none for a number rule, and for a rule on mappings one
less than its depth, since the rules that it delegates stand two mappings further down. -/
def Value.levels (spec : Value) : Nat :=
  match spec.get? Rule.typeKey with
  | some (.string tag) =>
    if tag ∈ Comparator.number.names then 0
    else if tag ∈ Comparator.mapping.names then spec.depth - 1
    else spec.depth
  | _ => spec.depth

theorem Value.levels_le_depth (spec : Value) : spec.levels ≤ spec.depth := by
  unfold levels
  split
  · split
    · exact Nat.zero_le _
    · split
      · exact Nat.sub_le _ _
      · exact Nat.le_refl _
  · exact Nat.le_refl _

theorem Value.levels_mapping {fields : Fields} (tag : String)
    (htag : fields.get? Rule.typeKey = some (.string tag))
    (hc : tag ∈ Comparator.mapping.names) :
    (Value.object fields).levels = (Value.object fields).depth - 1 := by
  have hget : (Value.object fields).get? Rule.typeKey = some (.string tag) := htag
  have hnumber : tag ∉ Comparator.number.names := by
    simp only [Comparator.names, Comparator.mapping, MappingRule.comparator, List.mem_cons,
      List.not_mem_nil, or_false] at hc
    rcases hc with rfl | rfl <;> decide
  simp only [levels, hget, if_neg hnumber, if_pos hc]

theorem Value.levels_sequence {fields : Fields} {tag : String}
    (htag : fields.get? Rule.typeKey = some (.string tag))
    (hc : tag ∈ Comparator.sequence.names) :
    (Value.object fields).levels = (Value.object fields).depth := by
  have hget : (Value.object fields).get? Rule.typeKey = some (.string tag) := htag
  obtain rfl := List.mem_singleton.1 hc
  simp only [levels, hget]
  rfl

namespace MappingRule

theorem RuleIn.depth_lt {pattern : Fields} {rule : Value} (h : RuleIn pattern rule) :
    rule.depth < (Value.object pattern).depth := by
  induction h with
  | here h _ => exact Value.depth_lt_object h
  | deeper h _ _ ih => exact Nat.lt_trans ih (Value.depth_lt_object h)

theorem Delegates.depth_lt {mode : Mode} {expected rule : Value}
    (h : Delegates mode expected rule) :
    rule.depth < expected.depth := by
  cases h with
  | entries h => exact h.depth_lt
  | candidate hmem h => exact Nat.lt_trans h.depth_lt (Value.depth_lt_array hmem)

end MappingRule

namespace SequenceRule

theorem levels_mappingRule (mode : String) (expected : Value) (ignoreCase : Bool) :
    (mappingRule mode expected ignoreCase).levels = expected.depth := by
  rw [mappingRule, Value.levels_mapping "dict" rfl (by decide)]
  simp [Value.depth, depthFields]

theorem levels_filterRule (filter : Fields) :
    (filterRule filter).levels = (Value.object filter).depth := by
  rw [filterRule, Value.levels_mapping "dict" rfl (by decide)]
  simp [Value.depth, depthFields]

theorem depth_innerRule (rule : Fields) : (innerRule rule).depth ≤ (Value.object rule).depth := by
  refine Nat.succ_le_succ (depthFields_le.2 fun entry hentry ↦ ?_)
  rcases Fields.mem_insertAll hentry with h | h
  · obtain rfl := List.mem_singleton.1 h
    exact Nat.zero_le _
  · exact depthFields_le.1 (Nat.le_refl _) entry h

theorem depth_nestedRule {pattern rule : Value} (h : pattern.nestedRule? = some rule) :
    rule.depth < pattern.depth := by
  obtain ⟨key, rest, rfl, -⟩ := Value.nestedRule?_eq_some h
  exact Value.depth_lt_object List.mem_cons_self

theorem levels_le_of_nested {patterns : List Value} {pattern rule : Value}
    (hmem : pattern ∈ patterns) (h : pattern.nestedRule? = some rule) :
    rule.levels ≤ (Value.array patterns).depth := by
  have hrule := depth_nestedRule h
  have hpattern := Value.depth_lt_array hmem
  have hlevels := rule.levels_le_depth
  omega

theorem Delegates.levels_le {ignoreCase : Bool} {payload target : Value} {rule : ListRule}
    (h : Delegates ignoreCase rule target) (hw : ListRule.Written payload rule) :
    target.levels ≤ payload.depth := by
  cases h with
  | length expression => exact Nat.zero_le _
  | mappings patterns =>
    -- This rule is as deep as the list rule itself; only its levels are fewer.
    cases hw
    rw [levels_mappingRule]
    exact Value.depth_array_mono fun v hv ↦ (List.mem_filter.1 hv).1
  | nestedAny hmem hrule =>
    cases hw
    exact levels_le_of_nested hmem hrule
  | mapping hmem =>
    cases hw
    rw [levels_mappingRule]
    exact Nat.le_of_lt (Value.depth_lt_array hmem)
  | nestedAll hmem hrule =>
    cases hw
    exact levels_le_of_nested hmem hrule
  | argument hmem =>
    cases hw with
    | keyed _ hargs =>
      have harg := Value.depth_lt_array (List.mem_map_of_mem (f := Value.object) hmem)
      have hparts := Value.depth_lt_object (Fields.mem_of_get? hargs)
      rw [levels_mappingRule]
      omega
  | filter filter rule =>
    cases hw with
    | filtered hfilter _ =>
      rw [levels_filterRule]
      exact Nat.le_of_lt (Value.depth_lt_object (Fields.mem_of_get? hfilter))
  | inner filter rule =>
    cases hw with
    | filtered _ hcompare =>
      have hrule := Value.depth_lt_object (Fields.mem_of_get? hcompare)
      have hdepth := depth_innerRule rule
      have hlevels := (innerRule rule).levels_le_depth
      omega

theorem Tries.levels_eq {rule : ListRule} {target : Value} (h : Tries rule target) :
    target.levels = 0 := by
  cases h <;> rfl

end SequenceRule

namespace Registry

inductive Delegates : Value → Value → Prop
  | mapping {fields : Fields} {tag : String} {mode : MappingRule.Mode} {expected target : Value}
      (htag : fields.get? Rule.typeKey = some (.string tag)) (hc : tag ∈ Comparator.mapping.names)
      (hmode : (Rule.mk fields).select MappingRule.comparator MappingRule.modes =
        .ok (mode, expected)) (h : MappingRule.Delegates mode expected target) :
      Delegates (.object fields) target
  | sequence {fields : Fields} {tag : String} {rule : ListRule} {target : Value}
      (htag : fields.get? Rule.typeKey = some (.string tag)) (hc : tag ∈ Comparator.sequence.names)
      (hrule : ListRule.parse ⟨fields⟩ = .ok rule)
      (h : SequenceRule.Delegates (Rule.mk fields).ignoreCase rule target ∨
        SequenceRule.Tries rule target) : Delegates (.object fields) target

/-- Every rule needs more levels than the rules that it delegates. -/
theorem Delegates.levels_lt {spec target : Value} (h : Delegates spec target) :
    target.levels < spec.levels := by
  cases h with
  | mapping htag hc hmode h =>
    have htarget := h.depth_lt
    obtain ⟨key, -, hkey⟩ := Rule.select_ok hmode
    have hexpected := Value.depth_lt_object (Fields.mem_of_get? hkey)
    have hlevels := target.levels_le_depth
    rw [Value.levels_mapping _ htag hc]
    omega
  | sequence htag hc hrule h =>
    obtain ⟨payload, hpayload, hwritten⟩ := SequenceRule.parse_ok hrule
    have hdepth := Value.depth_lt_object (Fields.mem_of_get? hpayload)
    rw [Value.levels_sequence htag hc]
    rcases h with h | h
    · exact Nat.lt_of_le_of_lt (h.levels_le hwritten) hdepth
    · rw [h.levels_eq]
      omega

/-- One step: a rule errs as its reading does, as a rule that it delegates, or for lists that cannot
be sorted. -/
theorem evaluate_errsOnly {allowed : RuleError → Prop} {data : Value → Prop}
    (hallowed : ∀ e, RuleError.IsLocal e → allowed e) (hdata : IsHereditary data)
    {limits : Limits} {checkId : String} {n : Nat} {spec : Value}
    (h : ∀ target v, Delegates spec target → data v →
      ErrsOnly allowed ((builtins engine limits).delegated checkId n target v))
    (hsorts : ∀ fields expected items key, spec = .object fields →
      ListRule.parse ⟨fields⟩ = .ok (.exactly expected) → data (.array items) →
        FailsOnly allowed (SequenceRule.equalSorted key items expected))
    {actual : Value} (hactual : data actual) :
    ErrsOnly allowed ((builtins engine limits).evaluate checkId n spec actual) := by
  rcases evaluate_routes (builtins engine limits) checkId n spec actual with
    ⟨e, he, hlocal⟩ | ⟨fields, tag, c, rfl, htag, hc, heq⟩
  · exact .of_error he (hallowed e hlocal)
  · obtain ⟨hmem, hname⟩ := of_get?_builtins hc
    rw [heq]
    rcases mem_builtin.1 hmem with rfl | rfl | rfl | rfl | rfl
    · exact (NumberRule.compare_local _ _ actual).mono hallowed
    · exact (TextRule.compare_local _ _ actual).mono hallowed
    · exact (BooleanRule.compare_local _ _ actual).mono hallowed
    · refine MappingRule.compare_errsOnly hallowed hdata hactual ?_
      exact fun mode expected hmode target v ht ↦ h target v (.mapping htag hname hmode ht)
    · have hread := (SequenceRule.parse_local ⟨fields⟩).mono hallowed
      exact SequenceRule.compare_errsOnly hdata hread (fun parsed hparsed ↦ {
        delegates := fun target v ht ↦ h target v (.sequence htag hname hparsed (.inl ht))
        tries := fun target v ht hv ↦
          (h target v (.sequence htag hname hparsed (.inr ht)) hv).mono fun _ ↦ .inl
        sorts := fun expected items key hrule ↦
          hsorts fields expected items key rfl (hrule ▸ hparsed) }) hactual

theorem evaluate_not_deep_step {limits : Limits} {checkId : String} {n : Nat} {spec : Value}
    (h : ∀ target v, Delegates spec target →
      ErrsOnly (¬ RuleError.IsTooDeep ·) ((builtins engine limits).delegated checkId n target v))
    (actual : Value) :
    ErrsOnly (¬ RuleError.IsTooDeep ·)
      ((builtins engine limits).evaluate checkId n spec actual) := by
  refine evaluate_errsOnly (fun _ he ↦ he.1) isHereditary_all (fun target v ht _ ↦ h target v ht)
    ?_ trivial
  intro fields expected items key _ _ _ e he
  rw [SequenceRule.equalSorted_error he]
  rintro ⟨_, _, ⟨⟩⟩

/-- A whole run: a rule that has the levels that it needs does not err for its depth. -/
theorem evaluate_not_deep (engine : PatternEngine) (limits : Limits) (checkId : String) {n : Nat}
    {spec : Value} (h : spec.levels ≤ n) (actual : Value) :
    ErrsOnly (¬ RuleError.IsTooDeep ·)
      ((builtins engine limits).evaluate checkId n spec actual) := by
  induction n generalizing spec actual with
  | zero =>
    refine evaluate_not_deep_step (fun target v ht ↦ ?_) actual
    have hlt := ht.levels_lt
    omega
  | succ n ih =>
    refine evaluate_not_deep_step (fun target v ht ↦ ?_) actual
    have hlt := ht.levels_lt
    exact ih (by omega) v

/-- A rule never nests too deeply if the limit is at least the number of lists and mappings that lie
inside one another in it, whatever it is put to. -/
theorem run_within_depth (limits : Limits) (checkId : String) {spec : Value}
    (h : spec.depth ≤ limits.nesting) (actual : Value) :
    ¬ ((builtins engine limits).run checkId spec actual).TooDeep := by
  rintro ⟨e, he, hdeep⟩
  have hrun := evaluate_not_deep engine limits checkId
    (Nat.le_trans spec.levels_le_depth h) actual
  exact hrun.allows he hdeep

def singleItemRule : Value :=
  .object [(Rule.typeKey, .string "list"), ("match_all", .array [.object [("items",
    .object [(Rule.typeKey, .string "list"), ("size", .ofInt 1)])]])]

theorem run_singleItemRule : singleItemRule.depth ≤ 4 ∧
    ¬ ((builtins Pattern.engine ⟨4, 16⟩).run "check" singleItemRule
      (.array [.object [("items", .array [.ofInt 1])]])).TooDeep ∧
    ((builtins Pattern.engine ⟨2, 16⟩).run "check" singleItemRule
      (.array [.object [("items", .array [.ofInt 1])]])).TooDeep :=
  ⟨by decide, run_within_depth ⟨4, 16⟩ "check" (by decide) _, _, rfl, "check", 2, rfl⟩

end Registry

end AuditRules
