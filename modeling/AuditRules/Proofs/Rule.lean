import AuditRules.Proofs.Registry
import AuditRules.Proofs.Value

namespace AuditRules

variable {engine : PatternEngine}

namespace Fields

/-- A mapping written as a rule for a comparator, with just one of its modes. -/
structure Asks (fields : Fields) (c : Comparator) (mode : String) (payload : Value) : Prop where
  tagged : ∃ tag ∈ c.names, fields.get? Rule.typeKey = some (.string tag)
  value : fields.get? mode = some payload
  only : ∀ other ∈ c.modes, fields.contains other = true → other = mode

theorem asks_written {c : Comparator} {tag mode : String} (htag : tag ∈ c.names)
    (hmode : mode ≠ Rule.typeKey) {rest : Fields}
    (hmodes : ∀ other ∈ c.modes, other ≠ Rule.typeKey ∧ rest.contains other = false)
    (payload : Value) :
    Asks ((Rule.typeKey, .string tag) :: (mode, payload) :: rest) c mode payload where
  tagged := ⟨tag, htag, by simp [get?]⟩
  value := by
    have h : (mode == Rule.typeKey) = false := by simpa using hmode
    simp [get?, List.lookup_cons, h]
  only other hmem h := by
    obtain ⟨htype, hrest⟩ := hmodes other hmem
    simp only [contains, List.any_cons, Bool.or_eq_true, beq_iff_eq] at h hrest
    rcases h with h | h | h
    · exact absurd h.symm htype
    · exact h.symm
    · rw [hrest] at h
      cases h

end Fields

theorem Value.nestedRule?_eq_some {pattern rule : Value} (h : pattern.nestedRule? = some rule) :
    ∃ key rest, pattern = .object ((key, rule) :: rest) ∧ rule.isTypedRule = true := by
  unfold nestedRule? at h
  split at h
  · rename_i key inner rest
    split at h
    · rename_i ht
      obtain rfl := Option.some.inj h
      exact ⟨key, rest, rfl, ht⟩
    · cases h
  · cases h

namespace Rule

theorem filter_key_eq {Mode : Type} {modes : List (String × Mode)} {key : String} {mode : Mode}
    (hkeys : (modes.map (·.1)).Nodup) (hmem : (key, mode) ∈ modes) :
    (modes.filter fun entry ↦ entry.1 == key) = [(key, mode)] := by
  induction modes with
  | nil => cases hmem
  | cons entry rest ih =>
    simp only [List.map_cons, List.nodup_cons] at hkeys
    rcases List.mem_cons.1 hmem with rfl | hmem
    · have hrest : (rest.filter fun entry ↦ entry.1 == key) = [] := by
        refine List.filter_eq_nil_iff.2 fun entry he h ↦ hkeys.1 ?_
        simpa only [beq_iff_eq.1 h] using List.mem_map_of_mem (f := (·.1)) he
      rw [List.filter_cons_of_pos (by simp), hrest]
    · have hne : entry.1 ≠ key := by
        rintro rfl
        exact hkeys.1 (List.mem_map_of_mem (f := (·.1)) hmem)
      rw [List.filter_cons_of_neg (by simpa using hne)]
      exact ih hkeys.2 hmem

theorem select_eq {Mode : Type} {fields : Fields} {modes : List (String × Mode)} {key : String}
    {mode : Mode} {payload : Value} (comparator : String) (hkeys : (modes.map (·.1)).Nodup)
    (hmem : (key, mode) ∈ modes) (hvalue : fields.get? key = some payload)
    (honly : ∀ other ∈ modes.map (·.1), fields.contains other = true → other = key) :
    (Rule.mk fields).select comparator modes = .ok (mode, payload) := by
  have hkey : fields.contains key = true := by rw [Fields.contains_eq, hvalue]; rfl
  have hfound : (modes.filter fun entry ↦ fields.contains entry.1) = [(key, mode)] := by
    rw [← filter_key_eq hkeys hmem]
    refine List.filter_congr fun entry he ↦ ?_
    have hother := honly entry.1 (List.mem_map_of_mem he)
    by_cases h : entry.1 = key
    · simp only [h, hkey, beq_self_eq_true]
    · have hf : fields.contains entry.1 = false := by simpa using mt hother h
      simp only [hf, beq_eq_false_iff_ne.2 h]
  simp only [select, hfound, require, hvalue]
  rfl

theorem require_ok {fields : Fields} {comparator key : String} {v : Value}
    (h : (Rule.mk fields).require comparator key = .ok v) : fields.get? key = some v := by
  unfold require at h
  split at h
  · rename_i w hw
    exact hw.trans (congrArg some (Except.ok.inj h))
  · cases h

theorem select_ok {Mode : Type} {fields : Fields} {modes : List (String × Mode)} {mode : Mode}
    {payload : Value} {comparator : String}
    (h : (Rule.mk fields).select comparator modes = .ok (mode, payload)) :
    ∃ key, (key, mode) ∈ modes ∧ fields.get? key = some payload := by
  unfold select at h
  split at h
  · cases h
  · rename_i key mode' hfound
    have hmem : (key, mode') ∈ modes :=
      (List.mem_filter.1 (hfound ▸ List.mem_singleton_self (key, mode'))).1
    cases hv : (Rule.mk fields).require comparator key with
    | ok v =>
      rw [hv] at h
      obtain ⟨rfl, rfl⟩ := Prod.mk.inj (Except.ok.inj h)
      exact ⟨key, hmem, require_ok hv⟩
    | error e => rw [hv] at h; cases h
  · cases h

theorem require_some {fields : Fields} {key : String} {v : Value}
    (h : fields.get? key = some v) (comparator : String) :
    (Rule.mk fields).require comparator key = .ok v := by
  rw [require, h]

theorem require_none {fields : Fields} {key : String} (h : fields.get? key = none)
    (comparator : String) :
    (Rule.mk fields).require comparator key = .error (.missingKey comparator key) := by
  rw [require, h]

theorem of_require_error {fields : Fields} {comparator key : String} {e : RuleError}
    (h : (Rule.mk fields).require comparator key = .error e) :
    fields.get? key = none ∧ e = .missingKey comparator key := by
  cases hv : fields.get? key with
  | none => exact ⟨rfl, Except.error.inj (h.symm.trans (require_none hv comparator))⟩
  | some v => cases h.symm.trans (require_some hv comparator)

theorem select_cases {Mode : Type} (fields : Fields) (comparator : String)
    (modes : List (String × Mode)) :
    ((modes.map (·.1)).filter fields.contains = [] ∧
      (Rule.mk fields).select comparator modes =
        .error (.missingMode comparator (modes.map (·.1)))) ∨
    (∃ key mode payload, (key, mode) ∈ modes ∧
      (modes.map (·.1)).filter fields.contains = [key] ∧ fields.get? key = some payload ∧
      (Rule.mk fields).select comparator modes = .ok (mode, payload)) ∨
    (2 ≤ ((modes.map (·.1)).filter fields.contains).length ∧
      (Rule.mk fields).select comparator modes =
        .error (.ambiguousMode comparator ((modes.map (·.1)).filter fields.contains))) := by
  have hfilter : (modes.map (·.1)).filter fields.contains =
      (modes.filter fun entry ↦ fields.contains entry.1).map (·.1) := List.filter_map
  rw [hfilter, select]
  have hmem : ∀ entry ∈ modes.filter fun entry ↦ fields.contains entry.1,
      entry ∈ modes ∧ fields.contains entry.1 = true := fun entry h ↦ List.mem_filter.1 h
  dsimp only
  generalize (modes.filter fun entry ↦ fields.contains entry.1) = found at hmem
  rcases found with _ | ⟨⟨key, mode⟩, _ | ⟨second, rest⟩⟩
  · exact .inl ⟨rfl, rfl⟩
  · obtain ⟨hmode, hkey⟩ := hmem (key, mode) List.mem_cons_self
    rw [Fields.contains_eq] at hkey
    obtain ⟨payload, hpayload⟩ := Option.isSome_iff_exists.1 hkey
    have hrequire := require_some hpayload comparator
    refine .inr (.inl ⟨key, mode, payload, hmode, rfl, hpayload, ?_⟩)
    exact congrArg (Except.map (mode, ·)) hrequire
  · exact .inr (.inr ⟨by simp, rfl⟩)

end Rule

namespace Registry

/-- A rule that asks something of a built-in comparator is compared by it. -/
theorem evaluate_asks {fields : Fields} {c : Comparator} {mode : String} {payload : Value}
    (h : fields.Asks c mode payload) (hc : c ∈ builtin engine) (limits : Limits) (checkId : String)
    (remaining : Nat) (actual : Value) :
    (builtins engine limits).evaluate checkId remaining (.object fields) actual =
      c.compare ((builtins engine limits).context checkId remaining) ⟨fields⟩ actual := by
  obtain ⟨tag, htag, hfields⟩ := h.tagged
  exact evaluate_tagged hfields (get?_builtins hc htag limits) checkId remaining actual

end Registry

end AuditRules
