import AuditRules.Value.Order

namespace AuditRules

namespace Fields

theorem contains_eq (fields : Fields) (key : String) :
    fields.contains key = (fields.get? key).isSome := by
  induction fields with
  | nil => rfl
  | cons entry rest ih =>
    obtain ⟨k, v⟩ := entry
    simp only [contains, List.any_cons, get?, List.lookup_cons] at ih ⊢
    rw [Bool.beq_comm (a := key)]
    cases h : k == key with
    | true => simp
    | false => simpa only [Bool.false_or] using ih

theorem mem_of_get? {fields : Fields} {key : String} {v : Value}
    (h : fields.get? key = some v) : (key, v) ∈ fields := by
  obtain ⟨before, after, rfl, -⟩ := List.lookup_eq_some_iff.1 h
  exact List.mem_append_right before List.mem_cons_self

theorem get?_of_mem {fields : Fields} (hkeys : fields.keys.Nodup) {key : String} {v : Value}
    (h : (key, v) ∈ fields) : fields.get? key = some v := by
  induction fields with
  | nil => cases h
  | cons entry rest ih =>
    obtain ⟨hfresh, hrest⟩ := List.nodup_cons.1 hkeys
    rw [get?, List.lookup_cons]
    rcases List.mem_cons.1 h with rfl | h
    · rw [beq_self_eq_true]
    · have hne : (key == entry.1) = false := by
        refine beq_eq_false_iff_ne.2 ?_
        rintro rfl
        exact hfresh (List.mem_map_of_mem (f := (·.1)) h)
      rw [hne]
      exact ih hrest h

theorem mem_insert {fields : Fields} {key : String} {v : Value} {entry : String × Value}
    (h : entry ∈ fields.insert key v) : entry ∈ fields ∨ entry = (key, v) := by
  unfold insert at h
  split at h
  · obtain ⟨old, hold, rfl⟩ := List.mem_map.1 h
    split
    · exact .inr rfl
    · exact .inl hold
  · exact (List.mem_append.1 h).imp id List.mem_singleton.1

theorem mem_insertAll {fields entries : Fields} {entry : String × Value}
    (h : entry ∈ fields.insertAll entries) : entry ∈ fields ∨ entry ∈ entries := by
  induction entries generalizing fields with
  | nil => exact .inl h
  | cons first rest ih =>
    rcases ih h with h | h
    · rcases mem_insert h with h | rfl
      · exact .inl h
      · exact .inr List.mem_cons_self
    · exact .inr (List.mem_cons_of_mem first h)

theorem keys_insert (fields : Fields) (key : String) (v : Value) :
    (fields.insert key v).keys =
      if key ∈ fields.keys then fields.keys else fields.keys ++ [key] := by
  have hcontains : fields.contains key = true ↔ key ∈ fields.keys := by
    simp [contains, keys]
  have hreplace (entry : String × Value) :
      (if entry.1 == key then (key, v) else entry).1 = entry.1 := by
    split
    · rename_i hkey
      exact (beq_iff_eq.1 hkey).symm
    · rfl
  unfold insert
  simp only [hcontains]
  split
  · simp only [keys, List.map_map, Function.comp_def, hreplace]
  · simp [keys]

theorem nodup_insertAll {fields : Fields} (h : fields.keys.Nodup) (entries : Fields) :
    (fields.insertAll entries).keys.Nodup := by
  induction entries generalizing fields with
  | nil => exact h
  | cons entry rest ih =>
    refine ih ?_
    rw [keys_insert]
    split
    · exact h
    · rename_i hfresh
      refine List.nodup_append.2 ⟨h, by simp, fun key hkey other hother ↦ ?_⟩
      obtain rfl := List.mem_singleton.1 hother
      rintro rfl
      exact hfresh hkey

theorem sortKeys_perm (fields : Fields) : fields.sortKeys.Perm fields := insertionSort_perm _ _

end Fields

theorem sortItems_eq (items : List Value) : sortItems items = items.map Value.sortKeys := by
  induction items with
  | nil => rfl
  | cons x xs ih => rw [sortItems, ih, List.map_cons]

theorem sortFields_eq (fields : Fields) :
    sortFields fields = fields.map fun entry ↦ (entry.1, entry.2.sortKeys) := by
  induction fields with
  | nil => rfl
  | cons entry rest ih => rw [sortFields, ih, List.map_cons]

namespace Value

/-- All numbers at any depth belong to a set, and no mapping has a key twice. -/
inductive Over (S : Number → Prop) : Value → Prop
  | null : Over S .null
  | bool (b : Bool) : Over S (.bool b)
  | number {n : Number} : S n → Over S (.number n)
  | string (s : String) : Over S (.string s)
  | array {items : List Value} : (∀ v ∈ items, Over S v) → Over S (.array items)
  | object {fields : Fields} : fields.keys.Nodup → (∀ entry ∈ fields, Over S entry.2) →
    Over S (.object fields)

variable {S : Number → Prop}

theorem Over.item {items : List Value} (h : (Value.array items).Over S) {v : Value}
    (hv : v ∈ items) : v.Over S := by
  cases h with
  | array hitems => exact hitems v hv

theorem Over.entry {fields : Fields} (h : (Value.object fields).Over S) {key : String} {v : Value}
    (hv : (key, v) ∈ fields) : v.Over S := by
  cases h with
  | object _ hfields => exact hfields (key, v) hv

theorem mem_sortKeys {fields : Fields} {entry : String × Value} :
    entry ∈ (Fields.sortKeys (sortFields fields)) ↔
      ∃ v, (entry.1, v) ∈ fields ∧ v.sortKeys = entry.2 := by
  rw [(Fields.sortKeys_perm _).mem_iff, sortFields_eq, List.mem_map]
  constructor
  · rintro ⟨⟨key, v⟩, hmem, rfl⟩
    exact ⟨v, hmem, rfl⟩
  · rintro ⟨v, hmem, hv⟩
    exact ⟨(entry.1, v), hmem, Prod.ext rfl hv⟩

theorem Over.sortKeys {v : Value} (h : v.Over S) : v.sortKeys.Over S := by
  induction h with
  | null => exact .null
  | bool b => exact .bool b
  | number h => exact .number h
  | string s => exact .string s
  | array _ ih =>
    rw [Value.sortKeys, sortItems_eq]
    refine .array fun v hv ↦ ?_
    obtain ⟨x, hx, rfl⟩ := List.mem_map.1 hv
    exact ih x hx
  | @object fields hkeys _ ih =>
    refine .object ?_ fun entry hentry ↦ ?_
    · have hperm : (Fields.sortKeys (sortFields fields)).keys.Perm fields.keys := by
        refine ((Fields.sortKeys_perm _).map (·.1)).trans (.of_eq ?_)
        rw [sortFields_eq, List.map_map]
        rfl
      exact hkeys.perm hperm.symm
    · obtain ⟨v, hmem, hv⟩ := mem_sortKeys.1 hentry
      exact hv ▸ ih _ hmem

end Value

end AuditRules
