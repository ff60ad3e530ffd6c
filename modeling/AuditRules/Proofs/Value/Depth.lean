import AuditRules.Proofs.Value

namespace AuditRules

mutual

/-- How many lists and mappings lie inside one another in a value. -/
def Value.depth : Value → Nat
  | .array items => depthItems items + 1
  | .object fields => depthFields fields + 1
  | .null | .bool _ | .number _ | .string _ => 0

def depthItems : List Value → Nat
  | [] => 0
  | v :: rest => max v.depth (depthItems rest)

def depthFields : List (String × Value) → Nat
  | [] => 0
  | (_, v) :: rest => max v.depth (depthFields rest)

end

theorem depthItems_le {items : List Value} {n : Nat} :
    depthItems items ≤ n ↔ ∀ v ∈ items, v.depth ≤ n := by
  induction items with
  | nil => simp [depthItems]
  | cons v rest ih => simp only [depthItems, Nat.max_le, ih, List.forall_mem_cons]

theorem depthFields_le {fields : Fields} {n : Nat} :
    depthFields fields ≤ n ↔ ∀ entry ∈ fields, entry.2.depth ≤ n := by
  induction fields with
  | nil => simp [depthFields]
  | cons entry rest ih =>
    obtain ⟨key, v⟩ := entry
    simp only [depthFields, Nat.max_le, ih, List.forall_mem_cons]

namespace Value

theorem depth_lt_array {v : Value} {items : List Value} (h : v ∈ items) :
    v.depth < (array items).depth :=
  Nat.lt_succ_of_le (depthItems_le.1 (Nat.le_refl _) v h)

theorem depth_lt_object {v : Value} {key : String} {fields : Fields} (h : (key, v) ∈ fields) :
    v.depth < (object fields).depth :=
  Nat.lt_succ_of_le (depthFields_le.1 (Nat.le_refl _) (key, v) h)

theorem depth_array_mono {items items' : List Value} (h : ∀ v ∈ items, v ∈ items') :
    (array items).depth ≤ (array items').depth :=
  Nat.succ_le_succ (depthItems_le.2 fun v hv ↦ depthItems_le.1 (Nat.le_refl _) v (h v hv))

end Value

end AuditRules
