import AuditRules.Proofs.Number
import AuditRules.Proofs.StableSort
import AuditRules.Proofs.Value

namespace AuditRules

abbrev Mark := Int × String

namespace Mark

def order : Mark → Mark → Ordering := compareLex (compareOn Prod.fst) (compareOn Prod.snd)

instance : Std.TransCmp order :=
  inferInstanceAs (Std.TransCmp (compareLex (compareOn Prod.fst) (compareOn Prod.snd)))

instance : Std.LawfulEqCmp order where
  eq_of_compare {a b} h := by
    rw [order, compareLex_eq_eq] at h
    exact Prod.ext (Std.LawfulEqOrd.eq_of_compare h.1) (Std.LawfulEqOrd.eq_of_compare h.2)

end Mark

def codeOrder : List Mark → List Mark → Ordering := List.compareLex Mark.order

instance : Std.TransCmp codeOrder := inferInstanceAs (Std.TransCmp (List.compareLex Mark.order))

instance : Std.LawfulEqCmp codeOrder :=
  inferInstanceAs (Std.LawfulEqCmp (List.compareLex Mark.order))

theorem codeOrder_number (m n : Int) (r s : List Mark) :
    codeOrder ((m, "") :: r) ((n, "") :: s) = (compare m n).then (codeOrder r s) := by
  simp only [codeOrder, List.compareLex_cons_cons, Mark.order, compareLex, compareOn,
    Std.ReflOrd.compare_self, Ordering.then_eq]

theorem codeOrder_text (a b : String) (r s : List Mark) :
    codeOrder ((0, a) :: r) ((0, b) :: s) = (compare a b).then (codeOrder r s) := by
  simp only [codeOrder, List.compareLex_cons_cons, Mark.order, compareLex, compareOn,
    Std.ReflOrd.compare_self, Ordering.eq_then]

theorem codeOrder_self (r : List Mark) : codeOrder r r = .eq := Std.ReflCmp.compare_self

theorem codeOrder_same (n : Int) (r s : List Mark) :
    codeOrder ((n, "") :: r) ((n, "") :: s) = codeOrder r s := by
  rw [codeOrder_number, Std.ReflOrd.compare_self, Ordering.eq_then]

mutual

/-- The code of a value, where numbers have a place of two coordinates. -/
def Value.code (place : Number → Int × Int) : Value → List Mark
  | .null => [(0, "")]
  | .bool b => [(1, ""), (b.toNat, "")]
  | .number n => [(2, ""), ((place n).1, ""), ((place n).2, "")]
  | .string s => [(3, ""), (0, s)]
  | .array items => (4, "") :: codeItems place items
  | .object fields => (5, "") :: codeFields place fields

def codeItems (place : Number → Int × Int) : List Value → List Mark
  | [] => [(0, "")]
  | x :: xs => (1, "") :: (x.code place ++ codeItems place xs)

def codeFields (place : Number → Int × Int) : List (String × Value) → List Mark
  | [] => [(0, "")]
  | (key, x) :: xs => (1, "") :: (0, key) :: (x.code place ++ codeFields place xs)

end

def Places (S : Number → Prop) (place : Number → Int × Int) : Prop :=
  ∀ a b, S a → S b →
    a.order b = (compare (place a).1 (place b).1).then (compare (place a).2 (place b).2)

variable {S : Number → Prop} {place : Number → Int × Int}

theorem code_eq_cons (place : Number → Int × Int) (v : Value) :
    ∃ rest, v.code place = (↑v.rank, "") :: rest := by
  cases v <;> exact ⟨_, rfl⟩

theorem orderSorted_of_rank_ne {v w : Value} (h : v.rank ≠ w.rank) :
    v.orderSorted w = compare v.rank w.rank := by
  cases v <;> cases w <;> first | rfl | exact absurd rfl h

theorem codeOrder_of_rank_ne {v w : Value} (h : v.rank ≠ w.rank) (r s : List Mark) :
    codeOrder (v.code place ++ r) (w.code place ++ s) =
      (v.orderSorted w).then (codeOrder r s) := by
  obtain ⟨rest, hv⟩ := code_eq_cons place v
  obtain ⟨rest', hw⟩ := code_eq_cons place w
  rw [hv, hw, List.cons_append, List.cons_append, codeOrder_number, orderSorted_of_rank_ne h]
  rcases Nat.lt_or_gt_of_ne h with hlt | hgt
  · rw [Int.compare_eq_lt.2 (by omega), Nat.compare_eq_lt.2 hlt, Ordering.lt_then, Ordering.lt_then]
  · rw [Int.compare_eq_gt.2 (by omega), Nat.compare_eq_gt.2 hgt, Ordering.gt_then, Ordering.gt_then]

theorem codeOrder_items {xs ys : List Value}
    (hcode : ∀ x ∈ xs, ∀ y, y.Over S → ∀ r s,
      codeOrder (x.code place ++ r) (y.code place ++ s) = (x.orderSorted y).then (codeOrder r s))
    (hys : ∀ y ∈ ys, y.Over S) (r s : List Mark) :
    codeOrder (codeItems place xs ++ r) (codeItems place ys ++ s) =
      (orderItems xs ys).then (codeOrder r s) := by
  induction xs generalizing ys with
  | nil =>
    cases ys with
    | nil => exact codeOrder_same 0 r s
    | cons y ys => exact codeOrder_number 0 1 _ _
  | cons x xs ih =>
    cases ys with
    | nil => exact codeOrder_number 1 0 _ _
    | cons y ys =>
      simp only [codeItems, List.cons_append, List.append_assoc, codeOrder_same]
      rw [hcode x List.mem_cons_self y (hys y List.mem_cons_self),
        ih (fun x hx ↦ hcode x (List.mem_cons_of_mem _ hx))
          (fun y hy ↦ hys y (List.mem_cons_of_mem _ hy)), orderItems, Ordering.then_assoc]

theorem codeOrder_fields {xs ys : Fields}
    (hcode : ∀ x ∈ xs, ∀ w, w.Over S → ∀ r s,
      codeOrder (x.2.code place ++ r) (w.code place ++ s) =
        (x.2.orderSorted w).then (codeOrder r s))
    (hys : ∀ y ∈ ys, y.2.Over S) (r s : List Mark) :
    codeOrder (codeFields place xs ++ r) (codeFields place ys ++ s) =
      (orderFields xs ys).then (codeOrder r s) := by
  induction xs generalizing ys with
  | nil =>
    cases ys with
    | nil => exact codeOrder_same 0 r s
    | cons y ys => exact codeOrder_number 0 1 _ _
  | cons x xs ih =>
    cases ys with
    | nil => exact codeOrder_number 1 0 _ _
    | cons y ys =>
      simp only [codeFields, List.cons_append, List.append_assoc, codeOrder_same, codeOrder_text]
      rw [hcode x List.mem_cons_self y.2 (hys y List.mem_cons_self),
        ih (fun x hx ↦ hcode x (List.mem_cons_of_mem _ hx))
          (fun y hy ↦ hys y (List.mem_cons_of_mem _ hy)), orderFields, Ordering.then_assoc,
        Ordering.then_assoc]

/-- Values are ordered as their codes, whatever comes after these. -/
theorem codeOrder_value (hplace : Places S place) {v w : Value} (hv : v.Over S) (hw : w.Over S)
    (r s : List Mark) :
    codeOrder (v.code place ++ r) (w.code place ++ s) =
      (v.orderSorted w).then (codeOrder r s) := by
  -- Values of different kinds differ in the first mark; within a kind the rest is compared.
  induction hv generalizing w r s with
  | null =>
    cases hw with
    | null => exact codeOrder_same 0 r s
    | bool | number | string | array | object => exact codeOrder_of_rank_ne (by nofun) r s
  | bool a =>
    cases hw with
    | bool b =>
      simp only [Value.code, List.cons_append, List.nil_append, codeOrder_same, codeOrder_number]
      cases a <;> cases b <;> rfl
    | null | number | string | array | object => exact codeOrder_of_rank_ne (by nofun) r s
  | number ha =>
    cases hw with
    | number hb =>
      simp only [Value.code, List.cons_append, List.nil_append, codeOrder_same, codeOrder_number,
        Value.orderSorted, hplace _ _ ha hb, Ordering.then_assoc]
    | null | bool | string | array | object => exact codeOrder_of_rank_ne (by nofun) r s
  | string a =>
    cases hw with
    | string b =>
      simp only [Value.code, List.cons_append, List.nil_append, codeOrder_same, codeOrder_text,
        Value.orderSorted]
    | null | bool | number | array | object => exact codeOrder_of_rank_ne (by nofun) r s
  | array _ ih =>
    cases hw with
    | array hys =>
      simp only [Value.code, List.cons_append, codeOrder_same, Value.orderSorted]
      exact codeOrder_items (fun x hx y hy ↦ ih x hx hy) hys r s
    | null | bool | number | string | object => exact codeOrder_of_rank_ne (by nofun) r s
  | object _ _ ih =>
    cases hw with
    | object _ hys =>
      simp only [Value.code, List.cons_append, codeOrder_same, Value.orderSorted]
      exact codeOrder_fields (fun x hx y hy ↦ ih x hx hy) hys r s
    | null | bool | number | string | array => exact codeOrder_of_rank_ne (by nofun) r s

theorem codeOrder_sortKeys (hplace : Places S place) {v w : Value} (hv : v.Over S)
    (hw : w.Over S) (r s : List Mark) :
    codeOrder (v.sortKeys.code place ++ r) (w.sortKeys.code place ++ s) =
      (v.order w).then (codeOrder r s) :=
  codeOrder_value hplace hv.sortKeys hw.sortKeys r s

/-- The order of values is that of their codes, keys being sorted. -/
theorem Value.order_eq_codeOrder (hplace : Places S place) {v w : Value} (hv : v.Over S)
    (hw : w.Over S) :
    v.order w = codeOrder (v.sortKeys.code place) (w.sortKeys.code place) := by
  have hcode := codeOrder_sortKeys hplace hv hw [] []
  rwa [List.append_nil, List.append_nil, codeOrder_self, Ordering.then_eq, eq_comm] at hcode

theorem equalItems_of_order_eq {xs ys : List Value}
    (hequal : ∀ x ∈ xs, ∀ y ∈ ys, x.order y = .eq → x.equal y = true)
    (h : orderItems (xs.map Value.sortKeys) (ys.map Value.sortKeys) = .eq) :
    equalItems xs ys = true := by
  induction xs generalizing ys with
  | nil =>
    cases ys with
    | nil => rfl
    | cons y ys => cases h
  | cons x xs ih =>
    cases ys with
    | nil => cases h
    | cons y ys =>
      rw [List.map_cons, List.map_cons, orderItems, Ordering.then_eq_eq] at h
      rw [equalItems, Bool.and_eq_true]
      exact ⟨hequal x List.mem_cons_self y List.mem_cons_self h.1,
        ih (fun x hx y hy ↦ hequal x (List.mem_cons_of_mem _ hx) y (List.mem_cons_of_mem _ hy)) h.2⟩

theorem orderFields_eq_eq {xs ys : Fields} (h : orderFields xs ys = .eq) :
    xs.length = ys.length ∧
      ∀ entry ∈ xs, ∃ y, (entry.1, y) ∈ ys ∧ entry.2.orderSorted y = .eq := by
  induction xs generalizing ys with
  | nil =>
    cases ys with
    | nil => exact ⟨rfl, nofun⟩
    | cons y ys => cases h
  | cons x xs ih =>
    cases ys with
    | nil => cases h
    | cons y ys =>
      rw [orderFields, Ordering.then_eq_eq, Ordering.then_eq_eq,
        Std.LawfulEqOrd.compare_eq_iff_eq] at h
      obtain ⟨⟨hkey, hvalue⟩, hrest⟩ := h
      obtain ⟨hlength, hentries⟩ := ih hrest
      refine ⟨congrArg (· + 1) hlength, fun entry hentry ↦ ?_⟩
      rcases List.mem_cons.1 hentry with rfl | hentry
      · exact ⟨y.2, hkey ▸ List.mem_cons_self, hvalue⟩
      · obtain ⟨w, hw, ho⟩ := hentries entry hentry
        exact ⟨w, List.mem_cons_of_mem y hw, ho⟩

theorem equalFields_iff {xs ys : Fields} : equalFields xs ys = true ↔
    ∀ entry ∈ xs, (ys.get? entry.1).any entry.2.equal = true := by
  induction xs with
  | nil => exact iff_of_true rfl nofun
  | cons x xs ih => rw [equalFields, Bool.and_eq_true, ih, List.forall_mem_cons]

/-- Where the order of numbers tells apart what is not equal, so does that of values. -/
theorem equal_of_order_eq
    (hnumber : ∀ a b, S a → S b → a.order b = .eq → a.equal b = true) {v w : Value}
    (hv : v.Over S) (hw : w.Over S) (h : v.order w = .eq) : v.equal w = true := by
  induction hv generalizing w with
  | null => cases hw with
    | null => rfl
    | bool | number | string | array | object => cases h
  | bool a => cases hw with
    | bool b => cases a <;> cases b <;> first | rfl | cases h
    | null | number | string | array | object => cases h
  | number ha => cases hw with
    | number hb => exact hnumber _ _ ha hb h
    | null | bool | string | array | object => cases h
  | string a => cases hw with
    | string b => exact beq_iff_eq.2 (Std.LawfulEqOrd.eq_of_compare h)
    | null | bool | number | array | object => cases h
  | array _ ih => cases hw with
    | array hys =>
      rw [Value.order, Value.sortKeys, Value.sortKeys, sortItems_eq, sortItems_eq] at h
      exact equalItems_of_order_eq (fun x hx y hy ↦ ih x hx (hys y hy)) h
    | null | bool | number | string | object => cases h
  | @object xs _ _ ih => cases hw with
    | @object ys hkeys hys =>
      obtain ⟨hlength, hentries⟩ := orderFields_eq_eq h
      rw [Value.equal, Bool.and_eq_true, beq_iff_eq, equalFields_iff]
      refine ⟨?_, fun entry hentry ↦ ?_⟩
      · simpa only [(Fields.sortKeys_perm _).length_eq, sortFields_eq, List.length_map]
          using hlength
      · obtain ⟨y', hy', ho⟩ := hentries (entry.1, entry.2.sortKeys)
          (Value.mem_sortKeys.2 ⟨entry.2, hentry, rfl⟩)
        obtain ⟨y, hy, rfl⟩ := Value.mem_sortKeys.1 hy'
        rw [Fields.get?_of_mem hkeys hy, Option.any_some]
        exact ih entry hentry (hys _ hy) ho
    | null | bool | number | string | array => cases h

end AuditRules
