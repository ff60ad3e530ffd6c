import AuditRules.Proofs.Comparator.Sequence
import AuditRules.Proofs.Value.Order

namespace AuditRules

variable {engine : PatternEngine}

namespace SequenceRule

variable {S : Number → Prop} {place : Number → Int × Int}

theorem keyValue_over {v : Value} (h : v.Over S) (key : String) : (keyValue key v).Over S := by
  cases h with
  | @object fields _ hfields =>
    change ((fields.get? key).getD .null).Over S
    cases hv : fields.get? key with
    | none => exact .null
    | some v => exact hfields _ (Fields.mem_of_get? hv)
  | null | bool | number | string | array => exact .null

def elementCode (place : Number → Int × Int) (key : Option String) (v : Value) : List Mark :=
  match key with
  | some key => (keyValue key v).sortKeys.code place ++ v.sortKeys.code place
  | none => v.sortKeys.code place

theorem codeOrder_element (hplace : Places S place) (key : Option String) {v w : Value}
    (hv : v.Over S) (hw : w.Over S) :
    codeOrder (elementCode place key v) (elementCode place key w) = elementOrder key v w := by
  have hvalue : codeOrder (v.sortKeys.code place) (w.sortKeys.code place) = v.order w :=
    (Value.order_eq_codeOrder hplace hv hw).symm
  cases key with
  | none => exact hvalue
  | some key =>
    rw [elementCode, elementCode, codeOrder_sortKeys hplace (keyValue_over hv key)
      (keyValue_over hw key), hvalue, elementOrder]

theorem equalItems_of_map_eq {f : Value → List Mark} {xs ys : List Value}
    (hequal : ∀ x ∈ xs, ∀ y ∈ ys, f x = f y → x.equal y = true) (h : xs.map f = ys.map f) :
    equalItems xs ys = true := by
  induction xs generalizing ys with
  | nil => rw [List.map_eq_nil_iff.1 h.symm, equalItems]
  | cons x xs ih =>
    cases ys with
    | nil => cases h
    | cons y ys =>
      obtain ⟨hhead, htail⟩ := List.cons.inj h
      rw [equalItems, Bool.and_eq_true]
      exact ⟨hequal x List.mem_cons_self y List.mem_cons_self hhead,
        ih (fun x hx y hy ↦ hequal x (List.mem_cons_of_mem _ hx) y (List.mem_cons_of_mem _ hy))
          htail⟩

theorem isOrderOn_of_places (hplace : Places S place) (key : Option String) {items : List Value}
    (hover : ∀ v ∈ items, v.Over S) : IsOrderOn (elementOrder key) items :=
  .of_key codeOrder fun v hv w hw ↦ (codeOrder_element hplace key (hover v hv) (hover w hw)).symm

/-- Over coherent numbers, sorting brings the permutations of a list to equal sequences. -/
theorem equalSorted_perm (hS : ∀ n, S n → n.IsJson) (hc : Number.Coherent S)
    (key : Option String) {items items' : List Value} (hover : ∀ v ∈ items, v.Over S)
    (hperm : items'.Perm items) : equalSorted key items items' = .ok true := by
  let place (n : Number) : Int × Int := (n.quanta, Number.tie S n)
  have hplace : Places S place := fun a b ha hb ↦ Number.order_eq hc.sortable hS ha hb
  have hover' : ∀ v ∈ items', v.Over S := fun v hv ↦ hover v (hperm.mem_iff.1 hv)
  rw [equalSorted_ok (sortItems_ok (.inr (isOrderOn_of_places hplace key hover)))
    (sortItems_ok (.inr (isOrderOn_of_places hplace key hover')))]
  refine congrArg Except.ok (equalItems_of_map_eq (f := elementCode place key) ?_ ?_)
  · intro x hx y hy hxy
    have hx := hover x ((insertionSort_perm _ items).mem_iff.1 hx)
    have hy := hover' y ((insertionSort_perm _ items').mem_iff.1 hy)
    have horder := codeOrder_element hplace key hx hy
    rw [hxy, codeOrder_self] at horder
    refine equal_of_order_eq (fun a b ha hb ↦ Number.equal_of_order_eq hc hS ha hb) hx hy ?_
    cases key with
    | none => exact horder.symm
    | some key => exact (Ordering.then_eq_eq.1 horder.symm).2
  · refine (map_insertionSort_perm codeOrder hperm fun v hv w hw ↦ ?_).symm
    rw [codeOrder_element hplace key (hover v hv) (hover w hw)]

def single (n : Number) : Value := .array [.number n]

theorem single_over {n : Number} (h : S n) : (single n).Over S := by
  refine .array fun v hv ↦ ?_
  obtain rfl := List.mem_singleton.1 hv
  exact .number h

theorem single_order (a b : Number) : (single a).order (single b) = a.order b :=
  Ordering.then_eq

theorem equalItems_single (a b : Number) (xs ys : List Value) :
    equalItems (single a :: xs) (single b :: ys) = (a.equal b && equalItems xs ys) := by
  rw [equalItems, single, single, Value.equal, equalItems, equalItems, Value.equal, Bool.and_true]

theorem sortItems_single {a b c : Number} (hba : b.order a ≠ .lt) (hcb : c.order b ≠ .lt) :
    sortItems none [single a, single b, single c] = .ok [single a, single b, single c] := by
  rw [sortItems_ok (.inl (by simp))]
  simp [elementOrder, single_order, insertionSort, insertLast, hba, hcb]

theorem firstSettles_of_not_whole {first : Value} (h : first.toWhole? = none) (ctx : Context)
    (expected : List Value) : (firstSettles ctx expected first).result = .ok false := by
  unfold firstSettles Value.shape
  rw [h]
  cases first <;> rfl

theorem compareExactly_result {first : Value} (h : first.toWhole? = none) (ctx : Context)
    (expected : List Value) (actual : Value) (rest : List Value) :
    (compareExactly ctx expected actual (first :: rest)).result =
      (equalSorted (sortKey first) (first :: rest) expected).map
        (.ofBool · ("list::match failure. Got=" ++ ctx.render actual)) := by
  rw [compareExactly_cons, Evaluation.result_bind_ok (firstSettles_of_not_whole h ctx expected)]
  cases equalSorted (sortKey first) (first :: rest) expected <;> rfl

def exactRule (expected : List Value) : Value :=
  .object [(Rule.typeKey, .string "list"), ("match", .array expected)]

theorem exactRule_asks (expected : List Value) :
    Fields.Asks [(Rule.typeKey, .string "list"), ("match", .array expected)] .sequence "match"
      (.array expected) :=
  Fields.asks_written (by decide) (by decide) (by decide) _

end SequenceRule

namespace Registry

open SequenceRule

theorem run_exactRule_result {first : Value} (h : first.toWhole? = none) (limits : Limits)
    (checkId : String) (expected rest : List Value) :
    ((builtins engine limits).run checkId (exactRule expected) (.array (first :: rest))).result =
      (equalSorted (sortKey first) (first :: rest) expected).map (.ofBool ·
        ("list::match failure. Got=" ++
          (Value.array (first :: rest)).render limits.rendering)) := by
  have hasks := exactRule_asks expected
  have hparse : ListRule.parse ⟨[(Rule.typeKey, .string "list"), ("match", .array expected)]⟩ =
      .ok (.exactly expected) :=
    parse_asks (fun v ↦ ListRule.exactly <$> ListRule.items "match" v) hasks
      (by simp [ListRule.modes])
  have hcompare : ((builtins engine limits).run checkId (exactRule expected)
      (.array (first :: rest))).result = (compareExactly ((builtins engine limits).context checkId
        limits.nesting) expected (.array (first :: rest)) (first :: rest)).result := by
    exact evaluate_array hasks hparse limits checkId limits.nesting (first :: rest)
  rw [hcompare, compareExactly_result h]
  rfl

theorem run_exactRule {first : Value} (h : first.toWhole? = none) (limits : Limits)
    (checkId : String) (expected rest : List Value) :
    ((builtins engine limits).run checkId (exactRule expected) (.array (first :: rest))).result =
        .ok .checkPassed ↔
      equalSorted (sortKey first) (first :: rest) expected = .ok true := by
  rw [run_exactRule_result h]
  cases equalSorted (sortKey first) (first :: rest) expected with
  | error e => simp [Except.map]
  | ok found =>
    cases found <;>
      simp [Except.map, Verdict.ofBool, Verdict.checkPassed, Verdict.pass, Verdict.fail]

/-- Every permutation of a list over some numbers passes as what is expected of the list. -/
def PermutationsPass (engine : PatternEngine) (limits : Limits) (S : Number → Prop) : Prop :=
  ∀ (checkId : String) (items items' : List Value), items ≠ [] →
    (∀ v ∈ items, v.Over S ∧ v.toWhole? = none) → items'.Perm items →
      ((builtins engine limits).run checkId (exactRule items') (.array items)).result =
        .ok .checkPassed

variable {limits : Limits} {S : Number → Prop}

theorem PermutationsPass.of_coherent (hS : ∀ n, S n → n.IsJson) (hc : Number.Coherent S) :
    PermutationsPass engine limits S := by
  intro checkId items items' hne hitems hperm
  cases items with
  | nil => exact absurd rfl hne
  | cons first rest =>
    rw [run_exactRule (hitems first List.mem_cons_self).2]
    exact equalSorted_perm hS hc _ (fun v hv ↦ (hitems v hv).1) hperm

/-- Numbers that come before each other in a circle are equal. -/
theorem PermutationsPass.equal_of_circle (h : PermutationsPass engine limits S) {a b c : Number}
    (ha : S a) (hb : S b) (hc : S c) (hba : b.order a ≠ .lt) (hcb : c.order b ≠ .lt)
    (hac : a.order c ≠ .lt) : a.equal b = true := by
  have hitems : ∀ v ∈ [single a, single b, single c], v.Over S ∧ v.toWhole? = none := by
    intro v hv
    simp only [List.mem_cons, List.not_mem_nil, or_false] at hv
    rcases hv with rfl | rfl | rfl
    · exact ⟨single_over ha, rfl⟩
    · exact ⟨single_over hb, rfl⟩
    · exact ⟨single_over hc, rfl⟩
  have hperm : [single b, single c, single a].Perm [single a, single b, single c] :=
    (List.perm_append_comm : ([single b, single c] ++ [single a]).Perm _)
  have hpass := (run_exactRule rfl limits "" _ _).1 (h "" _ _ nofun hitems hperm)
  change equalSorted none _ _ = _ at hpass
  rw [equalSorted_ok (sortItems_single hba hcb) (sortItems_single hcb hac), equalItems_single,
    Except.ok.injEq, Bool.and_eq_true] at hpass
  exact hpass.1

theorem PermutationsPass.coherent (hS : ∀ n, S n → n.IsJson)
    (h : PermutationsPass engine limits S) : Number.Coherent S := by
  intro m n hm hn hne hmn c hc hcm
  have hqn : c.quanta = (Number.integer n).quanta :=
    ((Number.equal_quantity_iff (hS _ hc) (hS _ hm)).1 hcm).trans
      ((Number.equal_quantity_iff (hS _ hm) (hS _ hn)).1 hmn)
  have hqm := (Number.equal_quantity_iff (hS _ hc) (hS _ hm)).1 hcm
  cases hi : c.toInt64? with
  | some i => rfl
  | none =>
    -- The third number closes a circle through the two integers, whichever of them is less.
    obtain ⟨hcm, hmc⟩ := Number.order_ties (hS _ hc) (hS _ hm) hi hqm
    obtain ⟨hcn, hnc⟩ := Number.order_ties (hS _ hc) (hS _ hn) hi hqn
    have hswap := Number.order_swap (hS _ hm) (hS _ hn)
    cases ho : (Number.integer m).order (.integer n) with
    | lt | eq =>
      have hequal := h.equal_of_circle hm hn hc (by rw [hswap, ho]; nofun) (by rw [hcn]; nofun)
        (by rw [hmc]; nofun)
      exact absurd ((Number.equal_iff (hS _ hm) (hS _ hn)).1 hequal) hne
    | gt =>
      have hequal := h.equal_of_circle hn hm hc (by rw [ho]; nofun) (by rw [hcm]; nofun)
        (by rw [hnc]; nofun)
      exact absurd ((Number.equal_iff (hS _ hn) (hS _ hm)).1 hequal).symm hne

/-- Lists over a set of numbers, none of whose elements is a whole number, pass against all their
permutations just where the numbers are coherent. -/
theorem permutationsPass_iff (limits : Limits) (hS : ∀ n, S n → n.IsJson) :
    PermutationsPass engine limits S ↔ Number.Coherent S :=
  ⟨PermutationsPass.coherent hS, PermutationsPass.of_coherent hS⟩

theorem permutationsPass_signed : (∀ n : Number, n.toInt64?.isSome = true → n.IsJson) ∧
    PermutationsPass Pattern.engine .default fun n ↦ n.toInt64?.isSome = true := by
  have hS : ∀ n : Number, n.toInt64?.isSome = true → n.IsJson := by
    intro n hn
    obtain ⟨i, hi⟩ := Option.isSome_iff_exists.1 hn
    obtain ⟨rfl, hmin, hmax⟩ := Number.toInt64?_eq_some.1 hi
    exact ⟨hmin, by omega⟩
  exact ⟨hS, (permutationsPass_iff .default hS).2 fun _ _ _ _ _ _ c hc _ ↦ hc⟩

/-- The two largest integers of 64 bits are rounded to one number, which the order looks at, and
yet not equal. -/
def largest : List Value := [.ofInt 0xffffffffffffffff, .ofInt 0xfffffffffffffffe]

theorem run_largest_reverse :
    (∀ v ∈ largest, v.Over Number.IsJson ∧ v.toWhole? = none) ∧ largest.reverse.Perm largest ∧
      ((builtins Pattern.engine .default).run "check" (exactRule largest.reverse)
        (.array largest)).result ≠ .ok .checkPassed := by
  have hlargest : ∀ v ∈ largest, v.Over Number.IsJson ∧ v.toWhole? = none := by
    intro v hv
    simp only [largest, List.mem_cons, List.not_mem_nil, or_false] at hv
    rcases hv with rfl | rfl
    · exact ⟨.number ⟨by decide, by decide⟩, by decide +kernel⟩
    · exact ⟨.number ⟨by decide, by decide⟩, by decide +kernel⟩
  refine ⟨hlargest, List.reverse_perm largest, fun h ↦ ?_⟩
  have hequal := (run_exactRule (hlargest _ List.mem_cons_self).2 .default "check" _ _).1 h
  revert hequal
  decide +kernel

end Registry

end AuditRules
