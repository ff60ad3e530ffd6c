import AuditRules.Proofs.Value.Order

namespace AuditRules

namespace Number

def Separated (S : Number → Prop) : Prop :=
  ∀ m n x, S (integer m) → S (integer n) → S (double x) →
    (integer m).equal (double x) = true → (integer n).equal (double x) = true → m = n

variable {S : Number → Prop} {a b c : Number}

theorem equal_symm (ha : a.IsJson) (hb : b.IsJson) (h : a.equal b = true) : b.equal a = true := by
  rw [equal_iff ha hb] at h
  rw [equal_iff hb ha]
  cases a <;> cases b <;> exact h.symm

theorem quanta_eq_of_equal (ha : a.IsJson) (hb : b.IsJson) (h : a.equal b = true) :
    a.quanta = b.quanta := by
  rw [equal_iff ha hb] at h
  cases a with
  | integer m =>
    cases b with
    | integer n => exact congrArg Binary64.nearestInt h
    | double y => exact h
  | double x => cases b <;> exact h

theorem Separated.equal_trans (hseparated : Separated S) (hS : ∀ n, S n → n.IsJson) (ha : S a)
    (hb : S b) (hc : S c) (hab : a.equal b = true) (hbc : b.equal c = true) :
    a.equal c = true := by
  have hac := (quanta_eq_of_equal (hS a ha) (hS b hb) hab).trans
    (quanta_eq_of_equal (hS b hb) (hS c hc) hbc)
  rw [equal_iff (hS a ha) (hS c hc)]
  cases a with
  | double x => cases c <;> exact hac
  | integer m =>
    cases c with
    | double z => exact hac
    | integer k =>
      cases b with
      | integer n =>
        have hmn : m = n := (equal_iff (hS _ ha) (hS _ hb)).1 hab
        have hnk : n = k := (equal_iff (hS _ hb) (hS _ hc)).1 hbc
        exact hmn.trans hnk
      | double y => exact hseparated m k y ha hc hb hab (equal_symm (hS _ hb) (hS _ hc) hbc)

end Number

theorem equalItems_trans {xs ys zs : List Value}
    (htrans : ∀ x ∈ xs, ∀ y ∈ ys, ∀ z ∈ zs, x.equal y = true → y.equal z = true →
      x.equal z = true)
    (hxy : equalItems xs ys = true) (hyz : equalItems ys zs = true) : equalItems xs zs = true := by
  induction xs generalizing ys zs with
  | nil =>
    cases ys with
    | nil => exact hyz
    | cons y ys => cases hxy
  | cons x xs ih =>
    cases ys with
    | nil => cases hxy
    | cons y ys =>
      cases zs with
      | nil => cases hyz
      | cons z zs =>
        rw [equalItems, Bool.and_eq_true] at hxy hyz ⊢
        refine ⟨htrans x List.mem_cons_self y List.mem_cons_self z List.mem_cons_self hxy.1 hyz.1,
          ?_⟩
        apply ih _ hxy.2 hyz.2
        intro u hu v hv w hw
        exact htrans u (List.mem_cons_of_mem x hu) v (List.mem_cons_of_mem y hv) w
          (List.mem_cons_of_mem z hw)

theorem equalFields_trans {xs ys zs : Fields}
    (htrans : ∀ x ∈ xs, ∀ y ∈ ys, ∀ z ∈ zs, x.2.equal y.2 = true → y.2.equal z.2 = true →
      x.2.equal z.2 = true)
    (hxy : equalFields xs ys = true) (hyz : equalFields ys zs = true) :
    equalFields xs zs = true := by
  rw [equalFields_iff] at hxy hyz ⊢
  intro entry hentry
  obtain ⟨y, hy, hequal⟩ := (Option.any_eq_true _ _).1 (hxy entry hentry)
  have hmem := Fields.mem_of_get? hy
  obtain ⟨z, hz, hequal'⟩ := (Option.any_eq_true _ _).1 (hyz _ hmem)
  have hchain := htrans entry hentry _ hmem _ (Fields.mem_of_get? hz) hequal hequal'
  rw [hz, Option.any_some]
  exact hchain

namespace Value

variable {S : Number → Prop}

/-- Transitivity passes from the numbers in values to the values. -/
theorem equal_trans
    (hnumber : ∀ a b c, S a → S b → S c → a.equal b = true → b.equal c = true →
      a.equal c = true)
    {u v w : Value} (hu : u.Over S) (hv : v.Over S) (hw : w.Over S) (huv : u.equal v = true)
    (hvw : v.equal w = true) : u.equal w = true := by
  induction hu generalizing v w with
  | null => cases hv with
    | null => exact hvw
    | bool | number | string | array | object => cases huv
  | bool a => cases hv with
    | bool b =>
      rw [equal, beq_iff_eq] at huv
      rwa [huv]
    | null | number | string | array | object => cases huv
  | number ha => cases hv with
    | number hb => cases hw with
      | number hc =>
        rw [equal] at huv hvw ⊢
        exact hnumber _ _ _ ha hb hc huv hvw
      | null | bool | string | array | object => cases hvw
    | null | bool | string | array | object => cases huv
  | string s => cases hv with
    | string t =>
      rw [equal, beq_iff_eq] at huv
      rwa [huv]
    | null | bool | number | array | object => cases huv
  | array _ ih => cases hv with
    | array hys => cases hw with
      | array hzs =>
        rw [equal] at huv hvw ⊢
        apply equalItems_trans _ huv hvw
        intro x hx y hy z hz
        exact ih x hx (hys y hy) (hzs z hz)
      | null | bool | number | string | object => cases hvw
    | null | bool | number | string | object => cases huv
  | object _ _ ih => cases hv with
    | object _ hys => cases hw with
      | object _ hzs =>
        rw [equal, Bool.and_eq_true, beq_iff_eq] at huv hvw ⊢
        refine ⟨huv.1.trans hvw.1, ?_⟩
        apply equalFields_trans _ huv.2 hvw.2
        intro x hx y hy z hz
        exact ih x hx (hys y hy) (hzs z hz)
      | null | bool | number | string | array => cases hvw
    | null | bool | number | string | array => cases huv

def TransitiveOver (S : Number → Prop) : Prop :=
  ∀ u v w : Value, u.Over S → v.Over S → w.Over S → u.equal v = true → v.equal w = true →
    u.equal w = true

theorem TransitiveOver.separated (hS : ∀ n, S n → n.IsJson) (h : TransitiveOver S) :
    Number.Separated S := by
  intro m n x hm hn hx hmx hnx
  have hxn := Number.equal_symm (hS _ hn) (hS _ hx) hnx
  have hvalues := h (.number (.integer m)) (.number (.double x)) (.number (.integer n))
    (.number hm) (.number hx) (.number hn)
  simp only [equal] at hvalues
  exact (Number.equal_iff (hS _ hm) (hS _ hn)).1 (hvalues hmx hxn)

/-- Equality of values is transitive, at any depth, just where no double equals two integers. -/
theorem transitiveOver_iff (hS : ∀ n, S n → n.IsJson) :
    TransitiveOver S ↔ Number.Separated S := by
  constructor
  · exact TransitiveOver.separated hS
  · intro hseparated u v w hu hv hw
    exact equal_trans (fun _ _ _ ↦ hseparated.equal_trans hS) hu hv hw

theorem separated_exact : Number.Separated Number.Exact := by
  intro m n x hm hn hx hmx hnx
  have hmq := Number.quanta_eq_of_equal hm.isJson hx.isJson hmx
  have hnq := Number.quanta_eq_of_equal hn.isJson hx.isJson hnx
  exact hm.eq_of_quanta_eq hn (hmq.trans hnq.symm)

theorem transitiveOver_exact :
    (∀ n : Number, n.Exact → n.IsJson) ∧ TransitiveOver Number.Exact :=
  ⟨fun _ h ↦ h.isJson, (transitiveOver_iff fun _ h ↦ h.isJson).2 separated_exact⟩

def lastExact : Binary64 where
  negative := false
  quanta := 9007199254740992 * Binary64.one
  representable := ⟨1, 1127, by decide, by decide +kernel⟩
  lt_bound := by decide +kernel

theorem equal_chain_broken :
    (ofInt 9007199254740992).Over Number.IsJson ∧ (number (.double lastExact)).Over Number.IsJson ∧
    (ofInt 9007199254740993).Over Number.IsJson ∧
    (ofInt 9007199254740992).equal (.number (.double lastExact)) = true ∧
    (number (.double lastExact)).equal (.ofInt 9007199254740993) = true ∧
    (ofInt 9007199254740992).equal (.ofInt 9007199254740993) = false := by
  have hjson : (Number.integer 9007199254740992).IsJson ∧
      (Number.integer 9007199254740993).IsJson := ⟨⟨by decide, by decide⟩, by decide, by decide⟩
  refine ⟨.number hjson.1, .number trivial, .number hjson.2, ?_, ?_, ?_⟩ <;> decide +kernel

end Value

end AuditRules
