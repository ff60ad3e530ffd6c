import AuditRules.Proofs.Value.Order

namespace AuditRules

namespace Number

def Signed : Number → Prop
  | integer n => -0x8000000000000000 ≤ n ∧ n < 0x8000000000000000
  | double _ => False

theorem Signed.isJson {n : Number} (h : n.Signed) : n.IsJson := by
  cases n with
  | integer n => exact ⟨h.1, Int.lt_trans h.2 (by decide)⟩
  | double x => exact h.elim

theorem Signed.toInt64? {n : Number} (h : n.Signed) : n.toInt64?.isSome = true := by
  cases n with
  | integer n => exact Option.isSome_iff_exists.2 ⟨n, toInt64?_eq_some.2 ⟨rfl, h⟩⟩
  | double x => exact h.elim

theorem coherent_signed : Coherent Signed := fun _ _ _ _ _ _ _ hc _ ↦ hc.toInt64?

end Number

namespace Value

variable {S : Number → Prop} {place : Number → Int × Int} {a b c : Value}

theorem order_swap_of_places (hplace : Places S place) (ha : a.Over S) (hb : b.Over S) :
    b.order a = (a.order b).swap := by
  rw [order_eq_codeOrder hplace ha hb, order_eq_codeOrder hplace hb ha]
  exact Std.OrientedCmp.eq_swap

theorem order_trans_of_places (hplace : Places S place) (ha : a.Over S) (hb : b.Over S)
    (hc : c.Over S) (hab : a.order b ≠ .gt) (hbc : b.order c ≠ .gt) : a.order c ≠ .gt := by
  rw [order_eq_codeOrder hplace ha hb] at hab
  rw [order_eq_codeOrder hplace hb hc] at hbc
  rw [order_eq_codeOrder hplace ha hc]
  have hle :=
    Std.TransCmp.isLE_trans (Ordering.isLE_iff_ne_gt.2 hab) (Ordering.isLE_iff_ne_gt.2 hbc)
  exact Ordering.isLE_iff_ne_gt.1 hle

/-- On values whose numbers are signed integers the order is lawful: exchanging two values reverses
it, it is transitive, and values that tie are equal, whatever the order of their keys. -/
theorem order_lawful (ha : a.Over Number.Signed) (hb : b.Over Number.Signed)
    (hc : c.Over Number.Signed) :
    b.order a = (a.order b).swap ∧ (a.order b ≠ .gt → b.order c ≠ .gt → a.order c ≠ .gt) ∧
      (a.order b = .eq → a.equal b = true) := by
  have hplace : Places Number.Signed fun n ↦ (n.quanta, Number.tie Number.Signed n) :=
    fun _ _ ↦ Number.order_eq Number.coherent_signed.sortable fun _ h ↦ h.isJson
  refine ⟨order_swap_of_places hplace ha hb, order_trans_of_places hplace ha hb hc, ?_⟩
  apply equal_of_order_eq _ ha hb
  intro m n hm hn
  exact Number.equal_of_order_eq Number.coherent_signed (fun _ h ↦ h.isJson) hm hn

def service (port : Int) : Value :=
  .object [("name", .string "sshd"), ("ports", .array [.ofInt 22, .ofInt port])]

def serviceReversed (port : Int) : Value :=
  .object [("ports", .array [.ofInt 22, .ofInt port]), ("name", .string "sshd")]

theorem ports_over {port : Int} (h : (Number.integer port).Signed) :
    (array [ofInt 22, ofInt port]).Over Number.Signed := by
  apply Over.array
  simp only [List.mem_cons, List.not_mem_nil, or_false, forall_eq_or_imp, forall_eq]
  exact ⟨.number ⟨by decide, by decide⟩, .number h⟩

theorem service_over {port : Int} (h : (Number.integer port).Signed) :
    (service port).Over Number.Signed ∧ (serviceReversed port).Over Number.Signed := by
  constructor
  · apply Over.object (by simp [Fields.keys])
    simp only [List.mem_cons, List.not_mem_nil, or_false, forall_eq_or_imp, forall_eq]
    exact ⟨.string "sshd", ports_over h⟩
  · apply Over.object (by simp [Fields.keys])
    simp only [List.mem_cons, List.not_mem_nil, or_false, forall_eq_or_imp, forall_eq]
    exact ⟨ports_over h, .string "sshd"⟩

theorem order_services :
    (service (-1)).Over Number.Signed ∧ (service 2222).Over Number.Signed ∧
    (serviceReversed 2222).Over Number.Signed ∧
    (service (-1)).order (service 2222) = .lt ∧
    (service 2222).order (serviceReversed 2222) = .eq ∧
    (service (-1)).order (serviceReversed 2222) ≠ .gt ∧
    (serviceReversed 2222).order (service 2222) = .eq ∧
    (service 2222).equal (serviceReversed 2222) = true := by
  have hports : (Number.integer (-1)).Signed ∧ (Number.integer 2222).Signed :=
    ⟨⟨by decide, by decide⟩, by decide, by decide⟩
  obtain ⟨hfirst, -⟩ := service_over hports.1
  obtain ⟨hsecond, hthird⟩ := service_over hports.2
  have hlt : (service (-1)).order (service 2222) = .lt := by decide +kernel
  have htie : (service 2222).order (serviceReversed 2222) = .eq := by decide +kernel
  refine ⟨hfirst, hsecond, hthird, hlt, htie, ?_, ?_, ?_⟩
  · exact (order_lawful hfirst hsecond hthird).2.1 (by simp [hlt]) (by simp [htie])
  · rw [(order_lawful hsecond hthird hthird).1, htie]
    rfl
  · exact (order_lawful hsecond hthird hthird).2.2 htie

end Value

end AuditRules
