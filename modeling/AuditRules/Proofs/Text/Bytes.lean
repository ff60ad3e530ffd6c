
namespace AuditRules

def textBytes (s : String) : List UInt8 := s.toByteArray.data.toList

theorem textBytes_ofList (cs : List Char) :
    textBytes (String.ofList cs) = cs.flatMap String.utf8EncodeChar := by
  simp [textBytes, List.utf8Encode]

variable {m n : Nat} {r s : List UInt8}

theorem cons_byte_lt (hm : m < 256) (hn : n < 256) (h : m < n ∨ m = n ∧ r < s) :
    UInt8.ofNat m :: r < UInt8.ofNat n :: s := by
  rw [List.cons_lt_cons_iff, UInt8.lt_iff_toNat_lt, UInt8.toNat_ofNat_of_lt' hm,
    UInt8.toNat_ofNat_of_lt' hn]
  exact h.imp id (And.imp_left (congrArg UInt8.ofNat))

theorem cons_continuation_lt (habove : m / 64 = n / 64) (h : m < n ∨ m = n ∧ r < s) :
    UInt8.ofNat (m % 64 + 128) :: r < UInt8.ofNat (n % 64 + 128) :: s := by
  apply cons_byte_lt (by omega) (by omega)
  exact h.imp (by omega) (And.imp_left (by omega))

theorem div_lt_or_eq {p : Prop} (k : Nat) (h : m < n) (hp : m / k = n / k → p) :
    m / k < n / k ∨ m / k = n / k ∧ p := by
  have hle : m / k ≤ n / k := Nat.div_le_div_right (Nat.le_of_lt h)
  rcases Nat.lt_or_eq_of_le hle with hlt | heq
  · exact .inl hlt
  · exact .inr ⟨heq, hp heq⟩

theorem encodeChar_lt {c d : Char} (h : c < d) (r s : List UInt8) :
    String.utf8EncodeChar c ++ r < String.utf8EncodeChar d ++ s := by
  have hlt : c.val.toNat < d.val.toNat := h
  have hbound : d.val.toNat < 0x110000 := by
    rcases d.valid with h | h <;> omega
  -- The first byte tells how many there are, and longer codes start with greater ones.
  fun_cases String.utf8EncodeChar c with
  | case1 v =>
    fun_cases String.utf8EncodeChar d with
    | case1 | case2 | case3 | case4 => exact cons_byte_lt (by omega) (by omega) (.inl (by omega))
  | case2 v =>
    fun_cases String.utf8EncodeChar d with
    | case1 => omega
    | case2 w =>
      have hfirst := div_lt_or_eq 64 hlt fun h ↦
        cons_continuation_lt (r := r) (s := s) h (.inl hlt)
      apply cons_byte_lt (by omega) (by omega)
      exact hfirst.imp (by omega) (And.imp_left (by omega))
    | case3 | case4 => exact cons_byte_lt (by omega) (by omega) (.inl (by omega))
  | case3 v =>
    fun_cases String.utf8EncodeChar d with
    | case1 | case2 => omega
    | case3 w =>
      have hfirst := div_lt_or_eq 4096 hlt fun h ↦
        cons_continuation_lt (by omega) (div_lt_or_eq 64 hlt fun h ↦
          cons_continuation_lt (r := r) (s := s) h (.inl hlt))
      apply cons_byte_lt (by omega) (by omega)
      exact hfirst.imp (by omega) (And.imp_left (by omega))
    | case4 => exact cons_byte_lt (by omega) (by omega) (.inl (by omega))
  | case4 v =>
    fun_cases String.utf8EncodeChar d with
    | case1 | case2 | case3 => omega
    | case4 w =>
      have hfirst := div_lt_or_eq 262144 hlt fun h ↦
        cons_continuation_lt (by omega) (div_lt_or_eq 4096 hlt fun h ↦
          cons_continuation_lt (by omega) (div_lt_or_eq 64 hlt fun h ↦
            cons_continuation_lt (r := r) (s := s) h (.inl hlt)))
      apply cons_byte_lt (by omega) (by omega)
      exact hfirst.imp (by omega) (And.imp_left (by omega))

/-- Texts are in the order of their bytes. -/
theorem textBytes_lt {a b : String} (h : a < b) : textBytes a < textBytes b := by
  have hchars : a.toList < b.toList := h
  rw [← String.ofList_toList (s := a), ← String.ofList_toList (s := b), textBytes_ofList,
    textBytes_ofList]
  generalize a.toList = cs, b.toList = ds at hchars
  induction hchars with
  | @nil d ds =>
    rw [List.flatMap_nil, List.flatMap_cons]
    have hcode : String.utf8EncodeChar d ≠ [] := String.utf8EncodeChar_ne_nil
    obtain ⟨byte, rest, hbytes⟩ := List.exists_cons_of_ne_nil hcode
    rw [hbytes]
    exact List.nil_lt_cons byte _
  | rel h => exact encodeChar_lt h _ _
  | cons _ ih =>
    rw [List.flatMap_cons, List.flatMap_cons]
    exact List.append_left_lt ih

end AuditRules
