import AuditRules.Text.Digits
import Mathlib.Data.List.TakeDrop
import Mathlib.Data.List.TakeWhile

namespace AuditRules

theorem toNat_of_isDigit {c : Char} (h : c.isDigit = true) : 48 ≤ c.toNat ∧ c.toNat ≤ 57 := by
  simpa [Char.isDigit, UInt32.le_iff_toNat_le] using h

theorem toNat_of_isAlphanum {c : Char} (h : c.isAlphanum = true) :
    (48 ≤ c.toNat ∧ c.toNat ≤ 57) ∨ (65 ≤ c.toNat ∧ c.toNat ≤ 90) ∨
      (97 ≤ c.toNat ∧ c.toNat ≤ 122) := by
  rcases Bool.or_eq_true_iff.1 h with halpha | hdigit
  · rcases Bool.or_eq_true_iff.1 halpha with hupper | hlower
    · exact .inr (.inl (of_decide_eq_true hupper))
    · obtain ⟨hmin, hmax⟩ := Bool.and_eq_true_iff.1 hlower
      exact .inr (.inr ⟨of_decide_eq_true hmin, of_decide_eq_true hmax⟩)
  · exact .inl (toNat_of_isDigit hdigit)

theorem toLower_of_isDigit {c : Char} (h : c.isDigit = true) : c.toLower = c := by
  have hrange := toNat_of_isDigit h
  unfold Char.toLower
  apply dif_neg
  simp only [UInt32.le_iff_toNat_le, ge_iff_le]
  change ¬ (65 ≤ c.toNat ∧ c.toNat ≤ 90)
  omega

theorem isAlpha_of_toLower {c : Char} (h : c.toLower.isAlpha = true) : c.isAlpha = true := by
  unfold Char.toLower at h
  split at h
  · rename_i hupper
    exact Bool.or_eq_true_iff.2 (.inl (decide_eq_true hupper))
  · exact h

theorem readDigits?_eq_some {cs : List Char} {n : Nat} : readDigits? cs = some n ↔
    cs ≠ [] ∧ (∀ c ∈ cs, c.isDigit = true) ∧ digitsValue cs = n := by
  simp [readDigits?, and_assoc]

theorem digitsValue_toDigits (n : Nat) : digitsValue (Nat.toDigits 10 n) = n :=
  Nat.ofDigitChars_toDigits (by decide) (by decide)

theorem exists_span_digits (cs : List Char) : ∃ digits rest,
    cs.span Char.isDigit = (digits, rest) ∧ cs = digits ++ rest ∧
      ∀ c ∈ digits, c.isDigit = true := by
  refine ⟨_, _, List.span_eq_takeWhile_dropWhile _ cs, List.takeWhile_append_dropWhile.symm, ?_⟩
  intro c hc
  exact List.mem_takeWhile_imp hc

theorem span_digits {digits rest : List Char} (hdigits : ∀ c ∈ digits, c.isDigit = true)
    (hrest : ∀ c ∈ rest.head?, c.isDigit = false) :
    (digits ++ rest).span Char.isDigit = (digits, rest) := by
  have hsplit : rest.takeWhile Char.isDigit = [] ∧ rest.dropWhile Char.isDigit = rest := by
    cases rest with
    | nil => exact ⟨rfl, rfl⟩
    | cons c rest =>
      have hc := hrest c rfl
      exact ⟨List.takeWhile_cons_of_neg (by simp [hc]), List.dropWhile_cons_of_neg (by simp [hc])⟩
  rw [List.span_eq_takeWhile_dropWhile, List.takeWhile_append_of_pos hdigits,
    List.dropWhile_append_of_pos hdigits, hsplit.1, hsplit.2, List.append_nil]

inductive SignMark : List Char → Bool → Prop
  | absent : SignMark [] false
  | plus : SignMark ['+'] false
  | minus : SignMark ['-'] true

theorem exists_splitSign (cs : List Char) : ∃ sign negative rest,
    splitSign cs = (negative, rest) ∧ SignMark sign negative ∧ cs = sign ++ rest := by
  unfold splitSign
  split
  · exact ⟨['-'], _, _, rfl, .minus, rfl⟩
  · exact ⟨['+'], _, _, rfl, .plus, rfl⟩
  · exact ⟨[], _, _, rfl, .absent, rfl⟩

theorem splitSign_append {sign : List Char} {negative : Bool} (h : SignMark sign negative)
    {c : Char} (hminus : c ≠ '-') (hplus : c ≠ '+') (rest : List Char) :
    splitSign (sign ++ c :: rest) = (negative, c :: rest) := by
  cases h with
  | plus | minus => rfl
  | absent =>
    rw [List.nil_append]
    unfold splitSign
    split
    · rename_i heq
      exact absurd (List.cons.inj heq).1 hminus
    · rename_i heq
      exact absurd (List.cons.inj heq).1 hplus
    · rfl

theorem ne_sign_of_isDigit {c : Char} (h : c.isDigit = true) : c ≠ '-' ∧ c ≠ '+' := by
  constructor <;> rintro rfl <;> cases h

inductive Unsigned : List Char → Nat → Prop
  | intro {plus digits : List Char} (hplus : plus = [] ∨ plus = ['+']) (hne : digits ≠ [])
      (hdigits : ∀ c ∈ digits, c.isDigit = true)
      (hrange : digitsValue digits < 0x10000000000000000) :
      Unsigned (plus ++ digits) (digitsValue digits)

theorem readNat64?_eq_some_iff {cs : List Char} {n : Nat} :
    readNat64? cs = some n ↔ Unsigned cs n := by
  constructor
  · intro h
    obtain ⟨plus, digits, hplus, rfl, hdrop⟩ : ∃ plus digits, (plus = [] ∨ plus = ['+']) ∧
        cs = plus ++ digits ∧ (if cs.head? = some '+' then cs.drop 1 else cs) = digits := by
      by_cases hhead : cs.head? = some '+'
      · obtain ⟨rest, rfl⟩ := List.head?_eq_some_iff.1 hhead
        exact ⟨['+'], rest, .inr rfl, rfl, rfl⟩
      · exact ⟨[], cs, .inl rfl, rfl, if_neg hhead⟩
    rw [readNat64?, hdrop] at h
    obtain ⟨m, hread, h⟩ := Option.bind_eq_some_iff.1 h
    obtain ⟨hne, hdigits, rfl⟩ := readDigits?_eq_some.1 hread
    split at h
    · rename_i hrange
      obtain rfl := Option.some.inj h
      exact .intro hplus hne hdigits hrange
    · cases h
  · intro h
    cases h with
    | @intro plus digits hplus hne hdigits hrange =>
      have hdrop : (if (plus ++ digits).head? = some '+' then (plus ++ digits).drop 1
          else plus ++ digits) = digits := by
        rcases hplus with rfl | rfl
        · obtain ⟨c, rest, rfl⟩ := List.exists_cons_of_ne_nil hne
          have hc := (ne_sign_of_isDigit (hdigits c List.mem_cons_self)).2
          exact if_neg fun h ↦ hc (Option.some.inj h)
        · rfl
      have hread := readDigits?_eq_some.2 ⟨hne, hdigits, rfl⟩
      rw [readNat64?, hdrop, hread]
      exact if_pos hrange

end AuditRules
