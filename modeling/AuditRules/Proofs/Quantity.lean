import AuditRules.Proofs.Binary64
import AuditRules.Proofs.Text.Digits
import AuditRules.Quantity.Text

namespace AuditRules.Quantity

open Binary64 (one bound)

/-- The number nearest to `digits * 10 ^ exponent`, whatever its size. -/
def nearestDecimal (negative : Bool) (digits : Nat) (exponent : Int) : Quantity :=
  ofRatio negative (digits * Nat.pow 10 exponent.toNat) (Nat.pow 10 (-exponent).toNat)

theorem ofRatio_congr {negative : Bool} {m n c d : Nat}
    (h : Binary64.nearest (m * one) c = Binary64.nearest (n * one) d) :
    ofRatio negative m c = ofRatio negative n d := by
  have hmagnitude : ∀ {i j : Nat} (hi : Binary64.Representable i) (hj : Binary64.Representable j),
      i = j → ofMagnitude negative i hi = ofMagnitude negative j hj := by
    intro i j hi hj hij
    subst hij
    rfl
  exact hmagnitude _ _ h

theorem ofRatio_tiny {num den : Nat} (h : 2 * (num * one) < den) (negative : Bool) :
    ofRatio negative num den = ofRatio negative 0 1 := by
  apply ofRatio_congr
  rw [Binary64.nearest_eq_zero h, Binary64.nearest_eq_zero (by simp)]

theorem ofRatio_huge {num den : Nat} (hden : 0 < den) (h : bound * den ≤ num * one)
    (negative : Bool) : ofRatio negative num den = .infinite negative := by
  have hlarge := Nat.not_lt.2 (Binary64.bound_le_nearest hden h)
  rw [ofRatio, ofMagnitude, dif_neg hlarge]

theorem lt_pow_length (n : Nat) : n < Nat.pow 10 (Nat.toDigits 10 n).length :=
  (Nat.length_toDigits_le_iff (by decide) (List.length_pos_iff.2 Nat.toDigits_ne_nil)).1
    (Nat.le_refl _)

theorem pow_length_le {n : Nat} (h : n ≠ 0) : Nat.pow 10 ((Nat.toDigits 10 n).length - 1) ≤ n := by
  by_cases hone : (Nat.toDigits 10 n).length = 1
  · rw [hone]
    exact Nat.one_le_iff_ne_zero.2 h
  · have hpos : 0 < (Nat.toDigits 10 n).length := List.length_pos_iff.2 Nat.toDigits_ne_nil
    have hlength := Nat.length_toDigits_le_iff (b := 10) (n := n) (by decide)
      (k := (Nat.toDigits 10 n).length - 1) (by omega)
    exact Nat.not_lt.1 fun hlt ↦ absurd (hlength.2 hlt) (by omega)

theorem two_mul_one_le : 2 * one ≤ Nat.pow 10 330 := by decide +kernel

theorem bound_le_pow : bound ≤ Nat.pow 10 330 * one := by decide +kernel

theorem nearestDecimal_tiny {digits k : Nat} {exponent : Int} (hk : 2 * one ≤ Nat.pow 10 k)
    (h : ((Nat.toDigits 10 digits).length : Int) + exponent < -k) (negative : Bool) :
    nearestDecimal negative digits exponent = ofRatio negative 0 1 := by
  have hexp : exponent.toNat = 0 := by omega
  have hplaces : (Nat.toDigits 10 digits).length + k ≤ (-exponent).toNat := by omega
  have hsmall : 2 * (digits * one) < Nat.pow 10 (-exponent).toNat :=
    calc 2 * (digits * one) = digits * (2 * one) := Nat.mul_left_comm ..
      _ ≤ digits * Nat.pow 10 k := Nat.mul_le_mul_left _ hk
      _ < Nat.pow 10 (Nat.toDigits 10 digits).length * Nat.pow 10 k :=
        Nat.mul_lt_mul_of_pos_right (lt_pow_length digits) (Nat.pow_pos (by decide))
      _ = Nat.pow 10 ((Nat.toDigits 10 digits).length + k) := (Nat.pow_add 10 _ k).symm
      _ ≤ Nat.pow 10 (-exponent).toNat := Nat.pow_le_pow_right (by decide) hplaces
  rw [nearestDecimal, hexp, show Nat.pow 10 0 = 1 from rfl, Nat.mul_one]
  exact ofRatio_tiny hsmall negative

theorem nearestDecimal_huge {digits k : Nat} {exponent : Int} (hk : bound ≤ Nat.pow 10 k * one)
    (hne : digits ≠ 0) (h : k < ((Nat.toDigits 10 digits).length : Int) + exponent)
    (negative : Bool) :
    nearestDecimal negative digits exponent = .infinite negative := by
  have hplaces : k + (-exponent).toNat ≤
      (Nat.toDigits 10 digits).length - 1 + exponent.toNat := by omega
  have hlarge : Nat.pow 10 k * Nat.pow 10 (-exponent).toNat ≤
      digits * Nat.pow 10 exponent.toNat :=
    calc Nat.pow 10 k * Nat.pow 10 (-exponent).toNat =
        Nat.pow 10 (k + (-exponent).toNat) := (Nat.pow_add 10 k _).symm
      _ ≤ Nat.pow 10 ((Nat.toDigits 10 digits).length - 1 + exponent.toNat) :=
        Nat.pow_le_pow_right (by decide) hplaces
      _ = Nat.pow 10 ((Nat.toDigits 10 digits).length - 1) * Nat.pow 10 exponent.toNat :=
        Nat.pow_add 10 _ _
      _ ≤ digits * Nat.pow 10 exponent.toNat := Nat.mul_le_mul_right _ (pow_length_le hne)
  apply ofRatio_huge (Nat.pow_pos (by decide))
  calc bound * Nat.pow 10 (-exponent).toNat ≤
      Nat.pow 10 k * one * Nat.pow 10 (-exponent).toNat := Nat.mul_le_mul_right _ hk
    _ = Nat.pow 10 k * Nat.pow 10 (-exponent).toNat * one := Nat.mul_right_comm ..
    _ ≤ digits * Nat.pow 10 exponent.toNat * one := Nat.mul_le_mul_right _ hlarge

theorem nearestDecimal_zero (negative : Bool) (exponent : Int) :
    nearestDecimal negative 0 exponent = ofRatio negative 0 1 := by
  have hpower : 0 < Nat.pow 10 (-exponent).toNat := Nat.pow_pos (by decide)
  rw [nearestDecimal, Nat.zero_mul]
  exact ofRatio_tiny (by rwa [Nat.zero_mul, Nat.mul_zero]) negative

/-- The power of ten is left out just where it cannot matter. -/
theorem ofDecimal_eq_nearest (negative : Bool) (digits : Nat) (exponent : Int) :
    ofDecimal negative digits exponent = nearestDecimal negative digits exponent := by
  unfold ofDecimal
  dsimp only
  by_cases hzero : digits = 0
  · rw [if_pos (.inl hzero), hzero, nearestDecimal_zero]
  by_cases htiny : ((Nat.toDigits 10 digits).length : Int) + exponent < -330
  · rw [if_pos (.inr htiny), nearestDecimal_tiny two_mul_one_le htiny]
  rw [if_neg (not_or.2 ⟨hzero, htiny⟩)]
  by_cases hhuge : 330 < ((Nat.toDigits 10 digits).length : Int) + exponent
  · rw [if_pos hhuge, nearestDecimal_huge bound_le_pow hzero hhuge]
  rw [if_neg hhuge, nearestDecimal]
  by_cases hexp : 0 ≤ exponent
  · have hnone : (-exponent).toNat = 0 := by omega
    rw [if_pos hexp, hnone, show Nat.pow 10 0 = 1 from rfl]
  · have hnone : exponent.toNat = 0 := by omega
    have habs : exponent.natAbs = (-exponent).toNat := by omega
    rw [if_neg hexp, hnone, habs, show Nat.pow 10 0 = 1 from rfl, Nat.mul_one]

inductive ExponentPart : List Char → Int → Prop
  | absent : ExponentPart [] 0
  | written {letter : Char} {sign digits : List Char} {negative : Bool}
      (hletter : letter = 'e' ∨ letter = 'E') (hsign : SignMark sign negative)
      (hne : digits ≠ []) (hdigits : ∀ c ∈ digits, c.isDigit = true) :
      ExponentPart (letter :: (sign ++ digits))
        (if negative then -(digitsValue digits : Int) else digitsValue digits)

/-- Digits with a point before, among or after them or with none, the number that they write without
the point, and how many of them stand after it. -/
inductive Significand : List Char → Nat → Nat → Prop
  | whole {digits : List Char} (hne : digits ≠ []) (hdigits : ∀ c ∈ digits, c.isDigit = true) :
      Significand digits (digitsValue digits) 0
  | pointed {whole fraction : List Char} (hne : whole ++ fraction ≠ [])
      (hwhole : ∀ c ∈ whole, c.isDigit = true) (hfraction : ∀ c ∈ fraction, c.isDigit = true) :
      Significand (whole ++ '.' :: fraction) (digitsValue (whole ++ fraction)) fraction.length

def Spells (cs : List Char) (word : String) : Prop := String.ofList (cs.map Char.toLower) = word

instance (cs : List Char) (word : String) : Decidable (Spells cs word) :=
  inferInstanceAs (Decidable (_ = _))

/-- The texts of quantities: a sign, then a decimal, which is rounded once, or a word. -/
inductive Literal : List Char → Quantity → Prop
  | decimal {sign significand exponent : List Char} {negative : Bool} {digits places : Nat}
      {e : Int} (hsign : SignMark sign negative)
      (hsignificand : Significand significand digits places)
      (hexponent : ExponentPart exponent e) :
      Literal (sign ++ (significand ++ exponent)) (nearestDecimal negative digits (e - places))
  | infinite {sign word : List Char} {negative : Bool} (hsign : SignMark sign negative)
      (hword : Spells word "inf" ∨ Spells word "infinity") :
      Literal (sign ++ word) (.infinite negative)
  | undefined {sign word : List Char} {negative : Bool} (hsign : SignMark sign negative)
      (hword : Spells word "nan") : Literal (sign ++ word) .undefined

theorem readExponent?_eq_some_iff {cs : List Char} {e : Int} :
    readExponent? cs = some e ↔ ExponentPart cs e := by
  constructor
  · intro h
    cases cs with
    | nil =>
      obtain rfl := Option.some.inj h
      exact .absent
    | cons letter rest =>
      obtain ⟨sign, negative, digits, hsplit, hsign, rfl⟩ := exists_splitSign rest
      simp only [readExponent?, hsplit, Option.ite_none_right_eq_some] at h
      obtain ⟨hletter, h⟩ := h
      obtain ⟨n, hn, rfl⟩ := Option.map_eq_some_iff.1 h
      obtain ⟨hne, hdigits, rfl⟩ := readDigits?_eq_some.1 hn
      exact .written hletter hsign hne hdigits
  · intro h
    cases h with
    | absent => rfl
    | @written letter sign digits negative hletter hsign hne hdigits =>
      have hread : readDigits? digits = some (digitsValue digits) :=
        readDigits?_eq_some.2 ⟨hne, hdigits, rfl⟩
      obtain ⟨c, rest, rfl⟩ := List.exists_cons_of_ne_nil hne
      have hc := ne_sign_of_isDigit (hdigits c List.mem_cons_self)
      simp only [readExponent?, if_pos hletter, splitSign_append hsign hc.1 hc.2, hread,
        Option.map_some]

theorem ExponentPart.head {cs : List Char} {e : Int} (h : ExponentPart cs e) :
    ∀ c ∈ cs.head?, c = 'e' ∨ c = 'E' := by
  cases h with
  | absent => nofun
  | written hletter =>
    intro c hc
    rwa [← Option.some.inj hc]

theorem ExponentPart.head_not_digit {cs : List Char} {e : Int} (h : ExponentPart cs e) :
    ∀ c ∈ cs.head?, c.isDigit = false := by
  intro c hc
  rcases h.head c hc with rfl | rfl <;> rfl

theorem readLiteral?_whole {digits exponent : List Char} {e : Int} (hne : digits ≠ [])
    (hdigits : ∀ c ∈ digits, c.isDigit = true) (hexponent : ExponentPart exponent e)
    (negative : Bool) : readLiteral? negative (digits ++ exponent) =
      some (ofDecimal negative (digitsValue digits) e) := by
  have hread := readExponent?_eq_some_iff.2 hexponent
  unfold readLiteral?
  rw [span_digits hdigits hexponent.head_not_digit]
  cases hexponent with
  | absent => simp [hne, hread]
  | @written letter _ _ _ hletter =>
    rcases hletter with rfl | rfl <;> simp [hne, hread]

theorem readLiteral?_pointed {whole fraction exponent : List Char} {e : Int}
    (hne : whole ++ fraction ≠ []) (hwhole : ∀ c ∈ whole, c.isDigit = true)
    (hfraction : ∀ c ∈ fraction, c.isDigit = true) (hexponent : ExponentPart exponent e)
    (negative : Bool) : readLiteral? negative (whole ++ '.' :: fraction ++ exponent) =
      some (ofDecimal negative (digitsValue (whole ++ fraction)) (e - fraction.length)) := by
  have hread := readExponent?_eq_some_iff.2 hexponent
  have hpoint : ∀ c ∈ ('.' :: (fraction ++ exponent)).head?, c.isDigit = false := by
    intro c hc
    obtain rfl := Option.some.inj hc
    rfl
  have hempty : (whole.isEmpty && fraction.isEmpty) = false := by
    simpa using hne
  rw [List.append_assoc, List.cons_append]
  simp only [readLiteral?, span_digits hwhole hpoint,
    span_digits hfraction hexponent.head_not_digit, hempty, hread]
  rfl

theorem readLiteral?_eq_some_iff {negative : Bool} {cs : List Char} {q : Quantity} :
    readLiteral? negative cs = some q ↔ ∃ significand exponent digits places e,
      Significand significand digits places ∧ ExponentPart exponent e ∧
      cs = significand ++ exponent ∧ nearestDecimal negative digits (e - places) = q := by
  constructor
  · intro h
    unfold readLiteral? at h
    obtain ⟨whole, rest, hspan, rfl, hwhole⟩ := exists_span_digits cs
    rw [hspan] at h
    dsimp only at h
    split at h
    · -- Digits may stand on one side of a point only.
      rename_i rest
      obtain ⟨fraction, tail, hspan, rfl, hfraction⟩ := exists_span_digits rest
      rw [hspan] at h
      obtain ⟨hne, h⟩ := Option.ite_none_left_eq_some.1 h
      obtain ⟨e, he, rfl⟩ := Option.map_eq_some_iff.1 h
      have hne : whole ++ fraction ≠ [] := by simpa using hne
      rw [ofDecimal_eq_nearest]
      exact ⟨_, tail, _, _, e, .pointed hne hwhole hfraction, readExponent?_eq_some_iff.1 he,
        by simp, rfl⟩
    · obtain ⟨hne, h⟩ := Option.ite_none_left_eq_some.1 h
      obtain ⟨e, he, rfl⟩ := Option.map_eq_some_iff.1 h
      have hne : whole ≠ [] := by simpa using hne
      rw [ofDecimal_eq_nearest, List.append_nil, List.length_nil]
      exact ⟨whole, rest, _, _, e, .whole hne hwhole, readExponent?_eq_some_iff.1 he, rfl, rfl⟩
  · rintro ⟨significand, exponent, digits, places, e, hsignificand, hexponent, rfl, rfl⟩
    rw [← ofDecimal_eq_nearest]
    cases hsignificand with
    | whole hne hdigits =>
      rw [readLiteral?_whole hne hdigits hexponent, Int.natCast_zero, Int.sub_zero]
    | pointed hne hwhole hfraction => rw [readLiteral?_pointed hne hwhole hfraction hexponent]

theorem Significand.head {cs : List Char} {digits places : Nat}
    (h : Significand cs digits places) :
    ∃ c rest, cs = c :: rest ∧ (c.isDigit = true ∨ c = '.') := by
  cases h with
  | whole hne hdigits =>
    obtain ⟨c, rest, rfl⟩ := List.exists_cons_of_ne_nil hne
    exact ⟨c, rest, rfl, .inl (hdigits c List.mem_cons_self)⟩
  | @pointed whole fraction _ hwhole =>
    cases whole with
    | nil => exact ⟨'.', fraction, rfl, .inr rfl⟩
    | cons c rest => exact ⟨c, _, rfl, .inl (hwhole c List.mem_cons_self)⟩

theorem Significand.not_spells {cs : List Char} {digits places : Nat}
    (h : Significand cs digits places) (rest : List Char) (word : String)
    (hword : ∀ c ∈ word.toList.head?, c.isDigit = false ∧ c ≠ '.') :
    ¬ Spells (cs ++ rest) word := by
  rintro rfl
  obtain ⟨c, tail, rfl, hc⟩ := h.head
  have hlower : c.toLower = c := hc.elim toLower_of_isDigit (by rintro rfl; rfl)
  have hhead := hword c (by simp [hlower])
  rcases hc with hc | hc
  · rw [hc] at hhead
    cases hhead.1
  · exact hhead.2 hc

theorem Spells.splitSign_append {cs : List Char} {word : String} (h : Spells cs word)
    {letter : Char} (hletter : word.toList.head? = some letter) (hminus : letter ≠ '-')
    (hplus : letter ≠ '+') {sign : List Char} {negative : Bool} (hsign : SignMark sign negative) :
    splitSign (sign ++ cs) = (negative, cs) := by
  obtain rfl : String.ofList (cs.map Char.toLower) = word := h
  rw [String.toList_ofList, List.head?_map] at hletter
  obtain ⟨c, hc, rfl⟩ := Option.map_eq_some_iff.1 hletter
  obtain ⟨rest, rfl⟩ := List.head?_eq_some_iff.1 hc
  refine AuditRules.splitSign_append hsign ?_ ?_ rest
  · rintro rfl
    exact hminus rfl
  · rintro rfl
    exact hplus rfl

theorem parse?_of_splitSign {cs rest : List Char} {negative : Bool}
    (h : splitSign cs = (negative, rest)) : parse? cs =
      if Spells rest "nan" then some .undefined
      else if Spells rest "inf" ∨ Spells rest "infinity" then some (.infinite negative)
      else readLiteral? negative rest := by
  simp only [parse?, h]
  rfl

/-- Just the literals are read, each as what it writes. -/
theorem parse?_eq_some_iff {cs : List Char} {q : Quantity} : parse? cs = some q ↔ Literal cs q := by
  constructor
  · intro h
    obtain ⟨sign, negative, rest, hsplit, hsign, rfl⟩ := exists_splitSign cs
    rw [parse?_of_splitSign hsplit] at h
    split at h
    · rename_i hword
      obtain rfl := Option.some.inj h
      exact .undefined hsign hword
    · split at h
      · rename_i hword
        obtain rfl := Option.some.inj h
        exact .infinite hsign hword
      · obtain ⟨_, _, _, _, _, hsignificand, hexponent, rfl, rfl⟩ := readLiteral?_eq_some_iff.1 h
        exact .decimal hsign hsignificand hexponent
  · intro h
    cases h with
    | @decimal sign significand exponent negative digits places e hsign hsignificand hexponent =>
      have hread : readLiteral? negative (significand ++ exponent) =
          some (nearestDecimal negative digits (e - places)) :=
        readLiteral?_eq_some_iff.2 ⟨_, _, _, _, _, hsignificand, hexponent, rfl, rfl⟩
      have hnan := hsignificand.not_spells exponent "nan" (by simp)
      have hinf := hsignificand.not_spells exponent "inf" (by simp)
      have hinfinity := hsignificand.not_spells exponent "infinity" (by simp)
      obtain ⟨c, rest, rfl, hc⟩ := hsignificand.head
      have hfirst : c ≠ '-' ∧ c ≠ '+' := hc.elim ne_sign_of_isDigit (by rintro rfl; decide)
      have hsplit := splitSign_append hsign hfirst.1 hfirst.2 (rest ++ exponent)
      rw [List.cons_append] at hread hnan hinf hinfinity ⊢
      rw [parse?_of_splitSign hsplit, if_neg hnan, if_neg (not_or.2 ⟨hinf, hinfinity⟩), hread]
    | @infinite sign word negative hsign hword =>
      have hsplit : splitSign (sign ++ word) = (negative, word) := by
        rcases hword with hword | hword
        · exact hword.splitSign_append rfl (by decide) (by decide) hsign
        · exact hword.splitSign_append rfl (by decide) (by decide) hsign
      have hnan : ¬ Spells word "nan" := by
        intro hnan
        rcases hword with hword | hword
        · exact absurd (hnan.symm.trans hword) (by decide)
        · exact absurd (hnan.symm.trans hword) (by decide)
      rw [parse?_of_splitSign hsplit, if_neg hnan, if_pos hword]
    | @undefined sign word negative hsign hword =>
      have hsplit := hword.splitSign_append rfl (by decide) (by decide) hsign
      rw [parse?_of_splitSign hsplit, if_pos hword]

theorem nearestDecimal_whole (negative : Bool) (n : Nat) :
    nearestDecimal negative n 0 = ofRatio negative n 1 := by
  rw [nearestDecimal, Int.neg_zero, Int.toNat_zero, show Nat.pow 10 0 = 1 from rfl, Nat.mul_one]

theorem Literal.whole {sign digits : List Char} {negative : Bool} (hsign : SignMark sign negative)
    (hne : digits ≠ []) (hdigits : ∀ c ∈ digits, c.isDigit = true) :
    Literal (sign ++ digits) (ofRatio negative (digitsValue digits) 1) := by
  have h := Literal.decimal hsign (.whole hne hdigits) .absent
  rwa [List.append_nil, Int.natCast_zero, Int.sub_zero, nearestDecimal_whole] at h

def IsLiteralChar (c : Char) : Prop := c.isAlphanum = true ∨ c = '.' ∨ c = '+' ∨ c = '-'

theorem isLiteralChar_of_isDigit {c : Char} (h : c.isDigit = true) : IsLiteralChar c :=
  .inl (by simp [Char.isAlphanum, h])

theorem isLiteralChar_of_mark {sign : List Char} {negative : Bool} (h : SignMark sign negative) :
    ∀ c ∈ sign, IsLiteralChar c := by
  cases h with
  | absent => nofun
  | plus => simp [IsLiteralChar]
  | minus => simp [IsLiteralChar]

theorem Spells.isLiteralChar {cs : List Char} {word : String} (h : Spells cs word)
    (hword : ∀ c ∈ word.toList, c.isAlpha = true) : ∀ c ∈ cs, IsLiteralChar c := by
  obtain rfl : String.ofList (cs.map Char.toLower) = word := h
  intro c hc
  have hlower := hword c.toLower (by simpa using ⟨c, hc, rfl⟩)
  exact .inl (by simp [Char.isAlphanum, isAlpha_of_toLower hlower])

theorem ExponentPart.isLiteralChar {cs : List Char} {e : Int} (h : ExponentPart cs e) :
    ∀ c ∈ cs, IsLiteralChar c := by
  cases h with
  | absent => nofun
  | written hletter hsign _ hdigits =>
    intro c hc
    simp only [List.mem_cons, List.mem_append] at hc
    rcases hc with rfl | hc | hc
    · rcases hletter with rfl | rfl <;> exact .inl rfl
    · exact isLiteralChar_of_mark hsign c hc
    · exact isLiteralChar_of_isDigit (hdigits c hc)

theorem Significand.isLiteralChar {cs : List Char} {digits places : Nat}
    (h : Significand cs digits places) : ∀ c ∈ cs, IsLiteralChar c := by
  cases h with
  | whole _ hdigits => exact fun c hc ↦ isLiteralChar_of_isDigit (hdigits c hc)
  | pointed _ hwhole hfraction =>
    intro c hc
    simp only [List.mem_cons, List.mem_append] at hc
    rcases hc with hc | rfl | hc
    · exact isLiteralChar_of_isDigit (hwhole c hc)
    · exact .inr (.inl rfl)
    · exact isLiteralChar_of_isDigit (hfraction c hc)

theorem Literal.isLiteralChar {cs : List Char} {q : Quantity} (h : Literal cs q) :
    ∀ c ∈ cs, IsLiteralChar c := by
  intro c hc
  cases h with
  | decimal hsign hsignificand hexponent =>
    simp only [List.mem_append] at hc
    rcases hc with hc | hc | hc
    · exact isLiteralChar_of_mark hsign c hc
    · exact hsignificand.isLiteralChar c hc
    · exact hexponent.isLiteralChar c hc
  | infinite hsign hword =>
    rcases List.mem_append.1 hc with hc | hc
    · exact isLiteralChar_of_mark hsign c hc
    · exact hword.elim (·.isLiteralChar (by simp) c hc) (·.isLiteralChar (by simp) c hc)
  | undefined hsign hword =>
    rcases List.mem_append.1 hc with hc | hc
    · exact isLiteralChar_of_mark hsign c hc
    · exact hword.isLiteralChar (by simp) c hc

end AuditRules.Quantity
