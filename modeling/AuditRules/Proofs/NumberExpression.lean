import AuditRules.NumberExpression
import AuditRules.Proofs.Quantity
import AuditRules.Proofs.Text.Blank

namespace AuditRules

open Quantity (Literal IsLiteralChar)

theorem Quantity.IsLiteralChar.not_blank {c : Char} (h : IsLiteralChar c) : isBlank c = false := by
  rcases h with h | rfl | rfl | rfl
  · exact not_blank_of_isAlphanum h
  · rfl
  · rfl
  · rfl

theorem Quantity.Literal.ne_nil {cs : List Char} {q : Quantity} (h : Literal cs q) : cs ≠ [] := by
  rintro rfl
  cases Quantity.parse?_eq_some_iff.2 h

theorem Quantity.Literal.head_cases {gap cs : List Char} {q : Quantity} (h : Literal cs q)
    (hgap : Blank gap) (after : List Char) :
    ∀ c ∈ (gap ++ cs ++ after).head?, isBlank c = true ∨ IsLiteralChar c := by
  intro c hc
  obtain ⟨first, rest, rfl⟩ := List.exists_cons_of_ne_nil h.ne_nil
  cases gap with
  | nil =>
    obtain rfl := Option.some.inj hc
    exact .inr (h.isLiteralChar first List.mem_cons_self)
  | cons first gap =>
    obtain rfl := Option.some.inj hc
    exact .inl (hgap first List.mem_cons_self)

theorem Quantity.Literal.not_equalSign {gap cs : List Char} {q : Quantity} (h : Literal cs q)
    (hgap : Blank gap) (after : List Char) : ∀ c ∈ (gap ++ cs ++ after).head?, c ≠ '=' := by
  rintro c hc rfl
  rcases h.head_cases hgap after '=' hc with hblank | hliteral
  · cases hblank
  · simp [IsLiteralChar] at hliteral

namespace Relation

def IsSymbolChar (c : Char) : Prop := c = '>' ∨ c = '<' ∨ c = '=' ∨ c = '!'

theorem IsSymbolChar.not_blank {c : Char} (h : IsSymbolChar c) : isBlank c = false := by
  rcases h with rfl | rfl | rfl | rfl <;> rfl

theorem IsSymbolChar.not_literal {c : Char} (h : IsSymbolChar c) : ¬ IsLiteralChar c := by
  rcases h with rfl | rfl | rfl | rfl <;> simp [IsLiteralChar]

inductive Mark : List Char → Relation → Prop
  | absent : Mark [] .equal
  | symbol (r : Relation) : Mark r.symbol.toList r

theorem symbol_chars (r : Relation) : ∀ c ∈ r.symbol.toList, IsSymbolChar c := by
  cases r <;> simp [symbol, IsSymbolChar]

theorem symbol_head (r : Relation) (rest : List Char) :
    ∃ c tail, r.symbol.toList ++ rest = c :: tail ∧ IsSymbolChar c := by
  cases hsymbol : r.symbol.toList with
  | nil => cases r <;> cases hsymbol
  | cons c tail => exact ⟨c, tail ++ rest, rfl, r.symbol_chars c (hsymbol ▸ List.mem_cons_self)⟩

theorem exists_split (cs : List Char) :
    ∃ mark r rest, split cs = (r, rest) ∧ Mark mark r ∧ cs = mark ++ rest := by
  unfold split
  split
  · rename_i r hr
    have hstarts : r.symbol.toList.isPrefixOf cs = true := by simpa using List.find?_some hr
    obtain ⟨rest, rfl⟩ := List.isPrefixOf_iff_prefix.1 hstarts
    exact ⟨r.symbol.toList, r, rest, by rw [List.drop_left], .symbol r, rfl⟩
  · exact ⟨[], .equal, cs, rfl, .absent, rfl⟩

theorem split_of_plain {cs : List Char} (h : ∀ c ∈ cs.head?, ¬ IsSymbolChar c) :
    split cs = (.equal, cs) := by
  have hnone : all.find? (fun r ↦ r.symbol.toList.isPrefixOf cs) = none := by
    apply List.find?_eq_none.2
    intro r _ hr
    obtain ⟨rest, rfl⟩ := List.isPrefixOf_iff_prefix.1 hr
    obtain ⟨c, tail, htail, hc⟩ := r.symbol_head rest
    exact h c (htail ▸ rfl) hc
  rw [split, hnone]

/-- A symbol is found whole unless what follows it makes it longer. -/
theorem split_symbol (r : Relation) {rest : List Char} (h : ∀ c ∈ rest.head?, c ≠ '=') :
    split (r.symbol.toList ++ rest) = (r, rest) := by
  have hnot : ¬ ['='].isPrefixOf rest = true := by
    intro hrest
    obtain ⟨tail, rfl⟩ := List.isPrefixOf_iff_prefix.1 hrest
    exact h '=' rfl rfl
  have hfind : all.find? (fun s ↦ s.symbol.toList.isPrefixOf (r.symbol.toList ++ rest)) =
      some r := by
    cases r with
    | equal | notEqual | greaterOrEqual | lessOrEqual => rfl
    | greater =>
      rw [all, List.find?_cons_of_neg (by exact hnot)]
      rfl
    | less =>
      rw [all, List.find?_cons_of_neg (by exact Bool.false_ne_true),
        List.find?_cons_of_neg (by exact hnot)]
      rfl
  rw [split, hfind]
  exact congrArg (r, ·) List.drop_left

theorem symbol_eq (r : Relation) :
    ∃ c, r.symbol.toList = [c] ∨ r.symbol.toList = [c, '='] := by
  cases r with
  | equal | notEqual | greaterOrEqual | lessOrEqual => exact ⟨_, .inr rfl⟩
  | greater | less => exact ⟨_, .inl rfl⟩

theorem symbol_length_le {r s : Relation} {rest : List Char}
    (h : r.symbol.toList <+: s.symbol.toList ++ rest) (hrest : ∀ c ∈ rest.head?, c ≠ '=') :
    r.symbol.length ≤ s.symbol.length := by
  rw [← String.length_toList, ← String.length_toList]
  obtain ⟨tail, h⟩ := h
  obtain ⟨c, hr | hr⟩ := r.symbol_eq <;> obtain ⟨d, hs | hs⟩ := s.symbol_eq <;>
    rw [hr, hs] at h ⊢
  · simp
  · simp
  · -- The rest would go on with the sign that makes the symbol longer.
    have htail : '=' :: tail = rest := (List.cons.inj h).2
    exact absurd rfl (hrest '=' (htail ▸ rfl))
  · simp

def Leads (r : Relation) (cs : List Char) : Prop := r.symbol.toList <+: cs.dropWhile isBlank

end Relation

namespace NumberExpression

inductive Written : List Char → NumberExpression → Prop
  | intro {before mark gap literal after : List Char} {r : Relation} {q : Quantity}
      (hbefore : Blank before) (hmark : Relation.Mark mark r) (hgap : Blank gap)
      (hliteral : Literal literal q) (hafter : Blank after) :
      Written (before ++ mark ++ gap ++ literal ++ after) ⟨r, q⟩

theorem parseText_cases {text : String} {r : Relation} {rest : List Char}
    (h : Relation.split (trimBlank text.toList) = (r, rest)) :
    (∃ q, Quantity.parse? (trimBlank rest) = some q ∧ parseText text = .ok ⟨r, q⟩) ∨
      (Quantity.parse? (trimBlank rest) = none ∧
        ∃ reason, parseText text = .error (.invalidExpression text reason)) := by
  by_cases hempty : trimBlank rest = []
  · exact .inr ⟨hempty ▸ rfl, _, by simp [parseText, h, hempty]; rfl⟩
  cases hq : Quantity.parse? (trimBlank rest) with
  | none => exact .inr ⟨rfl, _, by simp [parseText, h, hempty, hq]; rfl⟩
  | some q => exact .inl ⟨q, rfl, by simp [parseText, h, hempty, hq]⟩

theorem parseText_answers (text : String) : (∃ e, parseText text = .ok e) ∨
    ∃ reason, parseText text = .error (.invalidExpression text reason) := by
  obtain ⟨_, r, rest, hsplit, -, -⟩ := Relation.exists_split (trimBlank text.toList)
  rcases parseText_cases hsplit with ⟨q, -, hok⟩ | ⟨-, herror⟩
  · exact .inl ⟨_, hok⟩
  · exact .inr herror

theorem written_of_parse? {text : String} {r : Relation} {rest : List Char} {q : Quantity}
    (h : Relation.split (trimBlank text.toList) = (r, rest))
    (hq : Quantity.parse? (trimBlank rest) = some q) : Written text.toList ⟨r, q⟩ := by
  obtain ⟨before, after, hbefore, hafter, htext⟩ := exists_trimBlank text.toList
  obtain ⟨gap, trail, hgap, htrail, hoperand⟩ := exists_trimBlank rest
  obtain ⟨mark, _, _, hsplit, hmark, hrest⟩ := Relation.exists_split (trimBlank text.toList)
  obtain ⟨rfl, rfl⟩ := Prod.mk.inj (h.symm.trans hsplit)
  have hwritten : text.toList = before ++ mark ++ gap ++ trimBlank rest ++ (trail ++ after) := by
    rw [htext, hrest]
    nth_rewrite 1 [hoperand]
    simp only [List.append_assoc]
  rw [hwritten]
  exact .intro hbefore hmark hgap (Quantity.parse?_eq_some_iff.1 hq) (htrail.append hafter)

theorem split_written {before mark gap literal after : List Char} {r : Relation} {q : Quantity}
    (hbefore : Blank before) (hmark : Relation.Mark mark r) (hgap : Blank gap)
    (hliteral : Literal literal q) (hafter : Blank after) :
    ∃ rest, Relation.split (trimBlank (before ++ mark ++ gap ++ literal ++ after)) = (r, rest) ∧
      trimBlank rest = literal := by
  have hplain : ∀ c ∈ literal, isBlank c = false :=
    fun c hc ↦ (hliteral.isLiteralChar c hc).not_blank
  cases hmark with
  | absent =>
    have htrim := trimBlank_append (hbefore.append hgap) (trimmed_of_not_blank hplain) hafter
    refine ⟨literal, ?_, trimBlank_eq_self hplain⟩
    rw [List.append_nil, htrim]
    apply Relation.split_of_plain
    intro c hc hsymbol
    exact hsymbol.not_literal (hliteral.isLiteralChar c (List.mem_of_mem_head? hc))
  | symbol =>
    have hends : Trimmed (r.symbol.toList ++ (gap ++ literal)) := by
      intro c hc
      rcases hc with hc | hc
      · obtain ⟨first, tail, htail, hfirst⟩ := r.symbol_head (gap ++ literal)
        rw [htail] at hc
        obtain rfl := Option.some.inj hc
        exact hfirst.not_blank
      · rw [← List.append_assoc, List.getLast?_append,
          List.getLast?_eq_some_getLast hliteral.ne_nil] at hc
        exact hplain c (Option.some.inj hc ▸ List.getLast_mem hliteral.ne_nil)
    have htrim := trimBlank_append hbefore hends hafter
    have hoperand := trimBlank_append hgap (trimmed_of_not_blank hplain) .nil
    rw [List.append_nil] at hoperand
    refine ⟨gap ++ literal, ?_, hoperand⟩
    simp only [List.append_assoc] at htrim ⊢
    rw [htrim]
    exact Relation.split_symbol r (by simpa using hliteral.not_equalSign hgap [])

/-- Just the written texts are read. -/
theorem parseText_eq_ok_iff {text : String} {e : NumberExpression} :
    parseText text = .ok e ↔ Written text.toList e := by
  constructor
  · intro h
    obtain ⟨_, r, rest, hsplit, -, -⟩ := Relation.exists_split (trimBlank text.toList)
    rcases parseText_cases hsplit with ⟨q, hq, hok⟩ | ⟨-, reason, herror⟩
    · obtain rfl := Except.ok.inj (hok.symm.trans h)
      exact written_of_parse? hsplit hq
    · cases herror.symm.trans h
  · intro h
    generalize hcs : text.toList = cs at h
    cases h with
    | @intro before mark gap literal after r q hbefore hmark hgap hliteral hafter =>
      have hq := Quantity.parse?_eq_some_iff.2 hliteral
      obtain ⟨rest, hsplit, hrest⟩ := split_written hbefore hmark hgap hliteral hafter
      rw [← hcs] at hsplit
      rcases parseText_cases hsplit with ⟨q', hq', hok⟩ | ⟨hnone, -⟩
      · rw [hrest] at hq'
        rw [hok, Option.some.inj (hq'.symm.trans hq)]
      · rw [hrest, hq] at hnone
        cases hnone

theorem Written.leads {cs : List Char} {e : NumberExpression} (h : Written cs e) :
    (e.relation.Leads cs ∧
      ∀ r : Relation, r.Leads cs → r.symbol.length ≤ e.relation.symbol.length) ∨
    (e.relation = .equal ∧ ∀ r : Relation, ¬ r.Leads cs) := by
  cases h with
  | @intro before mark gap literal after s q hbefore hmark hgap hliteral hafter =>
    cases hmark with
    | absent =>
      obtain ⟨first, rest, hfirst⟩ := List.exists_cons_of_ne_nil hliteral.ne_nil
      have hplain := hliteral.isLiteralChar first (hfirst ▸ List.mem_cons_self)
      have hdrop : (before ++ [] ++ gap ++ literal ++ after).dropWhile isBlank =
          first :: (rest ++ after) := by
        rw [List.append_nil, List.append_assoc, hfirst]
        apply dropWhile_blank (hbefore.append hgap)
        intro c hc
        exact Option.some.inj hc ▸ hplain.not_blank
      refine .inr ⟨rfl, fun r ⟨tail, htail⟩ ↦ ?_⟩
      obtain ⟨c, _, hc, hsymbol⟩ := r.symbol_head tail
      rw [hdrop, hc] at htail
      exact absurd ((List.cons.inj htail).1 ▸ hplain) hsymbol.not_literal
    | symbol =>
      have hdrop : (before ++ s.symbol.toList ++ gap ++ literal ++ after).dropWhile isBlank =
          s.symbol.toList ++ (gap ++ literal ++ after) := by
        simp only [List.append_assoc]
        apply dropWhile_blank hbefore
        intro c hc
        obtain ⟨first, tail, htail, hfirst⟩ := s.symbol_head (gap ++ (literal ++ after))
        rw [htail] at hc
        exact Option.some.inj hc ▸ hfirst.not_blank
      simp only [Relation.Leads, hdrop]
      refine .inl ⟨List.prefix_append _ _, fun r hr ↦ Relation.symbol_length_le hr ?_⟩
      exact hliteral.not_equalSign hgap after

/-- Just the texts of the grammar are read. The symbol that is found is the longest one there, and
no text writes two expressions. The white space makes no difference. Any other text is an error that
shows it as it was given. -/
theorem parseText_grammar :
    (∀ text, (∀ e, parseText text = .ok e ↔ Written text.toList e) ∧
      (∀ e, Written text.toList e →
        (e.relation.Leads text.toList ∧ ∀ r : Relation, r.Leads text.toList →
          r.symbol.length ≤ e.relation.symbol.length) ∨
        (e.relation = .equal ∧ ∀ r : Relation, ¬ r.Leads text.toList)) ∧
      (∀ e e', Written text.toList e → Written text.toList e' → e = e') ∧
      ((∀ e, ¬ Written text.toList e) →
        ∃ reason, parseText text = .error (.invalidExpression text reason))) ∧
    ∀ {mark literal : List Char} {r : Relation} {q : Quantity}, Relation.Mark mark r →
      Literal literal q → ∀ {before gap after : List Char}, Blank before → Blank gap →
      Blank after →
      parseText (String.ofList (before ++ mark ++ gap ++ literal ++ after)) = .ok ⟨r, q⟩ := by
  refine ⟨fun text ↦ ⟨fun e ↦ parseText_eq_ok_iff, fun e h ↦ h.leads, ?_, ?_⟩, ?_⟩
  · intro e e' h h'
    have hok := parseText_eq_ok_iff.2 h
    rw [parseText_eq_ok_iff.2 h'] at hok
    exact (Except.ok.inj hok).symm
  · intro hnone
    rcases parseText_answers text with ⟨e, hok⟩ | herror
    · exact absurd (parseText_eq_ok_iff.1 hok) (hnone e)
    · exact herror
  · intro mark literal r q hmark hliteral before gap after hbefore hgap hafter
    rw [parseText_eq_ok_iff, String.toList_ofList]
    exact .intro hbefore hmark hgap hliteral hafter

end NumberExpression

namespace Quantity

theorem literal_toDigits {sign : List Char} {negative : Bool} (hsign : SignMark sign negative)
    (n : Nat) : Literal (sign ++ Nat.toDigits 10 n) (ofRatio negative n 1) := by
  have hdigits : ∀ c ∈ Nat.toDigits 10 n, c.isDigit = true :=
    fun c hc ↦ Nat.isDigit_of_mem_toDigits (by decide) (by decide) hc
  have h := Literal.whole hsign Nat.toDigits_ne_nil hdigits
  rwa [digitsValue_toDigits] at h

theorem literal_toString (n : Int) : Literal (toString n).toList (ofInt n) := by
  cases n with
  | ofNat m =>
    have h := literal_toDigits .absent m
    rwa [List.nil_append, ← Nat.toList_repr] at h
  | negSucc m =>
    have h := literal_toDigits .minus (m + 1)
    have htext : (toString (Int.negSucc m)).toList = '-' :: Nat.toDigits 10 (m + 1) := by
      rw [← Nat.toList_repr]
      exact String.toList_append
    rwa [htext, show ofInt (Int.negSucc m) = ofRatio true (m + 1) 1 by
      rw [ofInt, Int.natAbs_negSucc, decide_eq_true (Int.negSucc_lt_zero m)]]

def IsInteger (q : Quantity) (n : Int) : Prop := ∃ x, q = .finite x ∧ x.signed = n * Binary64.one

theorem isInteger_ofRatio {n : Nat} (h : n ≤ 0x20000000000000) (negative : Bool) :
    (ofRatio negative n 1).IsInteger (if negative then -(n : Int) else n) := by
  obtain ⟨x, hx, hsigned⟩ := ofRatio_finite (n := n) (by omega) negative
  refine ⟨x, hx, ?_⟩
  rw [hsigned, Binary64.nearestInt_exact (by split <;> omega)]

theorem isInteger_ofInt {n : Int} (h : n.natAbs ≤ 0x20000000000000) : (ofInt n).IsInteger n := by
  have hn : (if decide (n < 0) then -(n.natAbs : Int) else n.natAbs) = n := by
    simp only [decide_eq_true_eq]
    split <;> omega
  have hinteger := isInteger_ofRatio h (n < 0)
  rwa [hn] at hinteger

theorem isInteger_zero (negative : Bool) : (ofRatio negative 0 1).IsInteger 0 := by
  have hzero : (if negative then -((0 : Nat) : Int) else (0 : Nat)) = 0 := by
    cases negative <;> rfl
  have hinteger := isInteger_ofRatio (Nat.zero_le _) negative
  rwa [hzero] at hinteger

theorem IsInteger.toText {q : Quantity} {n : Int} (h : q.IsInteger n)
    (hn : n.natAbs < 1000000000000000) : q.toText = toString n := by
  obtain ⟨x, rfl, hx⟩ := h
  have hsmall : smallInt? (finite x) = some n := by
    rw [smallInt?, Binary64.toInt?_eq_some_iff.2 hx]
    exact Option.filter_eq_some_iff.2 ⟨rfl, by simpa using hn⟩
  simp only [Quantity.toText, hsmall]

theorem IsInteger.compare? {p q : Quantity} {n : Int} (hp : p.IsInteger n) (hq : q.IsInteger n)
    (a : Quantity) : a.compare? p = a.compare? q := by
  obtain ⟨x, rfl, hx⟩ := hp
  obtain ⟨y, rfl, hy⟩ := hq
  cases a <;> simp only [Quantity.compare?, hx, hy]

end Quantity

namespace NumberExpression

/-- An expression with a whole operand below 10 ^ 15 in magnitude is read back from its text, but
for the sign of a zero, and so holds of the same quantities. -/
theorem parseText_text {e : NumberExpression} {n : Int} (h : e.operand.IsInteger n)
    (hn : n.natAbs < 1000000000000000) : ∃ e', parseText e.text = .ok e' ∧
      e'.relation = e.relation ∧ e'.operand.IsInteger n ∧ ∀ a, e'.holds a = e.holds a := by
  obtain ⟨q, hliteral, hq⟩ : ∃ q, Literal (toString n).toList q ∧ q.IsInteger n :=
    ⟨_, Quantity.literal_toString n, Quantity.isInteger_ofInt (by omega)⟩
  refine ⟨⟨e.relation, q⟩, ?_, rfl, hq, fun a ↦ ?_⟩
  · have hgap : Blank [' '] := by simp [Blank]; rfl
    have hwritten := Written.intro .nil (.symbol e.relation) hgap hliteral .nil
    rw [parseText_eq_ok_iff, text, h.toText hn]
    simpa using hwritten
  · simp only [holds, Relation.holds.eq_def, h.compare? hq]

theorem parseText_text_negative_zero : ∃ e',
    parseText (NumberExpression.mk .lessOrEqual (.ofRatio true 0 1)).text = .ok e' ∧
      e'.relation = .lessOrEqual ∧ e'.operand.IsInteger 0 ∧
      ∀ a, e'.holds a = (NumberExpression.mk .lessOrEqual (.ofRatio true 0 1)).holds a := by
  have hzero := Quantity.isInteger_zero true
  generalize Quantity.ofRatio true 0 1 = zero at hzero ⊢
  exact parseText_text (e := ⟨.lessOrEqual, zero⟩) hzero (by decide)

end NumberExpression

end AuditRules
