import AuditRules.Proofs.Text.Digits
import AuditRules.Text.Blank
import Mathlib.Data.List.TakeDrop
import Mathlib.Data.List.TakeWhile

namespace AuditRules

theorem not_blank_of_isAlphanum {c : Char} (h : c.isAlphanum = true) : isBlank c = false := by
  have hrange := toNat_of_isAlphanum h
  simp only [isBlank, Bool.or_eq_false_iff, Bool.and_eq_false_iff, beq_eq_false_iff_ne,
    decide_eq_false_iff_not]
  omega

def Blank (cs : List Char) : Prop := ∀ c ∈ cs, isBlank c = true

theorem Blank.append {xs ys : List Char} (hxs : Blank xs) (hys : Blank ys) : Blank (xs ++ ys) := by
  intro c hc
  exact (List.mem_append.1 hc).elim (hxs c) (hys c)

theorem Blank.nil : Blank [] := nofun

def Trimmed (cs : List Char) : Prop := ∀ c, c ∈ cs.head? ∨ c ∈ cs.getLast? → isBlank c = false

theorem dropWhile_blank {blank rest : List Char} (hblank : Blank blank)
    (hrest : ∀ c ∈ rest.head?, isBlank c = false) : (blank ++ rest).dropWhile isBlank = rest := by
  rw [List.dropWhile_append_of_pos hblank]
  cases rest with
  | nil => rfl
  | cons c rest => exact List.dropWhile_cons_of_neg (by simp [hrest c rfl])

theorem trimBlank_append {before cs after : List Char} (hbefore : Blank before)
    (hcs : Trimmed cs) (hafter : Blank after) : trimBlank (before ++ cs ++ after) = cs := by
  by_cases hne : cs = []
  · subst hne
    rw [List.append_nil, trimBlank, List.dropWhile_eq_nil_iff.2 (hbefore.append hafter)]
    rfl
  · have hhead : ∀ c ∈ (cs ++ after).head?, isBlank c = false := by
      intro c hc
      obtain ⟨first, rest, rfl⟩ := List.exists_cons_of_ne_nil hne
      exact hcs c (.inl hc)
    have hlast : ∀ c ∈ cs.reverse.head?, isBlank c = false := by
      intro c hc
      rw [List.head?_reverse] at hc
      exact hcs c (.inr hc)
    have hreverse : Blank after.reverse := fun c hc ↦ hafter c (List.mem_reverse.1 hc)
    rw [List.append_assoc, trimBlank, dropWhile_blank hbefore hhead, List.reverse_append,
      dropWhile_blank hreverse hlast, List.reverse_reverse]

theorem exists_dropWhile_blank (cs : List Char) :
    ∃ blank, Blank blank ∧ cs = blank ++ cs.dropWhile isBlank := by
  refine ⟨cs.takeWhile isBlank, ?_, List.takeWhile_append_dropWhile.symm⟩
  intro c hc
  exact List.mem_takeWhile_imp hc

/-- A text is what is left of it by trimming, with white space around. -/
theorem exists_trimBlank (cs : List Char) : ∃ before after, Blank before ∧ Blank after ∧
    cs = before ++ trimBlank cs ++ after := by
  obtain ⟨before, hbefore, hcs⟩ := exists_dropWhile_blank cs
  obtain ⟨after, hafter, hrest⟩ := exists_dropWhile_blank (cs.dropWhile isBlank).reverse
  refine ⟨before, after.reverse, hbefore, fun c hc ↦ hafter c (List.mem_reverse.1 hc), ?_⟩
  have hrest := congrArg List.reverse hrest
  rw [List.reverse_reverse, List.reverse_append] at hrest
  rw [List.append_assoc, trimBlank, ← hrest, ← hcs]

theorem trimmed_of_not_blank {cs : List Char} (h : ∀ c ∈ cs, isBlank c = false) : Trimmed cs := by
  intro c hc
  exact h c (hc.elim List.mem_of_mem_head? List.mem_of_getLast?)

theorem trimBlank_eq_self {cs : List Char} (h : ∀ c ∈ cs, isBlank c = false) :
    trimBlank cs = cs := by
  have htrim := trimBlank_append .nil (trimmed_of_not_blank h) .nil
  rwa [List.nil_append, List.append_nil] at htrim

end AuditRules
