import AuditRules.Text.LetterCase

namespace AuditRules.LetterCase

abbrev Run := Nat × Nat × Nat × Int

namespace Run

def has (run : Run) (n : Nat) : Bool :=
  run.1 ≤ n && n ≤ run.2.1 && (n - run.1) % run.2.2.1 == 0

def form (run : Run) (n : Nat) : Nat := ((n : Int) + run.2.2.2).toNat

def apart (run other : Run) : Bool :=
  Nat.blt (run.form run.2.1) other.1 || Nat.blt other.2.1 (run.form run.1) ||
    (List.range ((run.2.1 - run.1) / run.2.2.1 + 1)).all fun k ↦
      !other.has (run.form (run.1 + k * run.2.2.1))

theorem form_mono {run : Run} {m n : Nat} (h : m ≤ n) : run.form m ≤ run.form n := by
  simp only [form]
  omega

theorem has_iff {run : Run} {n : Nat} :
    run.has n = true ↔ run.1 ≤ n ∧ n ≤ run.2.1 ∧ (n - run.1) % run.2.2.1 = 0 := by
  simp [has, and_assoc]

theorem has_form {run other : Run} (h : run.apart other = true) {n : Nat}
    (hn : run.has n = true) : other.has (run.form n) = false := by
  rw [← Bool.not_eq_true, has_iff]
  obtain ⟨hfirst, hlast, hstep⟩ := has_iff.1 hn
  have hlow : run.form run.1 ≤ run.form n := form_mono hfirst
  have hhigh : run.form n ≤ run.form run.2.1 := form_mono hlast
  simp only [apart, Bool.or_eq_true, Nat.blt_eq] at h
  rcases h with (h | h) | h
  · omega
  · omega
  · -- Here the steps decide, member by member.
    have hdiv := Nat.div_add_mod (n - run.1) run.2.2.1
    have hmember : run.1 + (n - run.1) / run.2.2.1 * run.2.2.1 = n := by
      rw [Nat.mul_comm]
      omega
    have hk : (n - run.1) / run.2.2.1 < (run.2.1 - run.1) / run.2.2.1 + 1 := by
      apply Nat.lt_succ_of_le
      apply Nat.div_le_div_right
      omega
    have hnot := List.all_eq_true.1 h _ (List.mem_range.2 hk)
    rw [hmember] at hnot
    intro hhas
    simp [has_iff.2 hhas] at hnot

end Run

def capitals : List Run := (0x130, 0x130, 1, 0) :: lowering

theorem lowering_apart : lowering.all (fun run ↦ capitals.all (Run.apart run)) = true := by
  decide +kernel

/-- No capital, so that lowering keeps it wherever it stands. -/
def Settled (c : Char) : Prop := ∀ run ∈ capitals, run.has c.toNat = false

theorem settled_of_all {c : Char} (h : capitals.all (fun run ↦ !run.has c.toNat) = true) :
    Settled c := by
  intro run hrun
  simpa using List.all_eq_true.1 h run hrun

theorem toNat_ofNat_cases (n : Nat) : (Char.ofNat n).toNat = n ∨ (Char.ofNat n).toNat = 0 := by
  by_cases h : n.isValidChar
  · rw [Char.ofNat, dif_pos h]
    exact .inl rfl
  · rw [Char.ofNat, dif_neg h]
    exact .inr rfl

theorem settled_form {run : Run} (hrun : run ∈ lowering) {n : Nat} (hn : run.has n = true) :
    Settled (Char.ofNat (run.form n)) := by
  intro other hother
  have hapart := List.all_eq_true.1 (List.all_eq_true.1 lowering_apart run hrun) other hother
  rcases toNat_ofNat_cases (run.form n) with h | h
  · rw [h]
    exact Run.has_form hapart hn
  · rw [h]
    have hzero : capitals.all (fun run ↦ !run.has 0) = true := by decide +kernel
    simpa using List.all_eq_true.1 hzero other hother

theorem lowerChar_of_settled {c : Char} (h : Settled c) : lowerChar c = c := by
  have hnone : lowering.find? (Run.has · c.toNat) = none := by
    apply List.find?_eq_none.2
    intro run hrun
    simp [h run (List.mem_cons_of_mem _ hrun)]
  simp only [Run.has] at hnone
  simp only [lowerChar, hnone]

theorem settled_lowerChar {c : Char} (hdot : c ≠ 'İ') : Settled (lowerChar c) := by
  cases h : lowering.find? (Run.has · c.toNat) with
  | none =>
    have hsettled : Settled c := by
      intro run hrun
      rcases List.mem_cons.1 hrun with rfl | hrun
      · rw [← Bool.not_eq_true, Run.has_iff]
        intro hc
        have hval : c.toNat = 'İ'.toNat := Nat.le_antisymm hc.2.1 hc.1
        exact hdot (Char.toNat_inj.1 hval)
      · simpa using List.find?_eq_none.1 h run hrun
    rwa [lowerChar_of_settled hsettled]
  | some run =>
    have hhas : Run.has run c.toNat = true := by simpa using List.find?_some h
    have hform := settled_form (List.mem_of_find?_eq_some h) hhas
    simp only [Run.has] at h
    simpa only [lowerChar, h, Run.form] using hform

theorem lowerAt_of_settled {c : Char} (h : Settled c) (before after : List Char) :
    lowerAt before c after = [c] := by
  have hsigma : c ≠ 'Σ' := by
    rintro rfl
    have hhas : Run.has (0x3A3, 0x3AB, 1, 32) 'Σ'.toNat = true := by decide
    rw [h _ (List.mem_cons_of_mem _ (by decide +kernel))] at hhas
    cases hhas
  have hdot : c ≠ 'İ' := by
    rintro rfl
    have hhas : Run.has (0x130, 0x130, 1, 0) 'İ'.toNat = true := by decide
    rw [h _ List.mem_cons_self] at hhas
    cases hhas
  simp only [lowerAt, hsigma, hdot, if_false, lowerChar_of_settled h]

theorem settled_lowerAt {before after : List Char} {c d : Char} (h : d ∈ lowerAt before c after) :
    Settled d := by
  unfold lowerAt at h
  split at h
  · obtain rfl := List.mem_singleton.1 h
    split
    · exact settled_of_all (by decide +kernel)
    · exact settled_of_all (by decide +kernel)
  · split at h
    · simp only [List.mem_cons, List.not_mem_nil, or_false] at h
      rcases h with rfl | rfl
      · exact settled_of_all (by decide +kernel)
      · exact settled_of_all (by decide +kernel)
    · rename_i hdot
      obtain rfl := List.mem_singleton.1 h
      exact settled_lowerChar hdot

theorem settled_lowerFrom {before cs : List Char} {d : Char} (h : d ∈ lowerFrom before cs) :
    Settled d := by
  induction cs generalizing before with
  | nil => cases h
  | cons c cs ih =>
    rcases List.mem_append.1 h with h | h
    · exact settled_lowerAt h
    · exact ih h

theorem lowerFrom_of_settled {before cs : List Char} (h : ∀ c ∈ cs, Settled c) :
    lowerFrom before cs = cs := by
  induction cs generalizing before with
  | nil => rfl
  | cons c cs ih =>
    have hrest : lowerFrom (c :: before) cs = cs := ih fun d hd ↦ h d (List.mem_cons_of_mem c hd)
    rw [lowerFrom, lowerAt_of_settled (h c List.mem_cons_self), hrest, List.singleton_append]

theorem lower_lower (s : String) : lower (lower s) = lower s := by
  have hfrom : lowerFrom [] (lowerFrom [] s.toList) = lowerFrom [] s.toList := by
    apply lowerFrom_of_settled
    intro c hc
    exact settled_lowerFrom hc
  simp only [lower, String.toList_ofList, hfrom]

end AuditRules.LetterCase
