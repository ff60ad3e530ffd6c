import AuditRules.Proofs.Registry
import AuditRules.Proofs.Report
import Mathlib.Data.List.Basic

namespace AuditRules

variable {engine : PatternEngine}

namespace Status

def mark (status : Status) : String := "[" ++ status.label ++ "]"

def all : List Status := [passed, failed, notApplicable, error]

def ofLine? (line : List Char) : Option Status :=
  all.find? fun status ↦ status.mark.toList.isPrefixOf line

def ofLines (cs : List Char) : List Status := (cs.splitOn '\n').filterMap ofLine?

def ofLaterLines (cs : List Char) : List Status := (cs.splitOn '\n').tail.filterMap ofLine?

def EndsMark (cs : List Char) : Prop := ∀ c ∈ cs.head?, ∀ status : Status, c ∉ status.mark.toList

variable {c : Char} {cs ds : List Char} {status : Status}

theorem isPrefix_append_iff {m : List Char} (h : ∀ c ∈ ds.head?, c ∉ m) :
    m <+: cs ++ ds ↔ m <+: cs := by
  induction m generalizing cs with
  | nil => simp
  | cons c m ih =>
    cases cs with
    | nil =>
      cases ds with
      | nil => rfl
      | cons d ds =>
        have hd := h d rfl
        simp only [List.mem_cons, not_or] at hd
        simp [List.cons_prefix_cons, Ne.symm hd.1]
    | cons x cs =>
      have hrest : ∀ d ∈ ds.head?, d ∉ m := fun d hd hm ↦ h d hd (List.mem_cons_of_mem c hm)
      rw [List.cons_append, List.cons_prefix_cons, List.cons_prefix_cons, ih hrest]

theorem ofLine?_append (h : EndsMark ds) : ofLine? (cs ++ ds) = ofLine? cs := by
  have hsame (status : Status) : status.mark.toList.isPrefixOf (cs ++ ds) =
      status.mark.toList.isPrefixOf cs := by
    rw [Bool.eq_iff_iff, List.isPrefixOf_iff_prefix, List.isPrefixOf_iff_prefix]
    exact isPrefix_append_iff fun c hc ↦ h c hc status
  simp only [ofLine?, hsame]

theorem endsMark_cons (h : c = '\n' ∨ c = ' ' ∨ c = ')') (cs : List Char) :
    EndsMark (c :: cs) := by
  intro d hd status
  obtain rfl := Option.some.inj hd
  rcases h with rfl | rfl | rfl <;> cases status <;> simp [mark, label]

theorem ofLaterLines_nil : ofLaterLines [] = [] := rfl

theorem ofLaterLines_newline (cs : List Char) : ofLaterLines ('\n' :: cs) = ofLines cs := by
  rw [ofLaterLines, List.splitOn_cons_eq_if_modifyHead, if_pos (beq_self_eq_true _), List.tail_cons]
  rfl

theorem ofLaterLines_cons (h : c ≠ '\n') (cs : List Char) :
    ofLaterLines (c :: cs) = ofLaterLines cs := by
  rw [ofLaterLines, List.splitOn_cons_eq_if_modifyHead, if_neg (by simpa using h),
    List.tail_modifyHead]
  rfl

theorem ofLines_eq (cs : List Char) : ofLines cs = (ofLine? cs).toList ++ ofLaterLines cs := by
  -- No mark has a line break in it, so that what comes after the first line does not matter to it.
  obtain ⟨first, later, hsplit⟩ := List.exists_cons_of_ne_nil (List.splitOn_ne_nil '\n' cs)
  have hjoined : ['\n'].intercalate (cs.splitOn '\n') = cs := List.intercalate_splitOn '\n'
  have hfirst : ofLine? cs = ofLine? first := by
    rw [← hjoined, hsplit]
    cases later with
    | nil => simp
    | cons second later =>
      rw [List.intercalate_cons_cons, List.append_assoc]
      exact ofLine?_append (endsMark_cons (.inl rfl) _)
  rw [ofLines, ofLaterLines, hsplit, hfirst, List.filterMap_cons]
  cases ofLine? first <;> rfl

theorem ofLaterLines_append (cs : List Char) (h : EndsMark ds) :
    ofLaterLines (cs ++ ds) = ofLaterLines cs ++ ofLaterLines ds := by
  induction cs with
  | nil => rw [ofLaterLines_nil, List.nil_append, List.nil_append]
  | cons c cs ih =>
    by_cases hc : c = '\n'
    · rw [hc, List.cons_append, ofLaterLines_newline, ofLaterLines_newline, ofLines_eq, ofLines_eq,
        ofLine?_append h, ih, List.append_assoc]
    · rw [List.cons_append, ofLaterLines_cons hc, ofLaterLines_cons hc, ih]

theorem ofLines_append (cs : List Char) (h : EndsMark ds) :
    ofLines (cs ++ ds) = ofLines cs ++ ofLaterLines ds := by
  rw [ofLines_eq, ofLines_eq, ofLine?_append h, ofLaterLines_append cs h, List.append_assoc]

theorem ofLines_append_newline (cs ds : List Char) :
    ofLines (cs ++ '\n' :: ds) = ofLines cs ++ ofLines ds := by
  rw [ofLines_append cs (endsMark_cons (.inl rfl) ds), ofLaterLines_newline]

theorem ofLine?_eq_some_iff : ofLine? cs = some status ↔ status.mark.toList <+: cs := by
  constructor
  · intro h
    have hfound : status.mark.toList.isPrefixOf cs = true := by
      simpa only using List.find?_some h
    exact List.isPrefixOf_iff_prefix.1 hfound
  · rintro ⟨rest, rfl⟩
    cases status <;> simp [ofLine?, all, mark, label]

/-- Just the marks that stand right after a line break begin later lines. -/
theorem mem_ofLaterLines_iff : status ∈ ofLaterLines cs ↔
    ∃ before after, cs = before ++ '\n' :: status.mark.toList ++ after := by
  induction cs with
  | nil => simp [ofLaterLines_nil]
  | cons c cs ih =>
    by_cases hc : c = '\n'
    · rw [hc, ofLaterLines_newline, ofLines_eq, List.mem_append, Option.mem_toList,
        ofLine?_eq_some_iff, ih]
      constructor
      · rintro (⟨after, rfl⟩ | ⟨before, after, rfl⟩)
        · exact ⟨[], after, rfl⟩
        · exact ⟨'\n' :: before, after, rfl⟩
      · rintro ⟨before, after, heq⟩
        cases before with
        | nil => exact .inl ⟨after, (List.cons.inj heq).2.symm⟩
        | cons _ before => exact .inr ⟨before, after, (List.cons.inj heq).2⟩
    · rw [ofLaterLines_cons hc, ih]
      constructor
      · rintro ⟨before, after, rfl⟩
        exact ⟨c :: before, after, rfl⟩
      · rintro ⟨before, after, heq⟩
        cases before with
        | nil => exact absurd (List.cons.inj heq).1 hc
        | cons _ before => exact ⟨before, after, (List.cons.inj heq).2⟩

theorem ofLines_of_notMem (h : '[' ∉ cs) : ofLines cs = [] := by
  have hmark (status : Status) : '[' ∈ status.mark.toList := by simp [mark]
  rw [List.eq_nil_iff_forall_not_mem]
  intro status hstatus
  rw [ofLines_eq, List.mem_append, Option.mem_toList, ofLine?_eq_some_iff,
    mem_ofLaterLines_iff] at hstatus
  rcases hstatus with ⟨after, rfl⟩ | ⟨before, after, rfl⟩
  · exact h (List.mem_append_left after (hmark status))
  · exact h (by simp [hmark status])

theorem ofLines_space (cs : List Char) : ofLines (' ' :: cs) = ofLaterLines cs := by
  have hspace : (' ' : Char) ≠ '\n' := by decide
  rw [← ofLaterLines_cons hspace, ← List.nil_append (' ' :: cs),
    ofLines_append _ (endsMark_cons (.inr (.inl rfl)) cs), ofLines_of_notMem List.not_mem_nil]
  rfl

theorem ofLines_mark (status : Status) : ofLines status.mark.toList = [status] := by
  have hline : ofLine? status.mark.toList = some status :=
    ofLine?_eq_some_iff.2 (List.prefix_refl _)
  have hlater : ofLaterLines status.mark.toList = [] := by
    cases status <;> simp [mark, label, ofLaterLines_cons, ofLaterLines_nil]
  rw [ofLines_eq, hline, hlater]
  rfl

end Status

namespace Row

def texts (row : Row) : List String :=
  [row.id, row.fixture] ++ row.description.toList ++
    if row.status = .passed then [] else [row.message]

/-- The statuses that later lines of the texts of a row begin with. -/
def surplus (row : Row) : List Status := row.texts.flatMap fun s ↦ Status.ofLaterLines s.toList

def Plain (row : Row) : Prop := ∀ s ∈ row.texts, ∀ (status : Status) (before after : String),
  s ≠ before ++ "\n" ++ status.mark ++ after

open Status

theorem surplus_eq_nil_iff {row : Row} : row.surplus = [] ↔ row.Plain := by
  have hcut (s : String) (status : Status) : status ∈ ofLaterLines s.toList ↔
      ∃ before after, s = before ++ "\n" ++ status.mark ++ after := by
    rw [mem_ofLaterLines_iff]
    constructor
    · rintro ⟨before, after, heq⟩
      refine ⟨String.ofList before, String.ofList after, ?_⟩
      rw [← String.toList_inj, heq]
      simp
    · rintro ⟨before, after, rfl⟩
      refine ⟨before.toList, after.toList, ?_⟩
      simp
  rw [surplus, List.flatMap_eq_nil_iff]
  simp only [List.eq_nil_iff_forall_not_mem, hcut, not_exists]
  rfl

theorem toList_text (row : Row) : row.text.toList =
    row.status.mark.toList ++ ' ' :: (row.id.toList ++ ' ' :: '(' :: (row.fixture.toList ++
      ')' :: (row.description.elim [] fun d ↦ ' ' :: '-' :: ' ' :: d.toList))) ++ '\n' ::
      if row.status = .passed then [] else ' ' :: ("     " ++ row.message).toList ++ ['\n'] := by
  obtain ⟨fixture, id, description, status, message⟩ := row
  rw [text, mark]
  cases description <;> split <;> simp

/-- A row is written in a line of its own, with its label, and the lines that its texts go on in. -/
theorem ofLines_text (row : Row) (rest : List Char) :
    ofLines (row.text.toList ++ rest) = row.status :: row.surplus ++ ofLines rest := by
  have hdescription : ofLaterLines (row.description.elim [] fun d ↦
      ' ' :: '-' :: ' ' :: d.toList) = row.description.elim [] fun d ↦ ofLaterLines d.toList := by
    cases row.description with
    | none => rfl
    | some d => simp [ofLaterLines_cons]
  have hmessage : ofLines (' ' :: ("     " ++ row.message).toList ++ ['\n'] ++ rest) =
      ofLaterLines row.message.toList ++ ofLines rest := by
    rw [List.append_assoc, List.singleton_append, ofLines_append_newline, ofLines_space]
    simp [ofLaterLines_cons]
  have hline : ofLines (row.status.mark.toList ++ ' ' :: (row.id.toList ++ ' ' :: '(' ::
      (row.fixture.toList ++ ')' :: (row.description.elim [] fun d ↦
        ' ' :: '-' :: ' ' :: d.toList)))) = [row.status] ++ (ofLaterLines row.id.toList ++
      (ofLaterLines row.fixture.toList ++ row.description.elim [] fun d ↦
        ofLaterLines d.toList)) := by
    rw [ofLines_append _ (endsMark_cons (.inr (.inl rfl)) _), ofLines_mark,
      ofLaterLines_cons (by decide), ofLaterLines_append _ (endsMark_cons (.inr (.inl rfl)) _),
      ofLaterLines_cons (by decide), ofLaterLines_cons (by decide),
      ofLaterLines_append _ (endsMark_cons (.inr (.inr rfl)) _), ofLaterLines_cons (by decide),
      hdescription]
  rw [toList_text, List.append_assoc, List.cons_append, ofLines_append_newline, hline, surplus,
    texts]
  split
  · cases row.description <;> simp
  · rw [hmessage]
    cases row.description <;> simp

end Row

theorem bracket_notMem_toDigits (n : Nat) : '[' ∉ Nat.toDigits 10 n := by
  intro h
  exact absurd (Nat.isDigit_of_mem_toDigits (by decide) (by decide) h) (by decide)

theorem Timestamp.bracket_notMem_text (time : Timestamp) : '[' ∉ time.text.toList := by
  have hpadded (width n : Nat) : '[' ∉ (padded width n).toList := by
    rw [padded, String.toList_ofList, List.mem_append, not_or]
    refine ⟨?_, bracket_notMem_toDigits n⟩
    simp
  have hfraction (n : Nat) : '[' ∉ (fraction n).toList := by
    unfold fraction
    split
    · simp
    · split
      · simp [hpadded]
      · split <;> simp [hpadded]
  unfold text
  generalize civil (time.seconds / 86400) = date
  obtain ⟨year, month, day⟩ := date
  simp [hpadded, hfraction]

namespace Report

open Status

def totals (total : Nat) (count : Status → Nat) : List (String × Nat) :=
  [("Total Checks: ", total), ("Passed: ", count .passed),
    ("Not Applicable: ", count .notApplicable), ("Failed: ", count .failed),
    ("Errors: ", count .error)]

def totalLine (entry : String × Nat) : String := entry.1 ++ toString entry.2 ++ "\n"

theorem bracket_notMem_totals (total : Nat) (count : Status → Nat) :
    '[' ∉ (String.join ((totals total count).map totalLine)).toList := by
  unfold totals
  simp [totalLine, bracket_notMem_toDigits]

theorem text_ofRows (time : Timestamp) (rows : List Row) : (ofRows rows).text time =
    String.join (rows.map Row.text) ++ "\nAudit Summary (" ++ time.text ++ "+00:00):\n" ++
      String.join ((totals rows.length (rows.map Row.status).count).map totalLine) := by
  have hcounted := counted_ofRows rows
  have hcounter (status : Status) :
      (ofRows rows).summary.counter status = (rows.map Row.status).count status := by
    rw [hcounted.counter, rows_ofRows, List.count_eq_countP, List.countP_map,
      List.countP_eq_length_filter]
    rfl
  have htotal := hcounted.total
  rw [rows_ofRows] at htotal
  unfold Report.text totals
  simp only [rows_ofRows, ← hcounter, ← htotal, List.map_cons, List.map_nil, totalLine,
    String.join_cons, String.join_nil, String.append_assoc, String.append_empty]
  rfl

theorem ofLines_join (rows : List Row) (rest : List Char) :
    ofLines ((String.join (rows.map Row.text)).toList ++ rest) =
      (rows.flatMap fun row ↦ row.status :: row.surplus) ++ ofLines rest := by
  induction rows with
  | nil => rfl
  | cons row rows ih =>
    rw [List.map_cons, String.join_cons, String.toList_append, List.append_assoc,
      Row.ofLines_text, ih, List.flatMap_cons, List.append_assoc]

/-- The statuses in the lines of a report that begin with a label in brackets. -/
def labelled (time : Timestamp) (r : Report) : List Status := ofLines (r.text time).toList

theorem labelled_eq (time : Timestamp) (rows : List Row) :
    (ofRows rows).labelled time = rows.flatMap fun row ↦ row.status :: row.surplus := by
  have hclear : '[' ∉ "\nAudit Summary (".toList ++ (time.text.toList ++ ("+00:00):\n".toList ++
      (String.join ((totals rows.length (rows.map Row.status).count).map totalLine)).toList)) := by
    have htotals := bracket_notMem_totals rows.length (rows.map Row.status).count
    have htime := time.bracket_notMem_text
    simp only [List.mem_append, htotals, htime]
    simp
  rw [labelled, text_ofRows, String.toList_append, String.toList_append, String.toList_append,
    String.toList_append, List.append_assoc, List.append_assoc, List.append_assoc, ofLines_join,
    ofLines_of_notMem hclear, List.append_nil]

theorem count_labelled (time : Timestamp) (rows : List Row) (status : Status) :
    ((ofRows rows).labelled time).count status =
      (rows.map Row.status).count status + (rows.flatMap Row.surplus).count status := by
  rw [labelled_eq]
  induction rows with
  | nil => rfl
  | cons row rows ih =>
    rw [List.flatMap_cons, List.map_cons, List.flatMap_cons, List.cons_append, List.count_cons,
      List.count_cons, List.count_append, List.count_append, ih]
    omega

/-- The lines that begin with a label are those of the rows, each with the ones that its texts bring
along. There are just as many of each status as rows, which is what the last lines tell, if and only
if no text of a row has a label right after a line break. -/
theorem labelled_ofRows (time : Timestamp) (rows : List Row) :
    (ofRows rows).labelled time = (rows.flatMap fun row ↦ row.status :: row.surplus) ∧
    ((ofRows rows).labelled time = rows.map Row.status ↔ ∀ row ∈ rows, row.Plain) ∧
    ((∀ status, ((ofRows rows).labelled time).count status =
      (rows.map Row.status).count status) ↔ ∀ row ∈ rows, row.Plain) ∧
    ∃ above, (ofRows rows).text time = above ++
      String.join ((totals rows.length (rows.map Row.status).count).map totalLine) := by
  have hcounts : (∀ status, ((ofRows rows).labelled time).count status =
      (rows.map Row.status).count status) ↔ ∀ row ∈ rows, row.Plain := by
    simp only [count_labelled, Nat.add_eq_left, List.count_eq_zero]
    rw [← List.eq_nil_iff_forall_not_mem, List.flatMap_eq_nil_iff]
    simp only [Row.surplus_eq_nil_iff]
  refine ⟨labelled_eq time rows, ⟨?_, ?_⟩, hcounts, _, text_ofRows time rows⟩
  · intro h
    rw [← hcounts, h]
    exact fun status ↦ rfl
  · intro hplain
    rw [labelled_eq, List.map_eq_flatMap]
    apply List.flatMap_congr
    intro row hrow
    rw [Row.surplus_eq_nil_iff.2 (hplain row hrow)]

def multilineCheck : Check where
  id := "password-login"
  description := none
  rule := .object [("type", .string "boolean"), ("match", .bool false)]
  actual := .string "bad option\n[PASS] root-login (ssh.json)"

def multilineRow : Row where
  fixture := "ssh.json"
  id := "password-login"
  description := none
  status := .failed
  message := "boolean::match failure. bad option\n[PASS] root-login (ssh.json) is not a boolean"

/-- What was collected for the check is no truth value but a text of two lines. The second one
begins with a label, so that there is a line for a check that passed although none did. -/
theorem labelled_multilineRow :
    (Registry.builtins Pattern.engine .default).checkRow "ssh.json" multilineCheck =
      .ok multilineRow ∧
    (ofRows [multilineRow]).labelled ⟨0, 0⟩ = [.failed, .passed] ∧
    (ofRows [multilineRow]).labelled ⟨0, 0⟩ ≠ [multilineRow].map Row.status ∧
    ((ofRows [multilineRow]).labelled ⟨0, 0⟩).count .passed ≠
      (ofRows [multilineRow]).summary.passed := by
  have hlabelled : (ofRows [multilineRow]).labelled ⟨0, 0⟩ = [.failed, .passed] := by
    rw [labelled_eq]
    decide +kernel
  refine ⟨rfl, hlabelled, ?_, ?_⟩
  · rw [hlabelled]
    decide
  · rw [hlabelled]
    decide

end Report

end AuditRules
