import AuditRules.CommandLine

namespace AuditRules

namespace Summary

def counter (s : Summary) : Status → Nat
  | .passed => s.passed
  | .failed => s.failed
  | .notApplicable => s.notApplicable
  | .error => s.errors

theorem total_add (s : Summary) (status : Status) : (s.add status).total = s.total + 1 := by
  cases status <;> rfl

theorem counter_add (s : Summary) (status other : Status) :
    (s.add status).counter other = s.counter other + if status = other then 1 else 0 := by
  cases status <;> cases other <;> rfl

theorem sum_counter_add (s : Summary) (status : Status) :
    (s.add status).passed + (s.add status).failed + (s.add status).notApplicable +
      (s.add status).errors = s.passed + s.failed + s.notApplicable + s.errors + 1 := by
  cases status <;> simp only [add] <;> omega

end Summary

namespace Report

/-- A report whose summary tells the numbers of its rows, of all and of those with each status. -/
structure Counted (r : Report) : Prop where
  total : r.summary.total = r.rows.length
  sum : r.summary.total =
    r.summary.passed + r.summary.failed + r.summary.notApplicable + r.summary.errors
  counter : ∀ status, r.summary.counter status =
    (r.rows.filter fun row ↦ decide (row.status = status)).length

variable {r : Report}

theorem counted_empty : empty.Counted where
  total := rfl
  sum := rfl
  counter status := by cases status <;> rfl

theorem Counted.push (h : r.Counted) (row : Row) : (r.push row).Counted where
  total := by
    simp only [Report.push, Summary.total_add, h.total, List.length_append, List.length_singleton]
  sum := by
    have hsum := h.sum
    simp only [Report.push, Summary.total_add, Summary.sum_counter_add]
    omega
  counter status := by
    simp only [Report.push, Summary.counter_add, h.counter, List.filter_append, List.length_append]
    by_cases hstatus : row.status = status <;> simp [hstatus]

theorem Counted.foldl (h : r.Counted) (rows : List Row) : (rows.foldl Report.push r).Counted := by
  induction rows generalizing r with
  | nil => exact h
  | cons row rows ih => exact ih (h.push row)

theorem rows_foldl (r : Report) (rows : List Row) :
    (rows.foldl push r).rows = r.rows ++ rows := by
  induction rows generalizing r with
  | nil => exact (List.append_nil _).symm
  | cons row rows ih =>
    rw [List.foldl_cons, ih, push, List.append_assoc]
    rfl

theorem rows_ofRows (rows : List Row) : (ofRows rows).rows = rows := rows_foldl empty rows

theorem counted_ofRows (rows : List Row) : (ofRows rows).Counted := counted_empty.foldl rows

end Report

end AuditRules
