import AuditRules.Proofs.Fixture
import AuditRules.Proofs.Registry
import AuditRules.Proofs.Report

namespace AuditRules

variable {engine : PatternEngine}

/-- A result that is there just if a condition holds; otherwise the program ends. -/
def AbortsUnless {α : Type} (p : Prop) (x : Except AuditError α) : Prop :=
  (p → ∃ a, x = .ok a) ∧ (¬ p → x = .error .aborted)

namespace AbortsUnless

variable {α β : Type} {p q : Prop}

theorem congr {x : Except AuditError α} (h : AbortsUnless p x) (hpq : p ↔ q) :
    AbortsUnless q x := propext hpq ▸ h

theorem ok (a : α) : AbortsUnless True (.ok a) := ⟨fun _ ↦ ⟨a, rfl⟩, fun h ↦ absurd trivial h⟩

theorem map {x : Except AuditError α} (h : AbortsUnless p x) (f : α → β) :
    AbortsUnless p (x.map f) := by
  refine ⟨fun hp ↦ ?_, fun hp ↦ ?_⟩
  · obtain ⟨a, rfl⟩ := h.1 hp
    exact ⟨f a, rfl⟩
  · rw [h.2 hp]
    rfl

theorem mapM {p : α → Prop} {f : α → Except AuditError β} {xs : List α}
    (h : ∀ x ∈ xs, AbortsUnless (p x) (f x)) : AbortsUnless (∀ x ∈ xs, p x) (xs.mapM f) := by
  induction xs with
  | nil => exact (ok []).congr (by simp)
  | cons x xs ih =>
    have hx := h x List.mem_cons_self
    have hxs := ih fun y hy ↦ h y (List.mem_cons_of_mem x hy)
    rw [List.mapM_cons]
    refine ⟨fun hall ↦ ?_, fun hall ↦ ?_⟩
    · obtain ⟨y, hy⟩ := hx.1 (hall x List.mem_cons_self)
      obtain ⟨ys, hys⟩ := hxs.1 fun z hz ↦ hall z (List.mem_cons_of_mem x hz)
      exact ⟨y :: ys, by rw [hy, hys]; rfl⟩
    · by_cases hp : p x
      · obtain ⟨y, hy⟩ := hx.1 hp
        rw [hy, hxs.2 fun hrest ↦ hall (List.forall_mem_cons.2 ⟨hp, hrest⟩)]
        rfl
      · rw [hx.2 hp]
        rfl

end AbortsUnless

namespace Registry

variable {r : Registry} {path : String}

theorem read_ok {text : String} {fixture : Fixture} (h : Fixture.Written text fixture) :
    Fixture.read path (.ok text) = .ok fixture := by
  rw [Fixture.read, Fixture.parse?_eq_some_iff.2 h]

end Registry

namespace CommandLine

def Options.limits (o : Options) (environment : String → Option String)
    (find : String → Except FileFault FileTree) : Except LimitsError Limits :=
  let limits := (Limits.ofEnvironment environment).1
  o.config.elim (.ok limits) fun config ↦ limits.load config (find config)

def Options.answer (o : Options) (r : Registry) (found : Except FileFault FileTree)
    (time : Timestamp) : Response :=
  match r.audit o.path found with
  | .error (.fixture _) => .failure
  | .error .aborted => .aborted
  | .ok rows => .ofReport o.format time (.ofRows rows)

variable {o : Options} {environment : String → Option String}
  {find : String → Except FileFault FileTree}

theorem respond_error {e : LimitsError} (h : o.limits environment find = .error e)
    (time : Timestamp) : respond engine o environment find time = .failure := by
  unfold respond
  dsimp only
  rw [show o.config.elim _ _ = o.limits environment find from rfl, h]

theorem respond_ok {limits : Limits} (h : o.limits environment find = .ok limits)
    (time : Timestamp) : respond engine o environment find time =
      o.answer (.builtins engine limits) (find o.path) time := by
  unfold respond
  dsimp only
  rw [show o.config.elim _ _ = o.limits environment find from rfl, h]
  simp only [Registry.standard_result]
  rfl

end CommandLine

end AuditRules
