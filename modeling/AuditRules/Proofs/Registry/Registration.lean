import AuditRules.Proofs.Registry
import AuditRules.Proofs.StableSort

namespace AuditRules.Registry

theorem lookup_filter_ne (table : List (String × Comparator)) {name other : String}
    (h : other ≠ name) : (table.filter (·.1 != name)).lookup other = table.lookup other := by
  induction table with
  | nil => rfl
  | cons entry rest ih =>
    obtain ⟨key, c⟩ := entry
    by_cases hkey : key = name
    · have hne : (other == key) = false := by simp [hkey, h]
      have hdrop : (key != name) = false := by simp [hkey]
      simp only [List.filter_cons, hdrop, Bool.false_eq_true, if_false, List.lookup_cons, hne, ih]
    · have hkeep : (key != name) = true := by simp [hkey]
      simp only [List.filter_cons, hkeep, if_true, List.lookup_cons, ih]

theorem lookup_filter_self (table : List (String × Comparator)) (name : String) :
    (table.filter (·.1 != name)).lookup name = none := by
  refine List.lookup_eq_none_iff.2 fun entry hentry ↦ ?_
  have hne : entry.1 ≠ name := bne_iff_ne.1 (List.mem_filter.1 hentry).2
  exact bne_iff_ne.2 hne.symm

theorem lookup_addName (c : Comparator) (table : List (String × Comparator))
    (name other : String) : (addName c table name).lookup other =
      if other = name then some c else table.lookup other := by
  rw [addName, List.lookup_append]
  by_cases h : other = name
  · rw [h, lookup_filter_self]
    simp
  · have hne : (other == name) = false := by simp [h]
    simp [lookup_filter_ne table h, List.lookup_cons, hne, h]

theorem lookup_addNames (c : Comparator) (names : List String)
    (table : List (String × Comparator)) (name : String) :
    (names.foldl (addName c) table).lookup name =
      if name ∈ names then some c else table.lookup name := by
  induction names generalizing table with
  | nil => simp
  | cons first rest ih =>
    rw [List.foldl_cons, ih, lookup_addName]
    by_cases hrest : name ∈ rest <;> by_cases hfirst : name = first <;> simp [hrest, hfirst]

theorem nodup_addName (c : Comparator) {table : List (String × Comparator)}
    (h : (table.map (·.1)).Nodup) (name : String) : ((addName c table name).map (·.1)).Nodup := by
  have hfilter : ((table.filter (·.1 != name)).map (·.1)).Nodup :=
    h.sublist ((List.filter_sublist).map _)
  rw [addName, List.map_append, List.nodup_append]
  refine ⟨hfilter, by simp, fun key hkey other hother ↦ ?_⟩
  obtain ⟨entry, hentry, rfl⟩ := List.mem_map.1 hkey
  have hne := (List.mem_filter.1 hentry).2
  rw [List.mem_singleton.1 hother]
  simpa using hne

theorem nodup_addNames (c : Comparator) (names : List String)
    {table : List (String × Comparator)} (h : (table.map (·.1)).Nodup) :
    ((names.foldl (addName c) table).map (·.1)).Nodup := by
  induction names generalizing table with
  | nil => exact h
  | cons name rest ih => exact ih (nodup_addName c h name)

def enter (r : Registry) (c : Comparator) : Registry :=
  { r with table := c.names.foldl (addName c) r.table }

theorem get?_enter (r : Registry) (c : Comparator) (name : String) :
    (r.enter c).get? name = if name ∈ c.names then some c else r.get? name :=
  lookup_addNames c c.names r.table name

theorem mem_names {r : Registry} {name : String} :
    name ∈ r.names ↔ (r.get? name).isSome = true := by
  have hperm : r.names.Perm (r.table.map (·.1)) := insertionSort_perm _ _
  rw [hperm.mem_iff, List.mem_map, get?, List.lookup_isSome_iff]
  simp only [beq_iff_eq, eq_comm (a := name)]

theorem register_result (r : Registry) (c : Comparator) : (r.register c).result =
    match c.names.find? fun name ↦ decide (name ∈ r.names) with
    | some taken => .error (.duplicateComparator taken)
    | none => .ok (r.enter c) := by
  have htaken : (fun name ↦ decide (name ∈ r.names)) = fun name ↦ (r.get? name).isSome := by
    funext name
    rw [Bool.eq_iff_iff, decide_eq_true_iff, mem_names]
  rw [htaken, register]
  cases c.names.find? fun name ↦ (r.get? name).isSome <;> rfl

/-- Registration in place: one name is entered after another, and what has been entered stays if an
error follows. -/
def attempt (c : Comparator) : ExceptT RuleError (StateM Registry) Unit := do
  let r ← MonadState.get
  match c.names.find? fun name ↦ decide (name ∈ r.names) with
  | some taken => throw (.duplicateComparator taken)
  | none => c.names.forM fun name ↦ modify fun r ↦ { r with table := addName c r.table name }

def after (r : Registry) (c : Comparator) : Registry := ((attempt c).run.run r).2

theorem run_addNames (c : Comparator) (names : List String) (r : Registry) :
    (names.forM fun name ↦ modify fun r ↦ { r with table := addName c r.table name } :
      ExceptT RuleError (StateM Registry) Unit).run.run r =
      (.ok (), { r with table := names.foldl (addName c) r.table }) := by
  induction names generalizing r with
  | nil => rfl
  | cons name rest ih => exact ih _

theorem run_attempt (r : Registry) (c : Comparator) : (attempt c).run.run r =
    match c.names.find? fun name ↦ decide (name ∈ r.names) with
    | some taken => (.error (.duplicateComparator taken), r)
    | none => (.ok (), r.enter c) := by
  change (match c.names.find? fun name ↦ decide (name ∈ r.names) with
    | some taken => throw (.duplicateComparator taken)
    | none => c.names.forM fun name ↦ modify fun r ↦ { r with table := addName c r.table name } :
      ExceptT RuleError (StateM Registry) Unit).run.run r = _
  cases c.names.find? fun name ↦ decide (name ∈ r.names) with
  | some taken => rfl
  | none => exact run_addNames c c.names r

theorem find?_names_eq_none {r : Registry} {c : Comparator} :
    (c.names.find? fun name ↦ decide (name ∈ r.names)) = none ↔
      ∀ name ∈ c.names, name ∉ r.names := by
  simp

theorem register_isOk {r : Registry} {c : Comparator} :
    (r.register c).result.isOk = true ↔ ∀ name ∈ c.names, name ∉ r.names := by
  rw [← find?_names_eq_none, register_result]
  cases c.names.find? fun name ↦ decide (name ∈ r.names) <;> simp [Except.isOk, Except.toBool]

theorem after_eq (r : Registry) (c : Comparator) :
    r.after c = if (r.register c).result.isOk then r.enter c else r := by
  rw [after, run_attempt, register_result]
  cases c.names.find? fun name ↦ decide (name ∈ r.names) <;> rfl

def accepted : Registry → List Comparator → List Comparator
  | _, [] => []
  | r, c :: cs =>
    if (r.register c).result.isOk then c :: accepted (r.after c) cs else accepted (r.after c) cs

def history (limits : Limits) (cs : List Comparator) : Registry := cs.foldl after (empty limits)

/-- A registry in which just some comparators have been registered, one after another. -/
structure Holds (r : Registry) (registered : List Comparator) : Prop where
  owner : ∀ name, r.get? name = registered.find? fun c ↦ decide (name ∈ c.names)
  unique : (r.table.map (·.1)).Nodup

variable {r : Registry} {registered : List Comparator}

theorem holds_empty (limits : Limits) : (empty limits).Holds [] := ⟨fun _ ↦ rfl, List.nodup_nil⟩

/-- One attempt: its comparator becomes the owner of names that had none, or nothing changes. -/
theorem Holds.after (h : r.Holds registered) (c : Comparator) :
    (r.after c).Holds (registered ++ if (r.register c).result.isOk then [c] else []) := by
  rw [after_eq]
  by_cases hok : (r.register c).result.isOk = true
  · have hfresh := register_isOk.1 hok
    rw [if_pos hok, if_pos hok]
    refine ⟨fun name ↦ ?_, nodup_addNames c c.names h.unique⟩
    rw [get?_enter, List.find?_append, ← h.owner]
    by_cases hname : name ∈ c.names
    · have hnone : r.get? name = none := by
        have hnot := mt mem_names.2 (hfresh name hname)
        simpa using hnot
      simp [hname, hnone]
    · simp [hname]
  · rw [if_neg hok, if_neg hok, List.append_nil]
    exact h

theorem Holds.foldl (h : r.Holds registered) (cs : List Comparator) :
    (cs.foldl Registry.after r).Holds (registered ++ accepted r cs) := by
  induction cs generalizing r registered with
  | nil => simpa [accepted] using h
  | cons c cs ih =>
    have hstep := ih (h.after c)
    rw [List.append_assoc] at hstep
    rw [accepted, List.foldl_cons]
    split at hstep <;> simpa [*] using hstep

theorem Holds.names_increasing (h : r.Holds registered) : r.names.Pairwise (· < ·) := by
  have hunique : ((r.table.map (·.1)).map id).Nodup := by
    rw [List.map_id]
    exact h.unique
  have hsorted := insertionSort_increasing id hunique
  rwa [List.map_id] at hsorted

theorem Holds.mem_names_iff (h : r.Holds registered) {name : String} :
    name ∈ r.names ↔ ∃ c ∈ registered, name ∈ c.names := by
  rw [mem_names, h.owner, List.find?_isSome]
  simp

theorem Holds.get?_foldl (h : r.Holds registered) {name : String} {c : Comparator}
    (hc : r.get? name = some c) (cs : List Comparator) :
    (cs.foldl Registry.after r).get? name = some c := by
  rw [(h.foldl cs).owner, List.find?_append, ← h.owner, hc, Option.some_or]

theorem get_ok {r : Registry} {name : String} {c : Comparator} :
    r.get name = .ok c ↔ r.get? name = some c := by
  unfold get
  cases r.get? name <;> simp

theorem holds_history (limits : Limits) (cs : List Comparator) :
    (history limits cs).Holds (accepted (empty limits) cs) :=
  (holds_empty limits).foldl cs

theorem register_taken {r : Registry} {c : Comparator} {taken : String}
    (h : (c.names.find? fun name ↦ decide (name ∈ r.names)) = some taken) :
    (r.register c).result = .error (.duplicateComparator taken) ∧ r.after c = r := by
  have hresult : (r.register c).result = .error (.duplicateComparator taken) := by
    rw [register_result, h]
  refine ⟨hresult, ?_⟩
  rw [after_eq, hresult]
  rfl

theorem register_fresh {r : Registry} {c : Comparator} (h : ∀ name ∈ c.names, name ∉ r.names) :
    (r.register c).result = .ok (r.after c) := by
  rw [after_eq, if_pos (register_isOk.2 h), register_result, find?_names_eq_none.2 h]

theorem register_ok {r r' : Registry} {c : Comparator} (h : (r.register c).result = .ok r') :
    (∀ name ∈ c.names, name ∉ r.names) ∧ r' = r.enter c := by
  have hok := isOk_iff.2 ⟨r', h⟩
  refine ⟨register_isOk.1 hok, ?_⟩
  have hafter := register_fresh (register_isOk.1 hok)
  rw [after_eq, if_pos hok] at hafter
  exact Except.ok.inj (h.symm.trans hafter)

/-- After any history of attempts a comparator is registered if none of its names is taken, and
otherwise its first taken name is reported and nothing changes. A name belongs to the first
comparator that was registered under it, whatever is attempted later, and the names are those of
the registered comparators, in order and each of them once. -/
theorem history_owners (limits : Limits) (cs : List Comparator) :
    (∀ c, ((∃ r, ((history limits cs).register c).result = .ok r) ↔
        ∀ name ∈ c.names, name ∉ (history limits cs).names) ∧
      (∀ r, ((history limits cs).register c).result = .ok r → (history limits cs).after c = r) ∧
      ∀ taken, (c.names.find? fun name ↦ decide (name ∈ (history limits cs).names)) = some taken →
        ((history limits cs).register c).result = .error (.duplicateComparator taken) ∧
        (history limits cs).after c = history limits cs) ∧
    (∀ name, (history limits cs).get name =
      ((accepted (empty limits) cs).find? fun c ↦ decide (name ∈ c.names)).elim
        (.error (.unknownComparator name)) .ok) ∧
    (∀ name c, (history limits cs).get name = .ok c →
      ∀ later, (history limits (cs ++ later)).get name = .ok c) ∧
    (history limits cs).names.Pairwise (· < ·) ∧
    ∀ name, name ∈ (history limits cs).names ↔
      ∃ c ∈ accepted (empty limits) cs, name ∈ c.names := by
  have hheld := holds_history limits cs
  refine ⟨fun c ↦ ⟨?_, fun r hr ↦ ?_, fun taken ↦ register_taken⟩, fun name ↦ ?_, ?_,
    hheld.names_increasing, fun name ↦ hheld.mem_names_iff⟩
  · exact isOk_iff.symm.trans register_isOk
  · exact Except.ok.inj ((register_fresh (register_ok hr).1).symm.trans hr)
  · rw [get, hheld.owner]
    cases (accepted (empty limits) cs).find? fun c ↦ decide (name ∈ c.names) <;> rfl
  · intro name c hc later
    rw [history, List.foldl_append]
    exact get_ok.2 (hheld.get?_foldl (get_ok.1 hc) later)

def clashes : List Comparator :=
  [.fixed "port" ["socket"] ["match"] .passed fun _ _ _ ↦ "",
    .fixed "file" ["socket"] ["match"] .failed fun _ _ _ ↦ "",
    .fixed "file" [] ["match"] .passed fun _ _ _ ↦ "",
    .fixed "user" ["user"] ["match"] .passed fun _ _ _ ↦ ""]

theorem history_clashes :
    ((history .default (clashes.take 1)).register clashes[1]).result =
      .error (.duplicateComparator "socket") ∧
    (history .default (clashes.take 1)).after clashes[1] = history .default (clashes.take 1) ∧
    (history .default clashes).names = ["file", "port", "socket", "user"] := by
  have htaken : (clashes[1].names.find? fun name ↦
      decide (name ∈ (history .default (clashes.take 1)).names)) = some "socket" := by decide
  obtain ⟨herror, hsame⟩ := ((history_owners .default (clashes.take 1)).1 clashes[1]).2.2 _ htaken
  exact ⟨herror, hsame, by decide⟩

end AuditRules.Registry
