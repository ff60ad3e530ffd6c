import AuditRules.Proofs.Comparator.Sequence

namespace AuditRules

variable {engine : PatternEngine}

namespace SequenceRule

def Yields (ctx : Context) (ignoreCase : Bool) (item : Value) (arg : Fields)
    (outcome : Outcome) : Prop :=
  ∃ v, (ctx.delegate (mappingRule "match" (.object arg) ignoreCase) item).result = .ok v ∧
    v.outcome = outcome

def SomeHit (ctx : Context) (ignoreCase : Bool) (key : String) (args : List Fields)
    (items : List Value) (outcome : Outcome) : Prop :=
  ∃ item ∈ items, ∃ arg ∈ args, Hit key item arg ∧ Yields ctx ignoreCase item arg outcome

variable {ctx : Context} {ignoreCase : Bool}

theorem Yields.unique {item : Value} {arg : Fields} {o o' : Outcome}
    (h : Yields ctx ignoreCase item arg o) (h' : Yields ctx ignoreCase item arg o') : o = o' := by
  obtain ⟨v, hv, rfl⟩ := h
  obtain ⟨v', hv', rfl⟩ := h'
  rw [hv, Except.ok.injEq] at hv'
  rw [hv']

/-- One step of the scan: the first pair is compared, and unless it passes the scan goes on. -/
theorem scanPairs_cons {mismatched : Bool} {item : Value} {arg : Fields}
    {rest : List (Value × Fields)} {o : Outcome}
    (h : (scanPairs ctx ignoreCase mismatched ((item, arg) :: rest)).result = .ok o) :
    (Yields ctx ignoreCase item arg .passed ∧ o = .passed) ∨
    (Yields ctx ignoreCase item arg .failed ∧
      (scanPairs ctx ignoreCase true rest).result = .ok o) ∨
    (Yields ctx ignoreCase item arg .notApplicable ∧
      (scanPairs ctx ignoreCase mismatched rest).result = .ok o) := by
  rw [scanPairs] at h
  cases hd : (ctx.delegate (mappingRule "match" (.object arg) ignoreCase) item).result with
  | error e =>
    rw [Evaluation.result_bind_error hd] at h
    cases h
  | ok v =>
    rw [Evaluation.result_bind_ok hd] at h
    cases ho : v.outcome with
    | passed =>
      rw [ho] at h
      exact .inl ⟨⟨v, hd, ho⟩, (Except.ok.inj h).symm⟩
    | failed =>
      rw [ho] at h
      exact .inr (.inl ⟨⟨v, hd, ho⟩, h⟩)
    | notApplicable =>
      rw [ho] at h
      exact .inr (.inr ⟨⟨v, hd, ho⟩, h⟩)

/-- A whole scan: what it answers depends only on which outcomes its pairs have. -/
theorem scanPairs_ok {pairs : List (Value × Fields)} {mismatched : Bool} {o : Outcome}
    (h : (scanPairs ctx ignoreCase mismatched pairs).result = .ok o) :
    (o = .passed ↔ ∃ p ∈ pairs, Yields ctx ignoreCase p.1 p.2 .passed) ∧
    (o = .failed ↔ (¬ ∃ p ∈ pairs, Yields ctx ignoreCase p.1 p.2 .passed) ∧
      (mismatched = true ∨ ∃ p ∈ pairs, Yields ctx ignoreCase p.1 p.2 .failed)) := by
  induction pairs generalizing mismatched with
  | nil =>
    have ho : o = if mismatched then .failed else .notApplicable := (Except.ok.inj h).symm
    cases mismatched <;> simp [ho]
  | cons pair rest ih =>
    obtain ⟨item, arg⟩ := pair
    simp only [List.mem_cons, exists_eq_or_imp]
    rcases scanPairs_cons h with ⟨hy, rfl⟩ | ⟨hy, hrest⟩ | ⟨hy, hrest⟩
    · exact ⟨⟨fun _ ↦ .inl hy, fun _ ↦ rfl⟩, nofun, fun hn ↦ absurd (.inl hy) hn.1⟩
    · have hnp : ¬ Yields ctx ignoreCase item arg .passed := fun hp ↦ nomatch hy.unique hp
      obtain ⟨hpassed, hfailed⟩ := ih hrest
      simp only [hpassed, hfailed, hnp, hy, false_or, true_or, or_true, and_true]
    · have hnp : ¬ Yields ctx ignoreCase item arg .passed := fun hp ↦ nomatch hy.unique hp
      have hnf : ¬ Yields ctx ignoreCase item arg .failed := fun hf ↦ nomatch hy.unique hf
      obtain ⟨hpassed, hfailed⟩ := ih hrest
      simp only [hpassed, hfailed, hnp, hnf, false_or, true_and]

/-- The outcome that a keyed rule has if it has one. -/
def Decides (hit : Outcome → Prop) (o : Outcome) : Prop :=
  (o = .passed ↔ hit .passed) ∧ (o = .failed ↔ ¬ hit .passed ∧ hit .failed) ∧
    (o = .notApplicable ↔ ¬ hit .passed ∧ ¬ hit .failed)

theorem Decides.unique {hit hit' : Outcome → Prop} (hh : ∀ o, hit o ↔ hit' o) {o o' : Outcome}
    (h : Decides hit o) (h' : Decides hit' o') : o = o' := by
  obtain rfl : hit = hit' := funext fun o ↦ propext (hh o)
  cases o with
  | passed => exact (h'.1.2 (h.1.1 rfl)).symm
  | failed => exact (h'.2.1.2 (h.2.1.1 rfl)).symm
  | notApplicable => exact (h'.2.2.2 (h.2.2.1 rfl)).symm

theorem exists_keyedPairs {key : String} {args : List Fields} {items : List Value}
    {o : Outcome} : (∃ p ∈ keyedPairs key args items, Yields ctx ignoreCase p.1 p.2 o) ↔
      SomeHit ctx ignoreCase key args items o := by
  constructor
  · rintro ⟨⟨item, arg⟩, hmem, hy⟩
    obtain ⟨hitem, harg, hhit⟩ := mem_keyedPairs.1 hmem
    exact ⟨item, hitem, arg, harg, hhit, hy⟩
  · rintro ⟨item, hitem, arg, harg, hhit, hy⟩
    exact ⟨(item, arg), mem_keyedPairs.2 ⟨hitem, harg, hhit⟩, hy⟩

theorem scan_of_compareKeyed {key : String} {args : List Fields} {actual : Value}
    {items : List Value} {v : Verdict}
    (h : (compareKeyed ctx ignoreCase key args actual items).result = .ok v) :
    (scanPairs ctx ignoreCase false (keyedPairs key args items)).result = .ok v.outcome := by
  obtain ⟨o, hscan, h⟩ := Evaluation.exists_of_result_bind_ok h
  have ho : v.outcome = o := by cases o <;> rw [← Except.ok.inj h] <;> rfl
  rw [ho]
  exact hscan

theorem compareKeyed_ok {key : String} {args : List Fields} {actual : Value}
    {items : List Value} {v : Verdict}
    (h : (compareKeyed ctx ignoreCase key args actual items).result = .ok v) :
    Decides (SomeHit ctx ignoreCase key args items) v.outcome := by
  obtain ⟨hpassed, hfailed⟩ := scanPairs_ok (scan_of_compareKeyed h)
  simp only [exists_keyedPairs, Bool.false_eq_true, false_or] at hpassed hfailed
  refine ⟨hpassed, hfailed, ?_⟩
  cases ho : v.outcome with
  | passed => simp [hpassed.1 ho]
  | failed => simp [(hfailed.1 ho).2]
  | notApplicable =>
    rw [ho] at hpassed hfailed
    have hnp : ¬ SomeHit ctx ignoreCase key args items .passed := by
      intro hp
      cases hpassed.2 hp
    have hnf : ¬ SomeHit ctx ignoreCase key args items .failed := by
      intro hf
      cases hfailed.2 ⟨hnp, hf⟩
    exact iff_of_true rfl ⟨hnp, hnf⟩

theorem compareKeyed_no_hit {key : String} {args : List Fields} {items : List Value}
    (h : ∀ item ∈ items, ∀ arg ∈ args, ¬ Hit key item arg) (actual : Value) :
    ∃ v, (compareKeyed ctx ignoreCase key args actual items).result = .ok v ∧
      v.outcome = .notApplicable := by
  have hnil : keyedPairs key args items = [] := by
    refine List.eq_nil_iff_forall_not_mem.2 fun ⟨item, arg⟩ hmem ↦ ?_
    obtain ⟨hitem, harg, hhit⟩ := mem_keyedPairs.1 hmem
    exact h item hitem arg harg hhit
  rw [compareKeyed, hnil]
  exact ⟨_, rfl, rfl⟩

end SequenceRule

namespace Registry

open SequenceRule

structure Keyed (r : Registry) (fields : Fields) (key : String) (args : List Fields)
    (ignoreCase : Bool) : Prop where
  tagged : ∃ tag, fields.get? Rule.typeKey = some (.string tag) ∧ r.get? tag = some .sequence
  parsed : ListRule.parse ⟨fields⟩ = .ok (.keyed key args)
  flag : (Rule.mk fields).ignoreCase = ignoreCase

variable {r : Registry} {fields : Fields} {key : String} {args : List Fields} {ignoreCase : Bool}

theorem evaluate_keyed (h : r.Keyed fields key args ignoreCase) (checkId : String)
    (remaining : Nat) (items : List Value) :
    (r.evaluate checkId remaining (.object fields) (.array items)).result =
      (compareKeyed (r.context checkId remaining) ignoreCase key args (.array items)
        items).result := by
  obtain ⟨tag, htag, hr⟩ := h.tagged
  rw [evaluate_tagged htag hr, ← h.flag]
  exact compare_array h.parsed _ items

/-- A keyed rule that has a verdict passes if some hit passes, fails if none passes and some hit
fails, and does not apply otherwise. Without a hit it always has a verdict. So the order of elements
and arguments has no part in the outcome. -/
theorem evaluate_keyed_outcome (h : r.Keyed fields key args ignoreCase) (checkId : String)
    (remaining : Nat) (items : List Value) :
    (∀ v, (r.evaluate checkId remaining (.object fields) (.array items)).result = .ok v →
      Decides (SomeHit (r.context checkId remaining) ignoreCase key args items) v.outcome) ∧
    ((∀ item ∈ items, ∀ arg ∈ args, ¬ Hit key item arg) →
      ∃ v, (r.evaluate checkId remaining (.object fields) (.array items)).result = .ok v ∧
        v.outcome = .notApplicable) ∧
    (∀ (fields' : Fields) (args' : List Fields) (items' : List Value),
      r.Keyed fields' key args' ignoreCase → args'.Perm args → items'.Perm items → ∀ v v',
        (r.evaluate checkId remaining (.object fields) (.array items)).result = .ok v →
        (r.evaluate checkId remaining (.object fields') (.array items')).result = .ok v' →
        v'.outcome = v.outcome) := by
  have hdecides : ∀ v,
      (r.evaluate checkId remaining (.object fields) (.array items)).result = .ok v →
        Decides (SomeHit (r.context checkId remaining) ignoreCase key args items) v.outcome :=
    fun v hv ↦ compareKeyed_ok (evaluate_keyed h checkId remaining items ▸ hv)
  refine ⟨hdecides, fun hnone ↦ ?_, fun fields' args' items' h' hargs hitems v v' hv hv' ↦ ?_⟩
  · rw [evaluate_keyed h checkId remaining items]
    exact compareKeyed_no_hit hnone _
  · have hd' := compareKeyed_ok (evaluate_keyed h' checkId remaining items' ▸ hv')
    refine hd'.unique (fun o ↦ ?_) (hdecides v hv)
    simp only [SomeHit, hargs.mem_iff, hitems.mem_iff]

def stoppedService : Fields :=
  [(Rule.typeKey, .string "list"), ("match_any_if_keyvalue_matches", .object [
    ("match_key", .string "name"),
    ("args", .array [.object [("name", .string "rsync"), ("running", .bool false)]])])]

theorem evaluate_stoppedService :
    (builtins Pattern.engine .default).Keyed stoppedService "name"
      [[("name", .string "rsync"), ("running", .bool false)]] false ∧
    Decides (SomeHit ((builtins Pattern.engine .default).context "check" 1) false "name"
      [[("name", .string "rsync"), ("running", .bool false)]]
      [.object [("name", .string "sshd")],
        .object [("name", .string "rsync"), ("running", .bool true)]]) .failed := by
  have h : (builtins Pattern.engine .default).Keyed stoppedService "name"
      [[("name", .string "rsync"), ("running", .bool false)]] false :=
    ⟨⟨"list", rfl, rfl⟩, rfl, rfl⟩
  exact ⟨h, (evaluate_keyed_outcome h "check" 1 _).1 ⟨.failed, _⟩ rfl⟩

end Registry

end AuditRules
