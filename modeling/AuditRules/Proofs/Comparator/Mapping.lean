import AuditRules.Proofs.Comparator.Delegates

namespace AuditRules

open Evaluation (YieldsOnly)

namespace Value

theorem isTypedRule_of_isObject {v : Value} (h : v.isObject = false) : v.isTypedRule = false := by
  cases v with
  | object => cases h
  | null | bool | number | string | array => rfl

theorem equalFolded_false (v w : Value) : v.equalFolded false w = v.equal w := by
  cases v <;> cases w <;> rfl

end Value

namespace MappingRule

variable {ctx : Context} {ignoreCase : Bool} {key : String} {expected v : Value}

theorem valueMismatch?_rule (hrule : expected.isTypedRule = true) :
    valueMismatch? ctx ignoreCase key expected v = do
      let verdict ← ctx.delegate expected v
      return if verdict.passed then none
        else some ("key '" ++ key ++ "': " ++ verdict.message) := by
  rw [valueMismatch?.eq_def]
  simp only [hrule, if_true]

theorem valueMismatch?_whole (huntyped : expected.isTypedRule = false)
    (hwhole : expected.isObject = false ∨ v.isObject = false) :
    valueMismatch? ctx ignoreCase key expected v =
      pure (if v.equalFolded ignoreCase expected then none
        else some ("key '" ++ key ++ "' expected " ++ ctx.render expected ++ " got " ++
          ctx.render v)) := by
  rw [valueMismatch?.eq_def]
  simp only [huntyped, Bool.false_eq_true, if_false]
  split
  · rcases hwhole with h | h <;> cases h
  · rfl

theorem valueMismatch?_object {inner : Fields} (huntyped : (Value.object inner).isTypedRule = false)
    (xs : Fields) : valueMismatch? ctx ignoreCase key (.object inner) (.object xs) = do
      let reason ← mismatch? ctx ignoreCase inner xs
      return reason.map fun r ↦ key ++ "." ++ r := by
  rw [valueMismatch?.eq_def]
  simp only [huntyped, Bool.false_eq_true, if_false]

theorem mismatch?_eq_none_iff {pattern actual : Fields} :
    (mismatch? ctx ignoreCase pattern actual).result = .ok none ↔
      ∀ entry ∈ pattern, ∃ v, actual.get? entry.1 = some v ∧
        (valueMismatch? ctx ignoreCase entry.1 entry.2 v).result = .ok none := by
  induction pattern with
  | nil =>
    rw [mismatch?]
    exact iff_of_true rfl (by simp)
  | cons entry rest ih =>
    rw [mismatch?, List.forall_mem_cons]
    cases hv : actual.get? entry.1 with
    | none =>
      refine iff_of_false ?_ (by simp)
      intro hmissing
      cases hmissing
    | some v =>
      cases hvalue : (valueMismatch? ctx ignoreCase entry.1 entry.2 v).result with
      | error e => simp [Evaluation.result_bind_error hvalue, hvalue]
      | ok reason =>
        dsimp only
        rw [Evaluation.result_bind_ok hvalue]
        cases reason with
        | none => simp [ih, hvalue]
        | some reason =>
          refine iff_of_false ?_ (by simp [hvalue])
          intro hreason
          cases hreason

theorem compare_scalar {mode : Mode} {fields : Fields} (h : fields.Asks .mapping mode.key expected)
    (hv : v.isObject = false) (ctx : Context) :
    ∃ message, (compare ctx ⟨fields⟩ v).result = .ok (.fail message) := by
  rw [compare, select_asks mode h, Evaluation.liftM_ok_bind]
  cases v with
  | object => cases hv
  | null | bool | number | string | array => exact ⟨_, Evaluation.result_bind_ok rfl _⟩

/-- An entry of a pattern is satisfied in a mapping that has its key: the value there passes the
rule of the entry, or satisfies every entry of a nested pattern, or else is equal to what is
expected. -/
inductive Satisfied (answer : Value → Value → Evaluation Verdict) (ignoreCase : Bool) :
    Fields → String × Value → Prop
  | rule {actual : Fields} {key : String} {rule v : Value} {verdict : Verdict}
      (hv : actual.get? key = some v) (hrule : rule.isTypedRule = true)
      (hverdict : (answer rule v).result = .ok verdict) (hpassed : verdict.passed = true) :
      Satisfied answer ignoreCase actual (key, rule)
  | nested {actual inner fields : Fields} {key : String}
      (hv : actual.get? key = some (.object fields))
      (huntyped : (Value.object inner).isTypedRule = false)
      (hinner : ∀ entry ∈ inner, Satisfied answer ignoreCase fields entry) :
      Satisfied answer ignoreCase actual (key, .object inner)
  | whole {actual : Fields} {key : String} {expected v : Value}
      (hv : actual.get? key = some v) (huntyped : expected.isTypedRule = false)
      (hwhole : expected.isObject = false ∨ v.isObject = false)
      (hequal : v.equalFolded ignoreCase expected = true) :
      Satisfied answer ignoreCase actual (key, expected)

inductive Shortfall (answer : Value → Value → Evaluation Verdict) (limit : Nat) :
    Fields → String × Value → String → Prop
  | missing {actual : Fields} {key : String} {expected : Value} (hv : actual.get? key = none) :
      Shortfall answer limit actual (key, expected) ("key '" ++ key ++ "' not found")
  | rule {actual : Fields} {key : String} {rule v : Value} {verdict : Verdict}
      (hv : actual.get? key = some v) (hrule : rule.isTypedRule = true)
      (hverdict : (answer rule v).result = .ok verdict) :
      Shortfall answer limit actual (key, rule) ("key '" ++ key ++ "': " ++ verdict.message)
  | whole {actual : Fields} {key : String} {expected v : Value}
      (hv : actual.get? key = some v) (huntyped : expected.isTypedRule = false)
      (hwhole : expected.isObject = false ∨ v.isObject = false) :
      Shortfall answer limit actual (key, expected)
        ("key '" ++ key ++ "' expected " ++ expected.render limit ++ " got " ++ v.render limit)

structure Place where
  above : List String
  entry : String × Value
  actual : Fields

namespace Place

def below (key : String) (p : Place) : Place := { p with above := key :: p.above }

def reason (p : Place) (text : String) : String :=
  p.above.foldr (fun key rest ↦ key ++ "." ++ rest) text

def Holds (answer : Value → Value → Evaluation Verdict) (ignoreCase : Bool) (p : Place) : Prop :=
  Satisfied answer ignoreCase p.actual p.entry

end Place

mutual

/-- The entries of a pattern in depth-first order, as they are compared with a mapping: those of a
nested pattern come before the entry that holds it. -/
def depthFirst : List (String × Value) → Fields → List Place
  | [], _ => []
  | (key, expected) :: rest, actual =>
    (inside expected (actual.get? key)).map (.below key) ++
      ⟨[], (key, expected), actual⟩ :: depthFirst rest actual

def inside : Value → Option Value → List Place
  | .object inner, some (.object fields) =>
    if (Value.object inner).isTypedRule then [] else depthFirst inner fields
  | _, _ => []

end

theorem inside_rule (hrule : expected.isTypedRule = true) (found : Option Value) :
    inside expected found = [] := by
  unfold inside
  split
  · simp only [hrule, if_true]
  · rfl

theorem inside_whole (hwhole : expected.isObject = false ∨ v.isObject = false) :
    inside expected (some v) = [] := by
  cases expected with
  | null | bool | number | string | array => rfl
  | object inner =>
    cases v with
    | null | bool | number | string | array => rfl
    | object fields => rcases hwhole with h | h <;> cases h

theorem inside_missing (expected : Value) : inside expected none = [] := by
  cases expected <;> rfl

theorem inside_object {inner : Fields} (huntyped : (Value.object inner).isTypedRule = false)
    (fields : Fields) :
    inside (.object inner) (some (.object fields)) = depthFirst inner fields := by
  rw [inside, huntyped]
  rfl

theorem mem_depthFirst {pattern actual : Fields} {p : Place} :
    p ∈ depthFirst pattern actual ↔ ∃ entry ∈ pattern, p = ⟨[], entry, actual⟩ ∨
      ∃ q ∈ inside entry.2 (actual.get? entry.1), p = q.below entry.1 := by
  induction pattern with
  | nil => simp [depthFirst]
  | cons entry rest ih =>
    rw [depthFirst]
    simp only [List.mem_append, List.mem_map, List.mem_cons, ih, exists_eq_or_imp, eq_comm (a := p),
      or_assoc, or_left_comm]

variable {answer : Value → Value → Evaluation Verdict}

theorem Satisfied.inside {actual : Fields} {entry : String × Value}
    (h : Satisfied answer ignoreCase actual entry) :
    ∀ p ∈ inside entry.2 (actual.get? entry.1), p.Holds answer ignoreCase := by
  induction h with
  | rule hv hrule => simp [inside_rule hrule]
  | whole hv huntyped hwhole => simp [hv, inside_whole hwhole]
  | @nested actual inner fields key hv huntyped hinner ih =>
    intro p hp
    rw [hv, inside_object huntyped] at hp
    obtain ⟨entry, hentry, rfl | ⟨q, hq, rfl⟩⟩ := mem_depthFirst.1 hp
    · exact hinner entry hentry
    · exact ih entry hentry q hq

theorem depthFirst_holds_iff {pattern actual : Fields} :
    (∀ p ∈ depthFirst pattern actual, p.Holds answer ignoreCase) ↔
      ∀ entry ∈ pattern, Satisfied answer ignoreCase actual entry := by
  constructor
  · intro h entry hentry
    exact h ⟨[], entry, actual⟩ (mem_depthFirst.2 ⟨entry, hentry, .inl rfl⟩)
  · intro h p hp
    obtain ⟨entry, hentry, rfl | ⟨q, hq, rfl⟩⟩ := mem_depthFirst.1 hp
    · exact h entry hentry
    · exact (h entry hentry).inside q hq

def FirstUnsatisfied (answer : Value → Value → Evaluation Verdict) (ignoreCase : Bool) (limit : Nat)
    (places : List Place) (reason : String) : Prop :=
  ∃ before p after text, places = before ++ p :: after ∧
    (∀ q ∈ before, q.Holds answer ignoreCase) ∧ ¬ p.Holds answer ignoreCase ∧
      Shortfall answer limit p.actual p.entry text ∧ reason = p.reason text

namespace FirstUnsatisfied

variable {limit : Nat} {places : List Place} {reason : String}

theorem single {p : Place} (hp : ¬ p.Holds answer ignoreCase) {text : String}
    (htext : Shortfall answer limit p.actual p.entry text) :
    FirstUnsatisfied answer ignoreCase limit [p] (p.reason text) :=
  ⟨[], p, [], text, rfl, by simp, hp, htext, rfl⟩

theorem below (h : FirstUnsatisfied answer ignoreCase limit places reason) (key : String) :
    FirstUnsatisfied answer ignoreCase limit (places.map (.below key)) (key ++ "." ++ reason) := by
  obtain ⟨before, p, after, text, rfl, hbefore, hp, htext, rfl⟩ := h
  refine ⟨before.map (.below key), p.below key, after.map (.below key), text, by simp, ?_, hp,
    htext, rfl⟩
  intro q hq
  obtain ⟨q', hq', rfl⟩ := List.mem_map.1 hq
  exact hbefore q' hq'

theorem append (h : FirstUnsatisfied answer ignoreCase limit places reason) (rest : List Place) :
    FirstUnsatisfied answer ignoreCase limit (places ++ rest) reason := by
  obtain ⟨before, p, after, text, rfl, hfirst⟩ := h
  exact ⟨before, p, after ++ rest, text, by simp, hfirst⟩

theorem prepend {front : List Place} (hfront : ∀ p ∈ front, p.Holds answer ignoreCase)
    (h : FirstUnsatisfied answer ignoreCase limit places reason) :
    FirstUnsatisfied answer ignoreCase limit (front ++ places) reason := by
  obtain ⟨before, p, after, text, rfl, hbefore, hp⟩ := h
  refine ⟨front ++ before, p, after, text, by simp, ?_, hp⟩
  intro q hq
  rcases List.mem_append.1 hq with hq | hq
  · exact hfront q hq
  · exact hbefore q hq

theorem not_forall (h : FirstUnsatisfied answer ignoreCase limit places reason) :
    ¬ ∀ p ∈ places, p.Holds answer ignoreCase := by
  obtain ⟨before, p, after, text, rfl, -, hp, -⟩ := h
  intro hall
  apply hp
  exact hall p (List.mem_append_right before List.mem_cons_self)

end FirstUnsatisfied

def Finds (answer : Value → Value → Evaluation Verdict) (ignoreCase : Bool) (limit : Nat)
    (places : List Place) : Option String → Prop
  | none => ∀ p ∈ places, p.Holds answer ignoreCase
  | some reason => FirstUnsatisfied answer ignoreCase limit places reason

theorem Finds.single {limit : Nat} {p : Place} {passed : Bool} {text : String}
    (hholds : p.Holds answer ignoreCase ↔ passed = true)
    (htext : Shortfall answer limit p.actual p.entry text) :
    Finds answer ignoreCase limit [p] (if passed then none else some (p.reason text)) := by
  cases passed with
  | true => simpa [Finds] using hholds
  | false => exact FirstUnsatisfied.single (by simpa using hholds) htext

theorem Finds.prepend {limit : Nat} {front places : List Place} {reason : Option String}
    (hfront : ∀ p ∈ front, p.Holds answer ignoreCase)
    (h : Finds answer ignoreCase limit places reason) :
    Finds answer ignoreCase limit (front ++ places) reason := by
  cases reason with
  | some reason => exact FirstUnsatisfied.prepend hfront h
  | none =>
    intro p hp
    rcases List.mem_append.1 hp with hp | hp
    · exact hfront p hp
    · exact h p hp

/-- A verdict on a delegated rule is the verdict on that rule by itself. -/
def Faithful (delegate answer : Value → Value → Evaluation Verdict) : Prop :=
  ∀ rule v, YieldsOnly (fun verdict ↦ (answer rule v).result = .ok verdict) (delegate rule v)

theorem satisfied_rule_iff {actual : Fields} (hv : actual.get? key = some v)
    (hrule : expected.isTypedRule = true) {verdict : Verdict}
    (hverdict : (answer expected v).result = .ok verdict) :
    Satisfied answer ignoreCase actual (key, expected) ↔ verdict.passed = true := by
  constructor
  · intro h
    cases h with
    | rule hv' _ hverdict' hpassed =>
      obtain rfl := Option.some.inj (hv.symm.trans hv')
      obtain rfl := Except.ok.inj (hverdict.symm.trans hverdict')
      exact hpassed
    | nested _ huntyped => rw [hrule] at huntyped; cases huntyped
    | whole _ huntyped => rw [hrule] at huntyped; cases huntyped
  · exact .rule hv hrule hverdict

theorem satisfied_whole_iff {actual : Fields} (hv : actual.get? key = some v)
    (huntyped : expected.isTypedRule = false)
    (hwhole : expected.isObject = false ∨ v.isObject = false) :
    Satisfied answer ignoreCase actual (key, expected) ↔
      v.equalFolded ignoreCase expected = true := by
  constructor
  · intro h
    cases h with
    | rule _ hrule => rw [hrule] at huntyped; cases huntyped
    | nested hv' =>
      obtain rfl := Option.some.inj (hv.symm.trans hv')
      rcases hwhole with h | h <;> cases h
    | whole hv' _ _ hequal =>
      obtain rfl := Option.some.inj (hv.symm.trans hv')
      exact hequal
  · exact .whole hv huntyped hwhole

theorem not_satisfied_missing {actual : Fields} (hv : actual.get? key = none) :
    ¬ Satisfied answer ignoreCase actual (key, expected) := by
  intro h
  cases h with
  | rule hv' | nested hv' | whole hv' => rw [hv] at hv'; cases hv'

theorem Finds.nested {limit : Nat} {actual inner fields : Fields} {reason : Option String}
    (hv : actual.get? key = some (.object fields))
    (huntyped : (Value.object inner).isTypedRule = false)
    (h : Finds answer ignoreCase limit (depthFirst inner fields) reason) :
    Finds answer ignoreCase limit ((depthFirst inner fields).map (.below key) ++
      [⟨[], (key, .object inner), actual⟩]) (reason.map fun r ↦ key ++ "." ++ r) := by
  cases reason with
  | some reason => exact (FirstUnsatisfied.below h key).append _
  | none =>
    have hentries := depthFirst_holds_iff.1 h
    intro p hp
    rcases List.mem_append.1 hp with hp | hp
    · obtain ⟨q, hq, rfl⟩ := List.mem_map.1 hp
      exact h q hq
    · obtain rfl := List.mem_singleton.1 hp
      exact .nested hv huntyped hentries

mutual

/-- A comparison that ends finds what there is to find among the places of its pattern. -/
theorem mismatch?_finds (h : Faithful ctx.delegate answer) :
    ∀ (pattern : List (String × Value)) (actual : Fields),
      YieldsOnly (Finds answer ignoreCase ctx.renderLimit (depthFirst pattern actual))
        (mismatch? ctx ignoreCase pattern actual)
  | [], _ => by
    rw [mismatch?, depthFirst]
    exact Evaluation.Ensures.of_ok rfl (by simp [Finds])
  | (key, expected) :: rest, actual => by
    have hplaces : depthFirst ((key, expected) :: rest) actual =
        ((inside expected (actual.get? key)).map (.below key) ++
          [⟨[], (key, expected), actual⟩]) ++ depthFirst rest actual := by
      simp [depthFirst]
    rw [mismatch?, hplaces]
    cases hv : actual.get? key with
    | none =>
      rw [inside_missing]
      exact Evaluation.Ensures.of_ok rfl
        ((FirstUnsatisfied.single (not_satisfied_missing hv) (.missing hv)).append _)
    | some v =>
      have hhere := valueMismatch?_finds h key expected v actual hv
      refine Evaluation.Ensures.bind hhere fun reason hreason ↦ ?_
      cases reason with
      | some reason => exact Evaluation.Ensures.of_ok rfl (hreason.append _)
      | none =>
        have hrest := mismatch?_finds h rest actual
        exact hrest.weaken fun _ hfinds ↦ hfinds.prepend hreason

theorem valueMismatch?_finds (h : Faithful ctx.delegate answer) (key : String) :
    ∀ (expected v : Value) (actual : Fields), actual.get? key = some v →
      YieldsOnly (Finds answer ignoreCase ctx.renderLimit
        ((inside expected (some v)).map (.below key) ++ [⟨[], (key, expected), actual⟩]))
        (valueMismatch? ctx ignoreCase key expected v)
  | expected, v, actual, hv => by
    by_cases hrule : expected.isTypedRule = true
    · rw [valueMismatch?_rule hrule, inside_rule hrule]
      refine Evaluation.Ensures.bind (h expected v) fun verdict hverdict ↦ ?_
      exact Finds.single (p := ⟨[], (key, expected), actual⟩)
        (satisfied_rule_iff hv hrule hverdict) (.rule hv hrule hverdict)
    · have huntyped : expected.isTypedRule = false := by simpa using hrule
      by_cases hwhole : expected.isObject = false ∨ v.isObject = false
      · rw [valueMismatch?_whole huntyped hwhole, inside_whole hwhole]
        exact Finds.single (p := ⟨[], (key, expected), actual⟩)
          (satisfied_whole_iff hv huntyped hwhole) (.whole hv huntyped hwhole)
      · cases expected with
        | null | bool | number | string | array => exact absurd (.inl rfl) hwhole
        | object inner =>
          cases v with
          | null | bool | number | string | array => exact absurd (.inr rfl) hwhole
          | object fields =>
            rw [valueMismatch?_object huntyped, inside_object huntyped]
            have hinner := mismatch?_finds h inner fields
            exact Evaluation.Ensures.bind hinner fun _ hfinds ↦ hfinds.nested hv huntyped

end

def shortfallMessage (limit : Nat) (actual : Value) (reason : String) : String :=
  "dict::match failure. " ++ reason ++ ". Got=" ++ actual.render limit

theorem compareFields_finds (h : Faithful ctx.delegate answer) (pattern fields : Fields)
    (actual : Value) :
    YieldsOnly (fun v ↦
      (v = .checkPassed ∧ ∀ entry ∈ pattern, Satisfied answer ignoreCase fields entry) ∨
      ∃ reason, FirstUnsatisfied answer ignoreCase ctx.renderLimit (depthFirst pattern fields)
        reason ∧ v = .fail (shortfallMessage ctx.renderLimit actual reason))
      (compareFields ctx .entries ignoreCase (.object pattern) actual fields) := by
  rw [compareFields, expectedMapping, Evaluation.liftM_ok_bind]
  refine Evaluation.Ensures.bind (mismatch?_finds h pattern fields) fun reason hreason ↦ ?_
  cases reason with
  | none => exact .inl ⟨rfl, depthFirst_holds_iff.1 hreason⟩
  | some reason => exact .inr ⟨reason, hreason, rfl⟩

end MappingRule

end AuditRules
