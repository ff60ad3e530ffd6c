import AuditRules.Proofs.Registry.Satisfies

namespace AuditRules

variable {engine : PatternEngine}

theorem Verdict.Decided.outcome_ofBool_passed {v : Verdict} (h : v.Decided) (failure : String) :
    (ofBool v.passed failure).outcome = v.outcome := by
  rw [Verdict.outcome_ofBool, passed]
  cases houtcome : v.outcome with
  | passed | failed => rfl
  | notApplicable => exact absurd houtcome h

theorem NumberRule.outcome_congr {fields fields' : Fields} {payload : Value} (mode : Mode)
    (h : fields.Asks .number mode.key payload) (h' : fields'.Asks .number mode.key payload)
    (ctx ctx' : Context) (actual : Value) :
    (compare ctx ⟨fields⟩ actual).result.map Verdict.outcome =
      (compare ctx' ⟨fields'⟩ actual).result.map Verdict.outcome :=
  (result_asks mode h ctx actual).trans (result_asks mode h' ctx' actual).symm

namespace SequenceRule

def sizeFailure (site : Site) (expression : Value) (n : Nat) : String :=
  "list::size failure. Expected=" ++ site.render expression ++ " Got=" ++ toString n

theorem compareSize_result (ctx : Context) (expression : Value) (items : List Value) :
    (compareSize ctx expression items).result =
      (ctx.delegate (numberRule "match" expression) (.ofInt items.length)).result.map fun v ↦
        .ofBool v.passed (sizeFailure ctx.toSite expression items.length) := by
  rw [compareSize]
  cases hv : (ctx.delegate (numberRule "match" expression) (.ofInt items.length)).result with
  | ok v => exact Evaluation.result_bind_ok hv _
  | error e => exact Evaluation.result_bind_error hv _

theorem compareSize_outcome {ctx : Context} {expression : Value} {items : List Value}
    (h : Evaluation.YieldsOnly Verdict.Decided
      (ctx.delegate (numberRule "match" expression) (.ofInt items.length))) :
    (compareSize ctx expression items).result.map Verdict.outcome =
      (ctx.delegate (numberRule "match" expression) (.ofInt items.length)).result.map
        Verdict.outcome := by
  rw [compareSize_result]
  cases hv : (ctx.delegate (numberRule "match" expression) (.ofInt items.length)).result with
  | ok v => exact congrArg Except.ok ((h.accepts hv).outcome_ofBool_passed _)
  | error e => rfl

end SequenceRule

namespace Registry

open SequenceRule

variable {limits : Limits} {expression : Value}

theorem run_sizeRule_result {size : Fields} (h : size.Asks .sequence "size" expression)
    (limits : Limits) (checkId : String) (items : List Value) :
    ((builtins engine limits).run checkId (.object size) (.array items)).result =
      (compareSize ((builtins engine limits).context checkId limits.nesting) expression
        items).result :=
  evaluate_array h (parse_asks (fun v ↦ .ok (.size v)) h (by simp [ListRule.modes])) limits checkId
    limits.nesting items

/-- A rule on the length of a list has the outcome, or the error, of the rule on numbers with the
same expression on that length. Of the list nothing but the length shows in what it answers. -/
theorem run_sizeRule (hl : 0 < limits.nesting) {size number : Fields}
    (hsize : size.Asks .sequence "size" expression)
    (hnumber : number.Asks .number "match" expression) (checkId : String) (items : List Value) :
    ((builtins engine limits).run checkId (.object size) (.array items)).result.map
      Verdict.outcome =
      ((builtins engine limits).run checkId (.object number) (.ofInt items.length)).result.map
        Verdict.outcome ∧
    ∀ items' : List Value, items'.length = items.length →
      ((builtins engine limits).run checkId (.object size) (.array items')).result =
        ((builtins engine limits).run checkId (.object size) (.array items)).result := by
  constructor
  · let ctx := (builtins engine limits).context checkId limits.nesting
    obtain ⟨ctx', hdelegate⟩ : ∃ ctx', ctx.delegate (numberRule "match" expression)
        (.ofInt items.length) = NumberRule.compare ctx'
          ⟨[(Rule.typeKey, .string "number"), ("match", expression)]⟩ (.ofInt items.length) := by
      obtain ⟨n, hn⟩ := Nat.exists_eq_add_one_of_ne_zero (Nat.ne_of_gt hl)
      have hlevel :=
        delegated_numberRule engine limits checkId n .one expression (.ofInt items.length)
      rw [← hn] at hlevel
      exact ⟨_, hlevel⟩
    have hdecided : Evaluation.YieldsOnly Verdict.Decided
        (ctx.delegate (numberRule "match" expression) (.ofInt items.length)) := by
      rw [hdelegate]
      exact NumberRule.compare_decided _ _ _
    rw [run_sizeRule_result hsize, compareSize_outcome hdecided, hdelegate, run_result,
      evaluate_asks hnumber (by simp [builtin])]
    exact NumberRule.outcome_congr .one (numberRule_asks (by decide) expression) hnumber _ _ _
  · intro items' hlength
    rw [run_sizeRule_result hsize, run_sizeRule_result hsize, compareSize_result,
      compareSize_result, hlength]

def interfacesRule (tag mode : String) : Fields :=
  [(Rule.typeKey, .string tag), (mode, .string ">= 2")]

theorem run_interfacesRule :
    0 < Limits.default.nesting ∧
    (interfacesRule "list" "size").Asks .sequence "size" (.string ">= 2") ∧
    (interfacesRule "number" "match").Asks .number "match" (.string ">= 2") ∧
    ((builtins Pattern.engine .default).run "check" (.object (interfacesRule "list" "size"))
        (.array [.string "eth0", .null])).result.map Verdict.outcome =
      ((builtins Pattern.engine .default).run "check" (.object (interfacesRule "number" "match"))
        (.ofInt 2)).result.map Verdict.outcome ∧
    ((builtins Pattern.engine .default).run "check" (.object (interfacesRule "list" "size"))
        (.array [.string "lo", .string "eth0"])).result =
      ((builtins Pattern.engine .default).run "check" (.object (interfacesRule "list" "size"))
        (.array [.string "eth0", .null])).result := by
  have hl : 0 < Limits.default.nesting := by decide
  have hsize : (interfacesRule "list" "size").Asks .sequence "size" (.string ">= 2") :=
    Fields.asks_written (by decide) (by decide) (by decide) _
  have hnumber : (interfacesRule "number" "match").Asks .number "match" (.string ">= 2") :=
    Fields.asks_written (by decide) (by decide) (by decide) _
  obtain ⟨houtcome, hlength⟩ :=
    run_sizeRule hl hsize hnumber "check" [.string "eth0", .null]
  exact ⟨hl, hsize, hnumber, houtcome, hlength _ rfl⟩

end Registry

end AuditRules
