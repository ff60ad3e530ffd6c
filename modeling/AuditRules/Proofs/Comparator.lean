import AuditRules.Proofs.NumberExpression
import AuditRules.Proofs.Rule

namespace AuditRules

variable {engine : PatternEngine}

namespace NumberRule

theorem select_asks {fields : Fields} {payload : Value} (mode : Mode)
    (h : fields.Asks .number mode.key payload) :
    (Rule.mk fields).select comparator modes = .ok (mode, payload) :=
  Rule.select_eq comparator (by decide) (by cases mode <;> simp [modes]) h.value h.only

theorem parse_error {v : Value} {error : RuleError} (h : NumberExpression.parse v = .error error) :
    error.IsBadExpression := by
  cases v with
  | number => cases h
  | string s =>
    rw [NumberExpression.parse] at h
    rcases NumberExpression.parseText_answers s with ⟨e, hok⟩ | ⟨reason, herror⟩
    · cases hok.symm.trans h
    · exact ⟨s, reason, Except.error.inj (h.symm.trans herror)⟩
  | null | bool | array | object => exact ⟨_, _, (Except.error.inj h).symm⟩

end NumberRule

namespace TextRule

theorem select_asks {fields : Fields} {payload : Value} (mode : Mode)
    (h : fields.Asks (.text engine) mode.key payload) :
    (Rule.mk fields).select comparator modes = .ok (mode, payload) :=
  Rule.select_eq comparator (by decide) (by cases mode <;> simp [modes]) h.value h.only

theorem expectedText_ok {v : Value} {s : String} (h : v.toText? = some s) (mode : Mode) :
    expectedText mode v = .ok s := by
  simp only [expectedText, h]

end TextRule

namespace BooleanRule

theorem select_asks {fields : Fields} {payload : Value}
    (h : fields.Asks .boolean modeKey payload) :
    (Rule.mk fields).select comparator [(modeKey, ())] = .ok ((), payload) :=
  Rule.select_eq comparator (by decide) List.mem_cons_self h.value h.only

end BooleanRule

namespace MappingRule

theorem select_asks {fields : Fields} {payload : Value} (mode : Mode)
    (h : fields.Asks .mapping mode.key payload) :
    (Rule.mk fields).select comparator modes = .ok (mode, payload) :=
  Rule.select_eq comparator (by decide) (by cases mode <;> simp [modes]) h.value h.only

theorem expectedKeys_ok (mode : Mode) (keys : List String) :
    expectedKeys mode (.array (keys.map .string)) = .ok keys := by
  rw [expectedKeys]
  induction keys with
  | nil => rfl
  | cons key keys ih =>
    rw [List.map_cons, List.mapM_cons, ih]
    rfl

end MappingRule

end AuditRules
