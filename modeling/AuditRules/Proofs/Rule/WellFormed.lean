import AuditRules.Proofs.Rule

namespace AuditRules

mutual

/-- Rules that no data can make fail. -/
inductive WellFormedRule (engine : PatternEngine) : Value → Prop
  | number {fields : Fields} {e : Value} (h : fields.Asks .number "match" e)
      (he : (NumberExpression.parse e).isOk = true) : WellFormedRule engine (.object fields)
  | numberAny {fields : Fields} {es : List Value} (h : fields.Asks .number "match_any" (.array es))
      (hes : ∀ e ∈ es, (NumberExpression.parse e).isOk = true) :
      WellFormedRule engine (.object fields)
  | text {fields : Fields} {v : Value} (h : fields.Asks (.text engine) "match" v)
      (hv : v.toText?.isSome = true) : WellFormedRule engine (.object fields)
  | textAny {fields : Fields} {vs : List Value}
      (h : fields.Asks (.text engine) "match_any" (.array vs))
      (hvs : ∀ v ∈ vs, v.toText?.isSome = true) : WellFormedRule engine (.object fields)
  | textPattern {fields : Fields} {v : Value} {s : String}
      (h : fields.Asks (.text engine) "regex_match" v) (hv : v.toText? = some s)
      (hs : (engine (Rule.mk fields).ignoreCase s).isOk = true) :
      WellFormedRule engine (.object fields)
  | boolean {fields : Fields} {v : Value} (h : fields.Asks .boolean "match" v)
      (hv : v.toBool?.isSome = true) : WellFormedRule engine (.object fields)
  | mapping {fields expected : Fields} (h : fields.Asks .mapping "match" (.object expected))
      (he : WellFormedPattern engine expected) : WellFormedRule engine (.object fields)
  | mappingAny {fields : Fields} {candidates : List Fields}
      (h : fields.Asks .mapping "match_any" (.array (candidates.map .object)))
      (hc : ∀ candidate ∈ candidates, WellFormedPattern engine candidate) :
      WellFormedRule engine (.object fields)
  | mappingKeyAny {fields : Fields} {keys : List String}
      (h : fields.Asks .mapping "match_key_any" (.array (keys.map .string))) :
      WellFormedRule engine (.object fields)
  | mappingKeyAll {fields : Fields} {keys : List String}
      (h : fields.Asks .mapping "match_key_all" (.array (keys.map .string))) :
      WellFormedRule engine (.object fields)
  | size {fields : Fields} {e : Value} (h : fields.Asks .sequence "size" e)
      (he : (NumberExpression.parse e).isOk = true) : WellFormedRule engine (.object fields)
  | exactly {fields : Fields} {expected : List Value}
      (h : fields.Asks .sequence "match" (.array expected)) : WellFormedRule engine (.object fields)
  | any {fields : Fields} {patterns : List Value}
      (h : fields.Asks .sequence "match_any" (.array patterns))
      (hp : ∀ pattern, .object pattern ∈ patterns → WellFormedPattern engine pattern) :
      WellFormedRule engine (.object fields)
  | all {fields : Fields} {patterns : List Value}
      (h : fields.Asks .sequence "match_all" (.array patterns))
      (hp : ∀ pattern, .object pattern ∈ patterns → WellFormedPattern engine pattern) :
      WellFormedRule engine (.object fields)
  | keyed {fields parts : Fields} {key : String} {args : List Fields}
      (h : fields.Asks .sequence "match_any_if_keyvalue_matches" (.object parts))
      (hkey : parts.get? "match_key" = some (.string key))
      (hargs : parts.get? "args" = some (.array (args.map .object)))
      (hp : ∀ arg ∈ args, WellFormedPattern engine arg) : WellFormedRule engine (.object fields)
  | filtered {fields parts filter rule : Fields}
      (h : fields.Asks .sequence "filter_compare" (.object parts))
      (hfilter : parts.get? "filter" = some (.object filter))
      (hcompare : parts.get? "compare" = some (.object rule))
      (hf : WellFormedPattern engine filter)
      (hr : WellFormedRule engine
        (.object (Fields.insertAll [(Rule.typeKey, .string "list")] rule))) :
      WellFormedRule engine (.object fields)

/-- Patterns for mappings: each value with a type tag is a well-formed rule, each other mapping is a
pattern again, and all other values are free. -/
inductive WellFormedPattern (engine : PatternEngine) : Fields → Prop
  | entries {fields : Fields}
      (typed : ∀ key v, (key, v) ∈ fields → v.isTypedRule = true → WellFormedRule engine v)
      (nested : ∀ key inner, (key, .object inner) ∈ fields →
        (Value.object inner).isTypedRule = false → WellFormedPattern engine inner) :
      WellFormedPattern engine fields

end

namespace WellFormedPattern

variable {engine : PatternEngine}

theorem typed {fields : Fields} (h : WellFormedPattern engine fields) {key : String} {v : Value}
    (hv : (key, v) ∈ fields) (ht : v.isTypedRule = true) : WellFormedRule engine v := by
  cases h with
  | entries typed _ => exact typed key v hv ht

theorem nested {fields : Fields} (h : WellFormedPattern engine fields) {key : String}
    {inner : Fields} (hv : (key, .object inner) ∈ fields)
    (ht : (Value.object inner).isTypedRule = false) :
    WellFormedPattern engine inner := by
  cases h with
  | entries _ nested => exact nested key inner hv ht

end WellFormedPattern

end AuditRules
