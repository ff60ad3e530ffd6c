import AuditRules.Comparator
import AuditRules.ListRule
import AuditRules.NumberExpression
import AuditRules.Value.Equality
import AuditRules.Value.Order
import AuditRules.Value.Shape

namespace AuditRules

namespace SequenceRule

def numberRule (mode : String) (expected : Value) : Value :=
  .object [(Rule.typeKey, .string "number"), (mode, expected)]

def mappingRule (mode : String) (expected : Value) (ignoreCase : Bool) : Value :=
  .object [(Rule.typeKey, .string "dict"), (mode, expected),
    (Rule.ignoreCaseKey, .bool ignoreCase)]

def passes (ctx : Context) (rule actual : Value) : Evaluation Bool :=
  return (← ctx.delegate rule actual).passed

/-- Whether an integer passes a number rule, where a text that is no number expression is passed by
no integer. -/
def passesNumber (ctx : Context) (rule : Value) (n : Int) : Evaluation Bool :=
  tryCatch (passes ctx rule (.ofInt n)) fun e ↦
    match e with
    | .invalidExpression expression _ => do
      ctx.event "Pattern is not a number expression" [("pattern", expression)]
      return false
    | e => throw e

/-- Whether an element that is no mapping satisfies a pattern: the rule under the first key of a
mapping, or equality with anything else. -/
def scalarSatisfies (ctx : Context) (ignoreCase : Bool) (item pattern : Value) :
    Evaluation Bool :=
  match pattern.nestedRule? with
  | some nested => passes ctx nested item
  | none => return !pattern.isObject && item.equalFolded ignoreCase pattern

def elementSatisfies (ctx : Context) (ignoreCase : Bool) (item pattern : Value) :
    Evaluation Bool :=
  match item.shape with
  | .mapping _ =>
    if pattern.isObject then passes ctx (mappingRule "match" pattern ignoreCase) item
    else return false
  | _ => scalarSatisfies ctx ignoreCase item pattern

def compareSize (ctx : Context) (expression : Value) (items : List Value) :
    Evaluation Verdict := do
  let verdict ← ctx.delegate (numberRule "match" expression) (.ofInt items.length)
  return .ofBool verdict.passed
    ("list::size failure. Expected=" ++ ctx.render expression ++ " Got=" ++
      toString items.length)

def keyValue (key : String) (v : Value) : Value := (v.get? key).getD .null

/-- The order of elements, if need be first by the value under a key. -/
def elementOrder (key : Option String) (v w : Value) : Ordering :=
  match key with
  | some key => ((keyValue key v).order (keyValue key w)).then (v.order w)
  | none => v.order w

def sortItems (key : Option String) (items : List Value) : Except RuleError (List Value) :=
  match sortBy (elementOrder key) items with
  | some sorted => .ok sorted
  | none => .error .aborted

/-- Whether two lists are equal once both are sorted. -/
def equalSorted (key : Option String) (xs ys : List Value) : Except RuleError Bool := do
  let xs ← sortItems key xs
  let ys ← sortItems key ys
  return equalItems xs ys

/-- Equality of two lists up to the order of their elements. Where the first element is an integer
that passes the first expected value as a number expression, nothing else is looked at. -/
def compareExactly (ctx : Context) (expected : List Value) (actual : Value) (items : List Value) :
    Evaluation Verdict :=
  match items with
  | [] => do
    ctx.event "Empty list received in list::match" []
    return .fail ("list::match failure. " ++ ctx.render actual ++ " is not a non-empty list")
  | first :: _ => do
    let shortcut ←
      match first.shape, expected with
      | .whole n, e :: _ => passesNumber ctx (numberRule "match" e) n
      | _, _ => pure false
    if shortcut then return .checkPassed
    let key := match first.shape with
      | .mapping fields => fields.keys.head?
      | _ => none
    return .ofBool (← equalSorted key items expected)
      ("list::match failure. Got=" ++ ctx.render actual)

/-- Whether an element satisfies one of the patterns. Mapping patterns and number expressions are
each put to it in one rule. -/
def itemSatisfiesAny (ctx : Context) (ignoreCase : Bool) (patterns : List Value)
    (item : Value) : Evaluation Bool := do
  let mappings := patterns.filter Value.isObject
  let expressions := patterns.filter fun p ↦ (NumberExpression.parse p).isOk
  match item.shape with
  | .mapping _ =>
    if mappings.isEmpty then return false
    else passes ctx (mappingRule "match_any" (.array mappings) ignoreCase) item
  | .whole n =>
    let passed ←
      if expressions.isEmpty then pure false
      else passesNumber ctx (numberRule "match_any" (.array expressions)) n
    if passed then return true
    patterns.anyM (scalarSatisfies ctx ignoreCase item)
  | .other _ => patterns.anyM (scalarSatisfies ctx ignoreCase item)

def compareAny (ctx : Context) (ignoreCase : Bool) (patterns : List Value) (actual : Value)
    (items : List Value) : Evaluation Verdict := do
  let found ← items.anyM (itemSatisfiesAny ctx ignoreCase patterns)
  return .ofBool found ("list::match_any failure. Got=" ++ ctx.render actual)

def compareAll (ctx : Context) (ignoreCase : Bool) (actual : Value) (items : List Value) :
    List Value → Evaluation Verdict
  | [] => return .checkPassed
  | pattern :: rest => do
    if ← items.anyM (elementSatisfies ctx ignoreCase · pattern) then
      compareAll ctx ignoreCase actual items rest
    else
      return .fail ("list::match_all failure. No element satisfies " ++ ctx.render pattern ++
        ". Got=" ++ ctx.render actual)

/-- The elements and arguments that have equal values under a key, in the order in which they are
compared. -/
def keyedPairs (key : String) (args : List Fields) (items : List Value) :
    List (Value × Fields) :=
  items.flatMap fun item ↦
    match item.shape with
    | .mapping fields =>
      match fields.get? key with
      | some v => (args.filter fun arg ↦ (arg.get? key).any v.equal).map fun arg ↦ (item, arg)
      | none => []
    | _ => []

/-- Whether a pair passes, or, if none does, whether one fails. -/
def scanPairs (ctx : Context) (ignoreCase : Bool) (mismatched : Bool) :
    List (Value × Fields) → Evaluation Outcome
  | [] => return if mismatched then .failed else .notApplicable
  | (item, arg) :: rest => do
    match (← ctx.delegate (mappingRule "match" (.object arg) ignoreCase) item).outcome with
    | .passed => return .passed
    | .failed => scanPairs ctx ignoreCase true rest
    | .notApplicable => scanPairs ctx ignoreCase mismatched rest

def compareKeyed (ctx : Context) (ignoreCase : Bool) (key : String) (args : List Fields)
    (actual : Value) (items : List Value) : Evaluation Verdict := do
  match ← scanPairs ctx ignoreCase false (keyedPairs key args items) with
  | .passed => return .checkPassed
  | .failed =>
    return .fail ("list::match_any_if_keyvalue_matches failure. Got=" ++ ctx.render actual)
  | .notApplicable =>
    return .notApplicable ("Check Passed. No element with a matching '" ++ key ++ "' value")

def keep (ctx : Context) (rule : Value) : List Value → Evaluation (List Value)
  | [] => return []
  | item :: rest => do
    let passed ← passes ctx rule item
    let kept ← keep ctx rule rest
    return if passed then item :: kept else kept

def compareFiltered (ctx : Context) (filter rule : Fields) (items : List Value) :
    Evaluation Verdict := do
  let kept ← keep ctx (.object [(Rule.typeKey, .string "dict"), ("match", .object filter)]) items
  ctx.event "list::filter_compare filtered elements"
    [("kept", toString kept.length), ("total", toString items.length)]
  ctx.delegate (.object (Fields.insertAll [(Rule.typeKey, .string "list")] rule)) (.array kept)

def compareItems (ctx : Context) (rule : ListRule) (ignoreCase : Bool) (actual : Value)
    (items : List Value) : Evaluation Verdict :=
  match rule with
  | .size expression => compareSize ctx expression items
  | .exactly expected => compareExactly ctx expected actual items
  | .any patterns => compareAny ctx ignoreCase patterns actual items
  | .all patterns => compareAll ctx ignoreCase actual items patterns
  | .keyed key args => compareKeyed ctx ignoreCase key args actual items
  | .filtered filter rule => compareFiltered ctx filter rule items

def compare (ctx : Context) (rule : Rule) (actual : Value) : Evaluation Verdict := do
  let parsed ← ListRule.parse rule
  ctx.event "Running list comparator" [("mode", parsed.mode), ("depth", toString ctx.depth)]
  match actual with
  | .array items => compareItems ctx parsed rule.ignoreCase actual items
  | _ =>
    ctx.event "Actual value is not a list" [("code", Code.shapeMismatch.text)]
    return .fail ("list::" ++ parsed.mode ++ " failure. " ++ ctx.render actual ++
      " is not an instance of list")

end SequenceRule

def Comparator.sequence : Comparator where
  tag := ListRule.comparator
  aliases := []
  modes := ListRule.modes.map (·.1)
  compare := SequenceRule.compare

end AuditRules
