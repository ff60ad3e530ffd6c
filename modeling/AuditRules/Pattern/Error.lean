
namespace AuditRules

inductive Pattern.Fault where
  | classEscape
  | classRange
  | classRangeBound
  | unclosedClass
  | hexEmpty
  | hexScalar
  | hexDigit
  | escapeEnd
  | escapeUnknown
  | danglingNegation
  | repeatedFlag
  | repeatedNegation
  | flagEnd
  | flagUnknown
  | repeatedGroupName
  | emptyGroupName
  | invalidGroupName
  | groupNameEnd
  | unclosedGroup
  | unopenedGroup
  | nesting
  | countOrder
  | countMissing
  | countTooLarge
  | countEnd
  | repetitionMissing
  | boundaryEnd
  | boundaryUnknown
  | boundaryOpen
  | propertySyntax
  | backreference
  | lookAround
  | unicodeNotAllowed
  | notText
  | propertyUnknown
  | propertyValueUnknown
  deriving DecidableEq

namespace Pattern.Fault

def maxDepth : Nat := 250

def text : Fault → String
  | classEscape => "invalid escape sequence found in character class"
  | classRange => "invalid character class range, the start must be <= the end"
  | classRangeBound => "invalid range boundary, must be a literal"
  | unclosedClass => "unclosed character class"
  | hexEmpty => "hexadecimal literal empty"
  | hexScalar => "hexadecimal literal is not a Unicode scalar value"
  | hexDigit => "invalid hexadecimal digit"
  | escapeEnd => "incomplete escape sequence, reached end of pattern prematurely"
  | escapeUnknown => "unrecognized escape sequence"
  | danglingNegation => "dangling flag negation operator"
  | repeatedFlag => "duplicate flag"
  | repeatedNegation => "flag negation operator repeated"
  | flagEnd => "expected flag but got end of regex"
  | flagUnknown => "unrecognized flag"
  | repeatedGroupName => "duplicate capture group name"
  | emptyGroupName => "empty capture group name"
  | invalidGroupName => "invalid capture group character"
  | groupNameEnd => "unclosed capture group name"
  | unclosedGroup => "unclosed group"
  | unopenedGroup => "unopened group"
  | nesting =>
    "exceed the maximum number of nested parentheses/brackets (" ++ toString maxDepth ++ ")"
  | countOrder => "invalid repetition count range, the start must be <= the end"
  | countMissing => "repetition quantifier expects a valid decimal"
  | countTooLarge => "decimal literal invalid"
  | countEnd => "unclosed counted repetition"
  | repetitionMissing => "repetition operator missing expression"
  | boundaryEnd =>
    "special word boundary assertion is either unclosed or contains an invalid character"
  | boundaryUnknown => "unrecognized special word boundary assertion, " ++
      "valid choices are: start, end, start-half or end-half"
  | boundaryOpen => "found either the beginning of a special word boundary or a bounded " ++
      "repetition on a \\b with an opening brace, but no closing brace"
  | propertySyntax => "invalid Unicode character class"
  | backreference => "backreferences are not supported"
  | lookAround => "look-around, including look-ahead and look-behind, is not supported"
  | unicodeNotAllowed => "Unicode not allowed here"
  | notText => "pattern can match invalid UTF-8"
  | propertyUnknown => "Unicode property not found"
  | propertyValueUnknown => "Unicode property value not found"

end Pattern.Fault

inductive Pattern.Error where
  | malformed (fault : Pattern.Fault) (first last : Nat)
  | tooLarge
  deriving DecidableEq

namespace Pattern.Error

/-- The size that a pattern may have when it is compiled, in bytes. -/
def sizeLimit : Nat := 10 * 0x100000

def message (pattern : String) : Error → String
  | malformed fault first last =>
    "regex parse error:\n    " ++ pattern ++ "\n    " ++
      String.ofList (List.replicate first ' ' ++ List.replicate (max 1 (last - first)) '^') ++
      "\nerror: " ++ fault.text
  | tooLarge => "Compiled regex exceeds size limit of " ++ toString sizeLimit ++ " bytes."

end Pattern.Error

end AuditRules
