import AuditRules.Pattern.CharClass
import AuditRules.Text.Blank
import AuditRules.Text.Category.Table
import AuditRules.Text.LetterCase.Table
import AuditRules.Text.Script.Table

namespace AuditRules

namespace Category

def letter : CharSet :=
  uppercaseLetter ++ lowercaseLetter ++ titlecaseLetter ++ modifierLetter ++ otherLetter

def mark : CharSet := nonspacingMark ++ spacingMark ++ enclosingMark

def number : CharSet := decimalNumber ++ letterNumber ++ otherNumber

def punctuation : CharSet :=
  connectorPunctuation ++ dashPunctuation ++ openPunctuation ++ closePunctuation ++
    initialPunctuation ++ finalPunctuation ++ otherPunctuation

def symbol : CharSet := mathSymbol ++ currencySymbol ++ modifierSymbol ++ otherSymbol

def separator : CharSet := spaceSeparator ++ lineSeparator ++ paragraphSeparator

def assigned : CharSet :=
  letter ++ mark ++ number ++ punctuation ++ symbol ++ separator ++ control ++ format ++ privateUse

def named : List (List String × CharClass) := [
  (["lu", "uppercaseletter"], .set uppercaseLetter),
  (["ll", "lowercaseletter"], .set lowercaseLetter),
  (["lt", "titlecaseletter"], .set titlecaseLetter),
  (["lc", "casedletter"], .set (uppercaseLetter ++ lowercaseLetter ++ titlecaseLetter)),
  (["lm", "modifierletter"], .set modifierLetter),
  (["lo", "otherletter"], .set otherLetter),
  (["l", "letter"], .set letter),
  (["mn", "nonspacingmark"], .set nonspacingMark),
  (["mc", "spacingmark"], .set spacingMark),
  (["me", "enclosingmark"], .set enclosingMark),
  (["m", "mark", "combiningmark"], .set mark),
  (["nd", "decimalnumber", "digit"], .set decimalNumber),
  (["nl", "letternumber"], .set letterNumber),
  (["no", "othernumber"], .set otherNumber),
  (["n", "number"], .set number),
  (["pc", "connectorpunctuation"], .set connectorPunctuation),
  (["pd", "dashpunctuation"], .set dashPunctuation),
  (["ps", "openpunctuation"], .set openPunctuation),
  (["pe", "closepunctuation"], .set closePunctuation),
  (["pi", "initialpunctuation"], .set initialPunctuation),
  (["pf", "finalpunctuation"], .set finalPunctuation),
  (["po", "otherpunctuation"], .set otherPunctuation),
  (["p", "punctuation", "punct"], .set punctuation),
  (["sm", "mathsymbol"], .set mathSymbol),
  (["sc", "currencysymbol"], .set currencySymbol),
  (["sk", "modifiersymbol"], .set modifierSymbol),
  (["so", "othersymbol"], .set otherSymbol),
  (["s", "symbol"], .set symbol),
  (["zs", "spaceseparator"], .set spaceSeparator),
  (["zl", "lineseparator"], .set lineSeparator),
  (["zp", "paragraphseparator"], .set paragraphSeparator),
  (["z", "separator"], .set separator),
  (["cc", "control", "cntrl"], .set control),
  (["cf", "format"], .set format),
  (["co", "privateuse"], .set privateUse),
  (["cn", "unassigned"], .allBut assigned),
  (["c", "other"], .allBut (letter ++ mark ++ number ++ punctuation ++ symbol ++ separator)),
  (["any"], .allBut []),
  (["assigned"], .set assigned),
  (["ascii"], .set [(0, 0x7F)])]

end Category

namespace Property

def alphabetic : CharSet := Category.letter ++ Category.letterNumber ++ otherAlphabetic

def lowercase : CharSet := Category.lowercaseLetter ++ otherLowercase

def uppercase : CharSet := Category.uppercaseLetter ++ otherUppercase

def whiteSpace : CharSet := [(0x9, 0xD), (0x20, 0x20), (0x85, 0x85), (0xA0, 0xA0),
  (0x1680, 0x1680), (0x2000, 0x200A), (0x2028, 0x2029), (0x202F, 0x202F), (0x205F, 0x205F),
  (0x3000, 0x3000)]

def word : CharSet :=
  [(0x30, 0x39), (0x41, 0x5A), (0x5F, 0x5F), (0x61, 0x7A)] ++ alphabetic ++ Category.mark ++
    Category.decimalNumber ++ Category.connectorPunctuation ++ joinControl

def named : List (List String × CharClass) := [
  (["alphabetic", "alpha"], .set alphabetic),
  (["lowercase", "lower"], .set lowercase),
  (["uppercase", "upper"], .set uppercase),
  (["whitespace", "wspace", "space"], .set whiteSpace),
  (["cased"], .set LetterCase.cased),
  (["caseignorable", "ci"], .set LetterCase.ignorable),
  (["math"], .set math),
  (["dash"], .set dash),
  (["emoji"], .set emoji),
  (["emojipresentation", "epres"], .set emojiPresentation),
  (["extendedpictographic", "extpict"], .set extendedPictographic),
  (["ideographic", "ideo"], .set ideographic),
  (["diacritic", "dia"], .set diacritic),
  (["quotationmark", "qmark"], .set quotationMark),
  (["joincontrol", "joinc"], .set joinControl),
  (["hexdigit", "hex"], .set hexDigit),
  (["asciihexdigit", "ahex"], .set [(0x30, 0x39), (0x41, 0x46), (0x61, 0x66)])]

end Property

namespace CharClass

/-- A name without what does not tell names apart: case, blanks, hyphens, underscores and a leading
"is". -/
def plainName (cs : List Char) : String :=
  let lower := cs.map Char.toLower
  let (rest, cut) := match lower with
    | 'i' :: 's' :: rest => (rest, true)
    | rest => (rest, false)
  let plain := rest.filter fun c ↦ c.toNat < 128 && c != ' ' && c != '_' && c != '-'
  if cut && plain == ['c'] then "isc" else String.ofList plain

def find? (table : List (List String × CharClass)) (name : String) : Option CharClass :=
  (table.find? fun entry ↦ entry.1.contains name).map (·.2)

def script? (name : String) : Option CharClass :=
  (Script.table.find? fun entry ↦ entry.1.contains name).map fun entry ↦ .set entry.2

def named? (cs : List Char) : Option CharClass :=
  let name := plainName cs
  find? Property.named name <|> find? Category.named name <|> script? name

/-- The class of the characters with a value of a property. -/
def valued? (property value : List Char) : Option CharClass :=
  let name := plainName value
  match plainName property with
  | "gc" | "generalcategory" => find? Category.named name
  | "sc" | "script" => script? name
  | _ => Option.none

end CharClass

end AuditRules
