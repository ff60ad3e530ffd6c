
namespace AuditRules.Toml

inductive Origin where
  | header
  | around
  | dotted
  deriving DecidableEq

/-- What a name stands for. Of values only integers are kept; tables written between braces are
values. Of a list of tables only the last one, to which more may be added, is kept. -/
inductive Item where
  | integer (n : Int)
  | value
  | table (origin : Origin) (entries : List (String × Item))
  | tables (last : List (String × Item))

abbrev Entries := List (String × Item)

namespace Entries

def set (entries : Entries) (name : String) (item : Item) : Entries :=
  (name, item) :: entries.filter (·.1 != name)

/-- Changes the table that a path of names leads to. Missing tables on the path are made with the
given origin; a dotted name does not lead into a table that has a header. -/
def descend? (origin : Origin) (change : Origin → Entries → Option Entries) :
    List String → Origin → Entries → Option Entries
  | [], here, entries => change here entries
  | name :: path, _, entries => do
    let step := descend? origin change path
    match entries.lookup name with
    | none => return entries.set name (.table origin (← step origin []))
    | some (.table found below) =>
      if origin = .dotted ∧ found = .header then none
      else return entries.set name (.table found (← step found below))
    | some (.tables last) => return entries.set name (.tables (← step .header last))
    | some _ => none

def define? (path : List String) (name : String) (item : Item) (entries : Entries) :
    Option Entries :=
  descend? .dotted
    (fun here below ↦
      if (here = .dotted) = path.isEmpty ∨ (below.lookup name).isSome then none
      else some (below.set name item))
    path .header entries

def openTable? (path : List String) (name : String) (entries : Entries) : Option Entries :=
  descend? .around
    (fun _ below ↦
      match below.lookup name with
      | none => some (below.set name (.table .header []))
      | some (.table .around inner) => some (below.set name (.table .header inner))
      | some _ => none)
    path .header entries

def openNext? (path : List String) (name : String) (entries : Entries) : Option Entries :=
  descend? .around
    (fun _ below ↦
      match below.lookup name with
      | none | some (.tables _) => some (below.set name (.tables []))
      | some _ => none)
    path .header entries

def defineIn? (here path : List String) (name : String) (item : Item) (entries : Entries) :
    Option Entries :=
  descend? .around (fun _ below ↦ define? path name item below) here .header entries

end Entries

end AuditRules.Toml
