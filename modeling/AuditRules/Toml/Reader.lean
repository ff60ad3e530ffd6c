import AuditRules.Toml.Lexeme
import AuditRules.Toml.Table

namespace AuditRules.Toml

open Read

mutual

def value (depth : Nat) : Nat → Read Item
  | 0 => failure
  | fuel + 1 => do
    let nested (inner : Read Unit) : Read Item := do
      if depth + 1 < depthLimit then
        inner
        return .value
      else failure
    match ← peek with
    | some '"' | some '\'' => do
      let _ ← text
      return .value
    | some '[' => nested do
      exactly "["
      listItems (depth + 1) fuel
    | some '\x7b' => nested do
      exactly "\x7b"
      space
      if !(← taken "\x7d") then tableItems (depth + 1) [] fuel
    | _ =>
      (do moment; return .value) <|> (do real; return .value) <|>
        (do return .integer (← integer)) <|> do
          exactly "true" <|> exactly "false"
          return .value

def listItems (depth : Nat) : Nat → Read Unit
  | 0 => failure
  | fuel + 1 => do
    lines (← get).length.succ
    if ← taken "]" then return
    let _ ← value depth fuel
    lines (← get).length.succ
    if ← taken "," then listItems depth fuel else exactly "]"

def tableItems (depth : Nat) (entries : Entries) : Nat → Read Unit
  | 0 => failure
  | fuel + 1 => do
    let (path, last) ← name
    exactly "="
    space
    let item ← value depth fuel
    space
    let entries ← entries.define? path last item
    if ← taken "," then tableItems depth entries fuel else exactly "\x7d"

end

def header (entries : Entries) : Read (Entries × List String) := do
  exactly "["
  if ← taken "[" then
    let (path, last) ← name
    exactly "]]"
    lineEnd
    return (← entries.openNext? path last, path ++ [last])
  else
    let (path, last) ← name
    exactly "]"
    lineEnd
    return (← entries.openTable? path last, path ++ [last])

def definition (entries : Entries) (here : List String) : Read Entries := do
  let (path, last) ← name
  exactly "="
  space
  let item ← value 0 (2 * (← get).length + 2)
  lineEnd
  entries.defineIn? here path last item

def statements (entries : Entries) (here : List String) : Nat → Read Entries
  | 0 => failure
  | fuel + 1 => do
    space
    match ← peek with
    | none => return entries
    | some '#' | some '\n' => do
      lineEnd
      statements entries here fuel
    | some '[' => do
      let (entries, here) ← header entries
      statements entries here fuel
    | some _ => do
      let entries ← definition entries here
      statements entries here fuel

def parse? (s : String) : Option Entries :=
  let cs := match s.toList with
    | '\uFEFF' :: cs => cs
    | cs => cs
  let cs := unifyLineEnds cs
  ((statements [] [] cs.length.succ).run cs).map (·.1)

end AuditRules.Toml
