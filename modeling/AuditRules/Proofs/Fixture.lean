import AuditRules.Fixture
import Mathlib.Data.List.Forall2

namespace AuditRules

open Json (Document)

variable {α β : Type}

theorem mapM_eq_some_iff {f : α → Option β} {xs : List α} {ys : List β} :
    xs.mapM f = some ys ↔ List.Forall₂ (fun x y ↦ f x = some y) xs ys := by
  induction xs generalizing ys with
  | nil => simp [eq_comm]
  | cons x xs ih =>
    simp only [List.mapM_cons, Option.bind_eq_bind, Option.bind_eq_some_iff, Option.pure_def,
      Option.some.injEq, List.forall₂_cons_left_iff, ih]
    constructor
    · rintro ⟨y, hy, ys, hys, rfl⟩
      exact ⟨y, ys, hy, hys, rfl⟩
    · rintro ⟨y, ys, hy, hys, rfl⟩
      exact ⟨y, hy, ys, hys, rfl⟩

namespace Json.Document

inductive Field (entries : List (String × Document)) (name : String) : Option Document → Prop
  | missing (h : entries.filter (·.1 == name) = []) : Field entries name none
  | written {d : Document} (h : entries.filter (·.1 == name) = [(name, d)]) :
      Field entries name (some d)

/-- A record as a mapping from the names of its fields, or as a list of the first of them. -/
inductive Record (names : List String) : Document → List (Option Document) → Prop
  | object {entries : List (List Piece × Document)} {named : List (String × Document)}
      {fields : List (Option Document)}
      (hnamed : List.Forall₂ (fun entry entry' ↦ Json.text? entry.1 = some entry'.1 ∧
        entry.2 = entry'.2) entries named)
      (hfields : List.Forall₂ (Field named) names fields) : Record names (.object entries) fields
  | array {items : List Document} (h : items.length ≤ names.length) :
      Record names (.array items) (names.zipIdx.map fun entry ↦ items[entry.2]?)

theorem field?_eq_some_iff {entries : List (String × Document)} {name : String}
    {field : Option Document} : field? entries name = some field ↔ Field entries name field := by
  constructor
  · intro h
    unfold field? at h
    split at h
    · rename_i hnone
      obtain rfl := Option.some.inj h
      exact .missing hnone
    · rename_i key d hone
      have hmem : (key, d) ∈ entries.filter (·.1 == name) := hone ▸ List.mem_singleton_self _
      obtain rfl : key = name := beq_iff_eq.1 (List.mem_filter.1 hmem).2
      obtain rfl := Option.some.inj h
      exact .written hone
    · cases h
  · rintro (h | h) <;> rw [field?, h]

theorem fields?_eq_some_iff {names : List String} {d : Document}
    {fields : List (Option Document)} :
    d.fields? names = some fields ↔ Record names d fields := by
  cases d with
  | null | bool | number | string => exact iff_of_false nofun nofun
  | array items =>
    rw [fields?, Option.ite_none_right_eq_some, Option.some.injEq]
    constructor
    · rintro ⟨h, rfl⟩
      exact .array h
    · rintro ⟨⟩
      exact ⟨‹_›, rfl⟩
  | object entries =>
    have hnamed (entry : List Piece × Document) (entry' : String × Document) :
        (Json.text? entry.1).map (·, entry.2) = some entry' ↔
          Json.text? entry.1 = some entry'.1 ∧ entry.2 = entry'.2 := by
      rw [Option.map_eq_some_iff]
      constructor
      · rintro ⟨key, hkey, rfl⟩
        exact ⟨hkey, rfl⟩
      · rintro ⟨hkey, hd⟩
        exact ⟨_, hkey, Prod.ext rfl hd⟩
    simp only [fields?, Option.bind_eq_bind, Option.bind_eq_some_iff, mapM_eq_some_iff,
      field?_eq_some_iff, hnamed]
    constructor
    · rintro ⟨named, hentries, hfields⟩
      exact .object hentries hfields
    · rintro ⟨hentries, hfields⟩
      exact ⟨_, hentries, hfields⟩

end Json.Document

namespace Check

inductive Description : Option Document → Option String → Prop
  | missing : Description none none
  | null : Description (some .null) none
  | text {d : Document} {s : String} (h : d.text? = some s) : Description (some d) (some s)

inductive Actual : Option Document → Value → Prop
  | missing : Actual none .null
  | value {d : Document} {v : Value} (h : value? d = some v) : Actual (some d) v

/-- What a document has to be for a check to stand in it. -/
inductive Written : Document → Check → Prop
  | record {d id rule : Document} {description actual : Option Document} {check : Check}
      (h : Document.Record ["id", "description", "comparator", "actual"] d
        [some id, description, some rule, actual])
      (hid : id.text? = some check.id) (hdescription : Description description check.description)
      (hrule : value? rule = some check.rule) (hactual : Actual actual check.actual) :
      Written d check

theorem description?_eq_some_iff {d : Option Document} {description : Option String} :
    description? d = some description ↔ Description d description := by
  constructor
  · intro h
    unfold description? at h
    split at h
    · obtain rfl := Option.some.inj h
      exact .missing
    · obtain rfl := Option.some.inj h
      exact .null
    · obtain ⟨s, hs, rfl⟩ := Option.map_eq_some_iff.1 h
      exact .text hs
  · rintro (_ | _ | @⟨d, s, h⟩)
    · rfl
    · rfl
    · cases d with
      | string => exact congrArg (Option.map some) h
      | null | bool | number | array | object => cases h

theorem actual?_eq_some_iff {d : Option Document} {v : Value} :
    actual? d = some v ↔ Actual d v := by
  constructor
  · intro h
    cases d with
    | none =>
      obtain rfl := Option.some.inj h
      exact .missing
    | some d => exact .value h
  · rintro (_ | h)
    · rfl
    · exact h

theorem ofDocument?_eq_some_iff {d : Document} {check : Check} :
    ofDocument? d = some check ↔ Written d check := by
  constructor
  · intro h
    obtain ⟨fields, hfields, h⟩ := Option.bind_eq_some_iff.1 h
    split at h
    · simp only [Option.bind_eq_bind, Option.bind_eq_some_iff, Option.pure_def,
        Option.some.injEq] at h
      obtain ⟨description, hdescription, actual, hactual, id, hid, rule, hrule, rfl⟩ := h
      exact .record (Document.fields?_eq_some_iff.1 hfields) hid
        (description?_eq_some_iff.1 hdescription) hrule (actual?_eq_some_iff.1 hactual)
    · cases h
  · rintro ⟨h, hid, hdescription, hrule, hactual⟩
    simp [ofDocument?, Document.fields?_eq_some_iff.2 h, hid, hrule,
      description?_eq_some_iff.2 hdescription, actual?_eq_some_iff.2 hactual]

end Check

namespace Fixture

/-- What a text has to be for a fixture to be read from it: JSON, and a record whose only field is a
list of checks. -/
inductive Written : String → Fixture → Prop
  | record {text : String} {d : Document} {items : List Document} {fixture : Fixture}
      (htext : Document.parse? text = some d)
      (h : Document.Record ["checks"] d [some (.array items)])
      (hchecks : List.Forall₂ Check.Written items fixture.checks) : Written text fixture

theorem ofDocument?_eq_some_iff {d : Document} {fixture : Fixture} :
    ofDocument? d = some fixture ↔ ∃ items, Document.Record ["checks"] d [some (.array items)] ∧
      List.Forall₂ Check.Written items fixture.checks := by
  have hread (items : List Document) (checks : List Check) :
      items.mapM Check.ofDocument? = some checks ↔ List.Forall₂ Check.Written items checks := by
    simp only [mapM_eq_some_iff, Check.ofDocument?_eq_some_iff]
  constructor
  · intro h
    obtain ⟨fields, hfields, h⟩ := Option.bind_eq_some_iff.1 h
    split at h
    · rename_i items
      obtain ⟨checks, hchecks, hfixture⟩ := Option.bind_eq_some_iff.1 h
      obtain rfl := Option.some.inj hfixture
      exact ⟨items, Document.fields?_eq_some_iff.1 hfields, (hread items checks).1 hchecks⟩
    · cases h
  · rintro ⟨items, hfields, hchecks⟩
    simp [ofDocument?, Document.fields?_eq_some_iff.2 hfields, (hread items _).2 hchecks]

/-- A text is a fixture just if it is written as one. -/
theorem parse?_eq_some_iff {text : String} {fixture : Fixture} :
    parse? text = some fixture ↔ Written text fixture := by
  rw [parse?, Option.bind_eq_some_iff]
  simp only [ofDocument?_eq_some_iff]
  constructor
  · rintro ⟨d, htext, items, h, hchecks⟩
    exact .record htext h hchecks
  · rintro ⟨htext, h, hchecks⟩
    exact ⟨_, htext, _, h, hchecks⟩

end Fixture

end AuditRules
