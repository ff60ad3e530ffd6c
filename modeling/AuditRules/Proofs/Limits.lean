import AuditRules.Proofs.Audit
import AuditRules.Proofs.Text.Blank
import AuditRules.Proofs.Text.Digits

namespace AuditRules

def Spaced (cs : List Char) (n : Nat) : Prop :=
  ∃ before core after, Blank before ∧ Unsigned core n ∧ Blank after ∧ cs = before ++ core ++ after

theorem Unsigned.not_blank {cs : List Char} {n : Nat} (h : Unsigned cs n) :
    ∀ c ∈ cs, isBlank c = false := by
  cases h with
  | @intro plus digits hplus hne hdigits hrange =>
    intro c hc
    rcases List.mem_append.1 hc with hc | hc
    · rcases hplus with rfl | rfl
      · cases hc
      · obtain rfl := List.mem_singleton.1 hc
        rfl
    · exact not_blank_of_isAlphanum (Bool.or_eq_true_iff.2 (.inr (hdigits c hc)))

theorem readNat64?_trimBlank_iff {cs : List Char} {n : Nat} :
    readNat64? (trimBlank cs) = some n ↔ Spaced cs n := by
  rw [readNat64?_eq_some_iff]
  constructor
  · intro h
    obtain ⟨before, after, hbefore, hafter, hcs⟩ := exists_trimBlank cs
    exact ⟨before, trimBlank cs, after, hbefore, h, hafter, hcs⟩
  · rintro ⟨before, core, after, hbefore, hcore, hafter, rfl⟩
    rwa [trimBlank_append hbefore (trimmed_of_not_blank hcore.not_blank) hafter]

namespace Limits

/-- One of the limits: its names in documents and in environments, what it is where neither sets
it, and what it is at least. -/
structure Field where
  key : String
  envKey : String
  default : Nat
  minimum : Nat

def nestingField : Field := ⟨"max_nesting_depth", "AUDIT_MAX_NESTING_DEPTH", 32, 1⟩

def renderingField : Field :=
  ⟨"max_rendered_value_length", "AUDIT_MAX_RENDERED_VALUE_LENGTH", 2048, 16⟩

def Names (document : Option String) (key : String) (n : Nat) : Prop :=
  ∃ text entries, document = some text ∧ Toml.parse? text = some entries ∧
    entries.lookup key = some (.integer n)

def Legible (document : Option String) : Prop :=
  ∀ text, document = some text → ∃ entries, Toml.parse? text = some entries ∧
    ∀ field ∈ [nestingField, renderingField], entries.lookup field.key = none ∨
      ∃ n : Nat, entries.lookup field.key = some (.integer n)

def Field.SetBy (field : Field) (environment : String → Option String) (n : Nat) : Prop :=
  ∃ text, environment field.envKey = some text ∧ Spaced text.toList n ∧ field.minimum ≤ n

/-- What a limit is, and why: the document names it, or the environment sets it, or neither. -/
inductive Field.Source (field : Field) (document : Option String)
    (environment : String → Option String) : Nat → Prop
  | document {n : Nat} (h : Names document field.key n) : Source field document environment n
  | environment {n : Nat} (hdocument : ∀ m, ¬ Names document field.key m)
      (h : field.SetBy environment n) : Source field document environment n
  | default (hdocument : ∀ m, ¬ Names document field.key m)
      (henvironment : ∀ m, ¬ field.SetBy environment m) :
      Source field document environment field.default

def Field.TooSmall (field : Field) (document : Option String) : Prop :=
  ∃ n, Names document field.key n ∧ n < field.minimum

/-- How a document and an environment make limits, or fail to. -/
structure Settled (document : Option String) (environment : String → Option String)
    (x : Except LimitsError Limits) : Prop where
  ok : ∀ l, x = .ok l ↔ Legible document ∧
    nestingField.Source document environment l.nesting ∧ 1 ≤ l.nesting ∧
    renderingField.Source document environment l.rendering ∧ 16 ≤ l.rendering
  tooSmall : ∀ key minimum, x = .error (.tooSmall key minimum) ↔ Legible document ∧
    ((key = "max_nesting_depth" ∧ minimum = 1 ∧ nestingField.TooSmall document) ∨
      (key = "max_rendered_value_length" ∧ minimum = 16 ∧ ¬ nestingField.TooSmall document ∧
        renderingField.TooSmall document))
  malformed : x = .error .malformed ↔ ¬ Legible document
  readable : ∀ path fault, x ≠ .error (.unreadable path fault)

def ofSources (environment : String → Option String) (document : Option String) :
    Except LimitsError Limits :=
  document.elim (.ok (ofEnvironment environment).1) (ofEnvironment environment).1.parse

def Field.fromEnvironment (field : Field) (environment : String → Option String) : Nat :=
  (override field.envKey (environment field.envKey) field.default field.minimum).1

theorem ofEnvironment_eq (environment : String → Option String) : (ofEnvironment environment).1 =
    ⟨nestingField.fromEnvironment environment, renderingField.fromEnvironment environment⟩ := rfl

theorem Field.fromEnvironment_cases (field : Field) (environment : String → Option String) :
    field.SetBy environment (field.fromEnvironment environment) ∨
      (field.fromEnvironment environment = field.default ∧ ∀ n, ¬ field.SetBy environment n) := by
  unfold fromEnvironment override
  cases hraw : environment field.envKey with
  | none =>
    refine .inr ⟨rfl, ?_⟩
    rintro n ⟨text, htext, -⟩
    cases hraw.symm.trans htext
  | some raw =>
    have hset : ∀ n, field.SetBy environment n ↔
        (readNat64? (trimBlank raw.toList)).filter (field.minimum ≤ ·) = some n := by
      intro n
      rw [Option.filter_eq_some_iff, readNat64?_trimBlank_iff, decide_eq_true_eq]
      constructor
      · rintro ⟨text, htext, h⟩
        obtain rfl := Option.some.inj (hraw.symm.trans htext)
        exact h
      · exact fun h ↦ ⟨raw, hraw, h⟩
    dsimp only
    cases hread : (readNat64? (trimBlank raw.toList)).filter (field.minimum ≤ ·) with
    | some n => exact .inl ((hset n).2 hread)
    | none =>
      refine .inr ⟨rfl, fun n hn ↦ ?_⟩
      cases hread.symm.trans ((hset n).1 hn)

theorem Field.SetBy.unique {field : Field} {environment : String → Option String} {m n : Nat}
    (hm : field.SetBy environment m) (hn : field.SetBy environment n) : m = n := by
  obtain ⟨text, htext, hm, -⟩ := hm
  obtain ⟨text', htext', hn, -⟩ := hn
  obtain rfl := Option.some.inj (htext.symm.trans htext')
  exact Option.some.inj
    ((readNat64?_trimBlank_iff.2 hm).symm.trans (readNat64?_trimBlank_iff.2 hn))

theorem Field.minimum_le_fromEnvironment (field : Field) (h : field.minimum ≤ field.default)
    (environment : String → Option String) :
    field.minimum ≤ field.fromEnvironment environment := by
  rcases field.fromEnvironment_cases environment with ⟨_, _, _, hle⟩ | ⟨heq, -⟩
  · exact hle
  · rwa [heq]

theorem Field.source_iff {field : Field} {document : Option String}
    {environment : String → Option String} {o : Option Nat}
    (hnames : ∀ n, Names document field.key n ↔ o = some n) {n : Nat} :
    field.Source document environment n ↔ n = o.getD (field.fromEnvironment environment) := by
  constructor
  · intro h
    cases h with
    | document h => rw [(hnames n).1 h, Option.getD_some]
    | environment hdocument h =>
      obtain rfl := Option.eq_none_iff_forall_ne_some.2 fun m hm ↦ hdocument m ((hnames m).2 hm)
      rcases field.fromEnvironment_cases environment with hset | ⟨-, hnone⟩
      · exact h.unique hset
      · exact absurd h (hnone n)
    | default hdocument henvironment =>
      obtain rfl := Option.eq_none_iff_forall_ne_some.2 fun m hm ↦ hdocument m ((hnames m).2 hm)
      rcases field.fromEnvironment_cases environment with hset | ⟨hdefault, -⟩
      · exact absurd hset (henvironment _)
      · exact hdefault.symm
  · rintro rfl
    cases o with
    | some m => exact .document ((hnames m).2 rfl)
    | none =>
      have hdocument : ∀ m, ¬ Names document field.key m := by
        intro m hm
        cases (hnames m).1 hm
      rw [Option.getD_none]
      rcases field.fromEnvironment_cases environment with hset | ⟨hdefault, hnone⟩
      · exact .environment hdocument hset
      · rw [hdefault]
        exact .default hdocument hnone

theorem Field.tooSmall_iff {field : Field} {document : Option String}
    {environment : String → Option String} {o : Option Nat}
    (hnames : ∀ n, Names document field.key n ↔ o = some n)
    (hdefault : field.minimum ≤ field.default) :
    field.TooSmall document ↔ o.getD (field.fromEnvironment environment) < field.minimum := by
  simp only [TooSmall, hnames]
  cases o with
  | some n => simp
  | none =>
    have hle := field.minimum_le_fromEnvironment hdefault environment
    simpa using hle

namespace Overrides

inductive Written (entries : Toml.Entries) (key : String) : Option Nat → Prop
  | absent (h : entries.lookup key = none) : Written entries key none
  | named {n : Nat} (h : entries.lookup key = some (.integer n)) : Written entries key (some n)

theorem Written.named_iff {entries : Toml.Entries} {key : String} {o : Option Nat}
    (h : Written entries key o) (n : Nat) :
    entries.lookup key = some (.integer n) ↔ o = some n := by
  cases h with
  | absent h => simp [h]
  | named h =>
    rw [h, Option.some.injEq, Toml.Item.integer.injEq, Int.natCast_inj, Option.some.injEq]

theorem exists_written {entries : Toml.Entries} {key : String} :
    (∃ o, Written entries key o) ↔ entries.lookup key = none ∨
      ∃ n : Nat, entries.lookup key = some (.integer n) := by
  constructor
  · rintro ⟨o, h | h⟩
    · exact .inl h
    · exact .inr ⟨_, h⟩
  · rintro (h | ⟨n, h⟩)
    · exact ⟨none, .absent h⟩
    · exact ⟨some n, .named h⟩

theorem read?_eq_some_iff {entries : Toml.Entries} {key : String} {o : Option Nat} :
    read? entries key = some o ↔ Written entries key o := by
  constructor
  · intro h
    unfold read? at h
    split at h
    · rename_i hlookup
      obtain rfl := Option.some.inj h
      exact .absent hlookup
    · rename_i n hlookup
      split at h
      · rename_i hn
        obtain rfl := Option.some.inj h
        exact .named (by rw [hlookup, Int.toNat_of_nonneg hn])
      · cases h
    · cases h
  · rintro (h | h)
    · rw [read?, h]
    · rw [read?, h]
      exact if_pos (Int.natCast_nonneg _)

theorem parse?_eq_some_iff {text : String} {o : Overrides} :
    parse? text = some o ↔ ∃ entries, Toml.parse? text = some entries ∧
      Written entries nestingKey o.nesting ∧ Written entries renderingKey o.rendering := by
  simp only [← read?_eq_some_iff, parse?, bind, Option.bind_eq_some_iff, pure, Option.some.injEq]
  constructor
  · rintro ⟨entries, hentries, n, hn, r, hr, rfl⟩
    exact ⟨entries, hentries, hn, hr⟩
  · rintro ⟨entries, hentries, hn, hr⟩
    exact ⟨entries, hentries, _, hn, _, hr, rfl⟩

end Overrides

inductive Reads : Option String → Overrides → Prop
  | absent : Reads none ⟨none, none⟩
  | document {text : String} {o : Overrides} (h : Overrides.parse? text = some o) :
      Reads (some text) o

theorem exists_reads (document : Option String) : (∃ o, Reads document o) ↔ Legible document := by
  cases document with
  | none => exact iff_of_true ⟨_, .absent⟩ (by simp [Legible])
  | some text =>
    have hreads : (∃ o, Reads (some text) o) ↔ ∃ o, Overrides.parse? text = some o := by
      constructor
      · rintro ⟨o, h⟩
        cases h with
        | document h => exact ⟨o, h⟩
      · rintro ⟨o, h⟩
        exact ⟨o, .document h⟩
    rw [hreads]
    simp only [Legible, Option.some.injEq, forall_eq', ← Overrides.exists_written,
      Overrides.parse?_eq_some_iff, List.forall_mem_cons]
    constructor
    · rintro ⟨o, entries, hentries, hnesting, hrendering⟩
      exact ⟨entries, hentries, ⟨_, hnesting⟩, ⟨_, hrendering⟩, by simp⟩
    · rintro ⟨entries, hentries, ⟨n, hnesting⟩, ⟨r, hrendering⟩, -⟩
      exact ⟨⟨n, r⟩, entries, hentries, hnesting, hrendering⟩

theorem Reads.names {document : Option String} {o : Overrides} (h : Reads document o) :
    (∀ n, Names document nestingField.key n ↔ o.nesting = some n) ∧
      ∀ n, Names document renderingField.key n ↔ o.rendering = some n := by
  cases h with
  | absent => simp [Names]
  | @document text o h =>
    obtain ⟨entries, hentries, hnesting, hrendering⟩ := Overrides.parse?_eq_some_iff.1 h
    have hnames : ∀ key n, Names (some text) key n ↔
        entries.lookup key = some (.integer n) := by
      intro key n
      simp [Names, hentries]
    exact ⟨fun n ↦ (hnames _ n).trans (hnesting.named_iff n),
      fun n ↦ (hnames _ n).trans (hrendering.named_iff n)⟩

theorem validate_cases (l : Limits) :
    (1 ≤ l.nesting ∧ 16 ≤ l.rendering ∧ l.validate = .ok l) ∨
    (l.nesting < 1 ∧ l.validate = .error (.tooSmall "max_nesting_depth" 1)) ∨
    (1 ≤ l.nesting ∧ l.rendering < 16 ∧
      l.validate = .error (.tooSmall "max_rendered_value_length" 16)) := by
  unfold validate tooSmall?
  by_cases hnesting : l.nesting < minimum.nesting
  · rw [if_pos hnesting]
    exact .inr (.inl ⟨hnesting, rfl⟩)
  · rw [if_neg hnesting]
    by_cases hrendering : l.rendering < minimum.rendering
    · rw [if_pos hrendering]
      exact .inr (.inr ⟨Nat.le_of_not_lt hnesting, hrendering, rfl⟩)
    · rw [if_neg hrendering]
      exact .inl ⟨Nat.le_of_not_lt hnesting, Nat.le_of_not_lt hrendering, rfl⟩

theorem validate_ok_iff {l l' : Limits} :
    l.validate = .ok l' ↔ l' = l ∧ 1 ≤ l.nesting ∧ 16 ≤ l.rendering := by
  rcases validate_cases l with ⟨hnesting, hrendering, h⟩ | ⟨hsmall, h⟩ | ⟨hnesting, hsmall, h⟩
  · simp [h, hnesting, hrendering, eq_comm]
  · simp [h, Nat.not_le.2 hsmall]
  · simp [h, Nat.not_le.2 hsmall]

theorem validate_error_iff {l : Limits} {e : LimitsError} : l.validate = .error e ↔
    (l.nesting < 1 ∧ e = .tooSmall "max_nesting_depth" 1) ∨
      (1 ≤ l.nesting ∧ l.rendering < 16 ∧ e = .tooSmall "max_rendered_value_length" 16) := by
  rcases validate_cases l with ⟨hnesting, hrendering, h⟩ | ⟨hsmall, h⟩ | ⟨hnesting, hsmall, h⟩
  · simp [h, Nat.not_lt.2 hnesting, Nat.not_lt.2 hrendering]
  · simp [h, hsmall, Nat.not_le.2 hsmall, eq_comm]
  · simp [h, hnesting, hsmall, Nat.not_lt.2 hnesting, eq_comm]

theorem Reads.ofSources_eq {document : Option String} {o : Overrides} (h : Reads document o)
    (environment : String → Option String) : ofSources environment document =
      ((ofEnvironment environment).1.overriddenBy o).validate := by
  cases h with
  | absent =>
    -- What the environment makes of the limits is never too small.
    have hnesting : 1 ≤ (ofEnvironment environment).1.nesting :=
      nestingField.minimum_le_fromEnvironment (by decide) environment
    have hrendering : 16 ≤ (ofEnvironment environment).1.rendering :=
      renderingField.minimum_le_fromEnvironment (by decide) environment
    change .ok (ofEnvironment environment).1 = (ofEnvironment environment).1.validate
    rcases validate_cases (ofEnvironment environment).1 with
      ⟨-, -, hvalid⟩ | ⟨hsmall, -⟩ | ⟨-, hsmall, -⟩
    · exact hvalid.symm
    · exact absurd hsmall (Nat.not_lt.2 hnesting)
    · exact absurd hsmall (Nat.not_lt.2 hrendering)
  | document h => rw [ofSources, Option.elim_some, Limits.parse, h]

theorem Reads.settled {document : Option String} {o : Overrides} (h : Reads document o)
    (environment : String → Option String) :
    Settled document environment (ofSources environment document) := by
  have hlegible : Legible document := (exists_reads document).1 ⟨o, h⟩
  obtain ⟨hnesting, hrendering⟩ := h.names
  rw [h.ofSources_eq]
  obtain ⟨l, hl⟩ : ∃ l, l = (ofEnvironment environment).1.overriddenBy o := ⟨_, rfl⟩
  have hsources (l' : Limits) : nestingField.Source document environment l'.nesting ∧
      renderingField.Source document environment l'.rendering ↔ l' = l := by
    rw [Field.source_iff hnesting, Field.source_iff hrendering, hl, ofEnvironment_eq,
      overriddenBy, Limits.mk.injEq]
  have hsmallNesting : nestingField.TooSmall document ↔ l.nesting < 1 := by
    rw [hl]
    exact Field.tooSmall_iff hnesting (by decide)
  have hsmallRendering : renderingField.TooSmall document ↔ l.rendering < 16 := by
    rw [hl]
    exact Field.tooSmall_iff hrendering (by decide)
  rw [← hl]
  refine ⟨fun l' ↦ ?_, fun key minimum ↦ ?_, ?_, fun path fault ↦ ?_⟩
  · rw [validate_ok_iff]
    constructor
    · rintro ⟨rfl, hn, hr⟩
      obtain ⟨hsn, hsr⟩ := (hsources l').2 rfl
      exact ⟨hlegible, hsn, hn, hsr, hr⟩
    · rintro ⟨-, hsn, hn, hsr, hr⟩
      obtain rfl := (hsources l').1 ⟨hsn, hsr⟩
      exact ⟨rfl, hn, hr⟩
  · rw [validate_error_iff, hsmallNesting, hsmallRendering, Nat.not_lt, LimitsError.tooSmall.injEq,
      LimitsError.tooSmall.injEq]
    constructor
    · rintro (⟨hn, rfl, rfl⟩ | ⟨hn, hr, rfl, rfl⟩)
      · exact ⟨hlegible, .inl ⟨rfl, rfl, hn⟩⟩
      · exact ⟨hlegible, .inr ⟨rfl, rfl, hn, hr⟩⟩
    · rintro ⟨-, ⟨rfl, rfl, hn⟩ | ⟨rfl, rfl, hn, hr⟩⟩
      · exact .inl ⟨hn, rfl, rfl⟩
      · exact .inr ⟨hn, hr, rfl, rfl⟩
  · rw [validate_error_iff]
    simp [hlegible]
  · rw [ne_eq, validate_error_iff]
    simp

theorem settled_ofSources (environment : String → Option String) (document : Option String) :
    Settled document environment (ofSources environment document) := by
  by_cases hlegible : Legible document
  · obtain ⟨o, h⟩ := (exists_reads document).2 hlegible
    exact h.settled environment
  · have hmalformed : ofSources environment document = .error .malformed := by
      cases document with
      | none => exact absurd ((exists_reads none).1 ⟨_, .absent⟩) hlegible
      | some text =>
        have hparse : Overrides.parse? text = none :=
          Option.eq_none_iff_forall_ne_some.2 fun o ho ↦
            hlegible ((exists_reads (some text)).1 ⟨o, .document ho⟩)
        rw [ofSources, Option.elim_some, Limits.parse, hparse]
    rw [hmalformed]
    exact ⟨fun l ↦ by simp [hlegible], fun key minimum ↦ by simp [hlegible],
      iff_of_true rfl hlegible, fun path fault ↦ by simp⟩

end Limits

namespace CommandLine

def Options.document (o : Options) (find : String → Except FileFault FileTree) :
    Except LimitsError (Option String) :=
  match o.config with
  | none => .ok none
  | some path =>
    match find path >>= FileTree.text with
    | .ok text => .ok (some text)
    | .error fault => .error (.unreadable path fault)

theorem Options.limits_eq (o : Options) (environment : String → Option String)
    (find : String → Except FileFault FileTree) :
    o.limits environment find = o.document find >>= Limits.ofSources environment := by
  unfold limits document
  cases o.config with
  | none => rfl
  | some path =>
    simp only [Option.elim_some, Limits.load]
    cases find path >>= FileTree.text <;> rfl

/-- Every run is made with the limits that its document and its environment make up, or it is
refused because these are an error. -/
theorem respond_settled (engine : PatternEngine) (environment : String → Option String) :
    (∀ document, Limits.Settled document environment (Limits.ofSources environment document)) ∧
    ∀ (o : Options) (find : String → Except FileFault FileTree) (time : Timestamp),
      (∃ e, o.document find >>= Limits.ofSources environment = .error e ∧
        respond engine o environment find time = .failure) ∨
      ∃ limits, o.document find >>= Limits.ofSources environment = .ok limits ∧
        respond engine o environment find time =
          o.answer (.builtins engine limits) (find o.path) time := by
  refine ⟨Limits.settled_ofSources environment, fun o find time ↦ ?_⟩
  rw [← o.limits_eq]
  cases hlimits : o.limits environment find with
  | error e => exact .inl ⟨e, rfl, respond_error hlimits time⟩
  | ok limits => exact .inr ⟨limits, rfl, respond_ok hlimits time⟩

end CommandLine

end AuditRules
