import AuditRules.Fixture.Discovery
import AuditRules.Proofs.StableSort
import AuditRules.Proofs.Text.Bytes
import Mathlib.Data.List.Nodup

namespace AuditRules

theorem isFixtureName_iff {name : String} :
    isFixtureName name = true ↔ ∃ stem, stem ≠ "" ∧ name = stem ++ ".json" := by
  rw [isFixtureName, Bool.and_eq_true, List.isSuffixOf_iff_suffix, decide_eq_true_eq]
  constructor
  · rintro ⟨⟨stem, hstem⟩, hlength⟩
    have hname : name = String.ofList stem ++ ".json" := by
      rw [← String.toList_inj, String.toList_append, String.toList_ofList, hstem]
    refine ⟨String.ofList stem, ?_, hname⟩
    intro hempty
    rw [hname, hempty] at hlength
    exact absurd hlength (by decide)
  · rintro ⟨stem, hstem, rfl⟩
    refine ⟨⟨stem.toList, String.toList_append.symm⟩, ?_⟩
    have hpos : 0 < stem.length := by
      rwa [Nat.pos_iff_ne_zero, ne_eq, String.length_eq_zero_iff]
    rw [String.length_append, show ".json".length = 5 from rfl]
    omega

namespace FileTree

/-- What stands at the end of a path of names below a tree. -/
inductive At : FileTree → List String → FileTree → Prop
  | here (t : FileTree) : At t [] t
  | inside {entries : List (String × FileTree)} {name : String} {t u : FileTree}
      {names : List String} (hentry : (name, t) ∈ entries) (h : At t names u) :
      At (directory entries) (name :: names) u

structure IsFileName (name : String) : Prop where
  ne_empty : name ≠ ""
  ne_here : name ≠ "."
  ne_above : name ≠ ".."
  no_slash : '/' ∉ name.toList

inductive WellNamed : FileTree → Prop
  | file (content : Except FileFault String) : WellNamed (.file content)
  | directory {entries : List (String × FileTree)} (hdistinct : (entries.map Prod.fst).Nodup)
      (hnames : ∀ entry ∈ entries, IsFileName entry.1)
      (hbelow : ∀ entry ∈ entries, WellNamed entry.2) : WellNamed (.directory entries)

/-- Directories come before what they hold, and siblings, with all below them, in the order of the
bytes of their names. -/
inductive Precedes : List String → List String → Prop
  | parent (above : List String) (name : String) (names : List String) :
      Precedes above (above ++ name :: names)
  | sibling (above : List String) {name name' : String} (names names' : List String)
      (h : textBytes name < textBytes name') :
      Precedes (above ++ name :: names) (above ++ name' :: names')

/-- A walk through a tree: everything that stands at a path, in order. -/
structure IsWalk (t : FileTree) (walk : List (List String × FileTree)) : Prop where
  mem_iff : ∀ names u, (names, u) ∈ walk ↔ At t names u
  ordered : walk.Pairwise fun e f ↦ Precedes e.1 f.1

mutual

def walk : FileTree → List (List String × FileTree)
  | file content => [([], file content)]
  | directory entries => ([], directory entries) ::
    (insertionSort (fun a b ↦ decide (a.1 < b.1)) (entryWalks entries)).flatMap (·.2)

def entryWalks :
    List (String × FileTree) → List (String × List (List String × FileTree))
  | [] => []
  | (name, t) :: entries =>
    (name, t.walk.map fun e ↦ (name :: e.1, e.2)) :: entryWalks entries

end

def EndsAsFixture (names : List String) : Prop :=
  ∃ above stem, stem ≠ "" ∧ names = above ++ [stem ++ ".json"]

def fixture? : List String × FileTree → Option (List String × Except FileFault String)
  | (names, file content) =>
    if names.getLast?.any isFixtureName then some (names, content) else none
  | (_, directory _) => none

variable {t u v : FileTree} {names names' : List String} {name : String}
  {content : Except FileFault String} {entries : List (String × FileTree)}
  {walk : List (List String × FileTree)}

theorem at_file_iff : At (.file content) names t ↔ names = [] ∧ t = .file content := by
  constructor
  · intro h
    cases h with
    | here => exact ⟨rfl, rfl⟩
  · rintro ⟨rfl, rfl⟩
    exact .here _

theorem at_nil_iff : At t [] u ↔ u = t := by
  constructor
  · intro h
    cases h with
    | here => rfl
  · rintro rfl
    exact .here _

theorem at_cons_iff :
    At (directory entries) (name :: names) u ↔ ∃ t, (name, t) ∈ entries ∧ At t names u := by
  constructor
  · intro h
    cases h with
    | inside hentry h => exact ⟨_, hentry, h⟩
  · rintro ⟨t, hentry, h⟩
    exact .inside hentry h

theorem At.unique (hwell : t.WellNamed) (hu : At t names u) (hv : At t names v) : u = v := by
  induction hu with
  | here => exact (at_nil_iff.1 hv).symm
  | inside hentry _ ih =>
    cases hwell with
    | directory hdistinct _ hbelow =>
      obtain ⟨t', hentry', hv⟩ := at_cons_iff.1 hv
      have hsame := List.inj_on_of_nodup_map hdistinct hentry hentry' rfl
      obtain rfl := (Prod.mk.inj hsame).2
      exact ih (hbelow _ hentry) hv

theorem At.isFileName (hwell : t.WellNamed) (h : At t names u) : ∀ n ∈ names, IsFileName n := by
  induction h with
  | here => nofun
  | inside hentry _ ih =>
    cases hwell with
    | directory _ hnames hbelow =>
      exact List.forall_mem_cons.2 ⟨hnames _ hentry, ih (hbelow _ hentry)⟩

theorem Precedes.lt (h : Precedes names names') : names.map textBytes < names'.map textBytes := by
  cases h with
  | parent _ first rest =>
    have hlt := List.nil_lt_cons (textBytes first) (rest.map textBytes)
    rw [List.map_append, List.map_cons]
    simpa only [List.append_nil] using List.append_left_lt hlt
  | sibling above rest rest' h =>
    rw [List.map_append, List.map_append, List.map_cons, List.map_cons]
    exact List.append_left_lt (List.cons_lt_cons_iff.2 (.inl h))

theorem Precedes.cons (name : String) (h : Precedes names names') :
    Precedes (name :: names) (name :: names') := by
  cases h with
  | parent _ first rest => exact .parent (name :: names) first rest
  | sibling above rest rest' h => exact .sibling (name :: above) rest rest' h

/-- There is one walk at most. -/
theorem IsWalk.unique {walk' : List (List String × FileTree)} (h : IsWalk t walk)
    (h' : IsWalk t walk') : walk = walk' := by
  have hnodup {walk : List (List String × FileTree)} (h : IsWalk t walk) : walk.Nodup := by
    refine h.ordered.imp fun hbefore heq ↦ ?_
    rw [heq] at hbefore
    exact List.lt_irrefl _ hbefore.lt
  have hperm : walk.Perm walk' := by
    rw [List.perm_ext_iff_of_nodup (hnodup h) (hnodup h')]
    rintro ⟨names, u⟩
    rw [h.mem_iff, h'.mem_iff]
  apply hperm.eq_of_pairwise _ h.ordered h'.ordered
  intro e f _ _ hef hfe
  exact absurd hfe.lt (List.lt_asymm hef.lt)

theorem entryWalks_eq (entries : List (String × FileTree)) : entryWalks entries =
    entries.map fun entry ↦ (entry.1, entry.2.walk.map fun e ↦ (entry.1 :: e.1, e.2)) := by
  induction entries with
  | nil => rw [entryWalks, List.map_nil]
  | cons entry entries ih => rw [entryWalks, ih, List.map_cons]

theorem mem_walk_directory {e : List String × FileTree} :
    e ∈ (directory entries).walk ↔ e = ([], directory entries) ∨
      ∃ entry ∈ entries, e ∈ entry.2.walk.map fun e ↦ (entry.1 :: e.1, e.2) := by
  rw [FileTree.walk, List.mem_cons, List.mem_flatMap]
  simp only [(insertionSort_perm _ _).mem_iff, entryWalks_eq, List.mem_map (l := entries)]
  refine or_congr_right ⟨?_, ?_⟩
  · rintro ⟨_, ⟨entry, hentry, rfl⟩, he⟩
    exact ⟨entry, hentry, he⟩
  · rintro ⟨entry, hentry, he⟩
    exact ⟨_, ⟨entry, hentry, rfl⟩, he⟩

theorem mem_walk_iff : (names, u) ∈ t.walk ↔ At t names u := by
  induction names generalizing t with
  | nil =>
    rw [at_nil_iff]
    cases t with
    | file content => simp [FileTree.walk]
    | directory entries => simp [mem_walk_directory]
  | cons name names ih =>
    cases t with
    | file content => simp [FileTree.walk, at_file_iff]
    | directory entries =>
      rw [mem_walk_directory, at_cons_iff]
      constructor
      · rintro (h | ⟨⟨name', t⟩, hentry, he⟩)
        · cases h
        · obtain ⟨⟨rest, u'⟩, hrest, heq⟩ := List.mem_map.1 he
          cases heq
          exact ⟨t, hentry, ih.1 hrest⟩
      · rintro ⟨t, hentry, hat⟩
        exact .inr ⟨(name, t), hentry, List.mem_map.2 ⟨(names, u), ih.2 hat, rfl⟩⟩

/-- The walk goes through each directory in the order of the names. -/
theorem walk_ordered (h : t.WellNamed) : t.walk.Pairwise fun e f ↦ Precedes e.1 f.1 := by
  induction h with
  | file content =>
    rw [FileTree.walk]
    exact List.pairwise_singleton _ _
  | @directory entries hdistinct _ _ ih =>
    have hsorted : (insertionSort (fun a b ↦ decide (a.1 < b.1)) (entryWalks entries)).Pairwise
        fun a b ↦ a.1 < b.1 := by
      apply List.pairwise_map.1 (insertionSort_increasing _ _)
      rwa [entryWalks_eq, List.map_map]
    have hentry : ∀ found ∈ insertionSort (fun a b ↦ decide (a.1 < b.1)) (entryWalks entries),
        ∃ t, (found.1, t) ∈ entries ∧ found.2 = t.walk.map fun e ↦ (found.1 :: e.1, e.2) := by
      intro found hfound
      rw [(insertionSort_perm _ _).mem_iff, entryWalks_eq, List.mem_map] at hfound
      obtain ⟨⟨name, t⟩, hmem, rfl⟩ := hfound
      exact ⟨t, hmem, rfl⟩
    rw [FileTree.walk, List.pairwise_cons, List.pairwise_flatMap]
    refine ⟨?_, ?_, ?_⟩
    · intro e he
      obtain ⟨found, hfound, he⟩ := List.mem_flatMap.1 he
      obtain ⟨t, -, heq⟩ := hentry found hfound
      rw [heq] at he
      obtain ⟨below, -, rfl⟩ := List.mem_map.1 he
      exact .parent [] found.1 below.1
    · intro found hfound
      obtain ⟨t, hmem, heq⟩ := hentry found hfound
      rw [heq, List.pairwise_map]
      exact (ih _ hmem).imp (.cons found.1)
    · apply hsorted.imp_of_mem
      intro a b ha hb hlt e he f hf
      obtain ⟨t, -, heq⟩ := hentry a ha
      obtain ⟨u, -, heq'⟩ := hentry b hb
      rw [heq] at he
      rw [heq'] at hf
      obtain ⟨below, -, rfl⟩ := List.mem_map.1 he
      obtain ⟨below', -, rfl⟩ := List.mem_map.1 hf
      exact .sibling [] below.1 below'.1 (textBytes_lt hlt)

theorem isWalk_walk (h : t.WellNamed) : IsWalk t t.walk where
  mem_iff _ _ := mem_walk_iff
  ordered := walk_ordered h

theorem fixture?_cons {e : List String × FileTree} (h : e.1 = [] → ∃ below, e.2 = directory below) :
    fixture? (name :: e.1, e.2) = (fixture? e).map fun found ↦ (name :: found.1, found.2) := by
  obtain ⟨names, u⟩ := e
  cases u with
  | directory below => rfl
  | file content =>
    cases names with
    | nil =>
      obtain ⟨below, hbelow⟩ := h rfl
      cases hbelow
    | cons first rest =>
      rw [fixture?, fixture?, List.getLast?_cons_cons]
      split
      · rfl
      · rfl

theorem filterMap_walk_below (name : String) (below : List (String × FileTree)) :
    ((directory below).walk.map fun e ↦ (name :: e.1, e.2)).filterMap fixture? =
      ((directory below).walk.filterMap fixture?).map fun found ↦ (name :: found.1, found.2) := by
  rw [List.filterMap_map, List.map_filterMap]
  apply List.filterMap_congr
  rintro ⟨names, u⟩ he
  apply fixture?_cons
  rintro rfl
  exact ⟨below, at_nil_iff.1 (mem_walk_iff.1 he)⟩

theorem entryFixtures_eq
    (h : ∀ entry ∈ entries, entry.2.fixtures = entry.2.walk.filterMap fixture?) :
    entryFixtures entries =
      (entryWalks entries).map fun found ↦ (found.1, found.2.filterMap fixture?) := by
  induction entries with
  | nil => rw [entryFixtures, entryWalks, List.map_nil]
  | cons entry entries ih =>
    obtain ⟨name, t⟩ := entry
    obtain ⟨hentry, hrest⟩ := List.forall_mem_cons.1 h
    rw [entryWalks, List.map_cons, ← ih hrest]
    cases t with
    | file content =>
      rw [entryFixtures, FileTree.walk]
      by_cases hname : isFixtureName name = true <;> simp [fixture?, hname]
    | directory below =>
      rw [entryFixtures, filterMap_walk_below, hentry]

/-- The fixtures below a directory are what is kept of the walk. -/
theorem fixtures_eq (h : t.WellNamed) : t.fixtures = t.walk.filterMap fixture? := by
  induction h with
  | file content =>
    rw [fixtures, FileTree.walk]
    rfl
  | @directory entries _ _ _ ih =>
    rw [fixtures, FileTree.walk, entryFixtures_eq ih, insertionSort_map (fun _ _ ↦ rfl),
      List.flatMap_map, List.filterMap_cons, List.filterMap_flatMap]
    rfl

theorem endsAsFixture_iff : EndsAsFixture names ↔ names.getLast?.any isFixtureName = true := by
  simp only [Option.any_eq_true, isFixtureName_iff, List.getLast?_eq_some_iff]
  constructor
  · rintro ⟨above, stem, hstem, rfl⟩
    exact ⟨_, ⟨above, rfl⟩, stem, hstem, rfl⟩
  · rintro ⟨last, ⟨above, rfl⟩, stem, hstem, rfl⟩
    exact ⟨above, stem, hstem, rfl⟩

theorem fixture?_eq_some_iff {e : List String × FileTree} :
    fixture? e = some (names, content) ↔ e = (names, file content) ∧ EndsAsFixture names := by
  rw [endsAsFixture_iff]
  constructor
  · intro h
    obtain ⟨names', u⟩ := e
    cases u with
    | directory below => cases h
    | file content' =>
      obtain ⟨hlast, heq⟩ := Option.ite_none_right_eq_some.1 h
      cases heq
      exact ⟨rfl, hlast⟩
  · rintro ⟨rfl, hlast⟩
    exact if_pos hlast

theorem mem_fixtures_iff (h : t.WellNamed) :
    (names, content) ∈ t.fixtures ↔ At t names (.file content) ∧ EndsAsFixture names := by
  rw [fixtures_eq h, List.mem_filterMap]
  constructor
  · rintro ⟨e, he, hkept⟩
    obtain ⟨rfl, hends⟩ := fixture?_eq_some_iff.1 hkept
    exact ⟨mem_walk_iff.1 he, hends⟩
  · rintro ⟨hat, hends⟩
    exact ⟨_, mem_walk_iff.2 hat, fixture?_eq_some_iff.2 ⟨rfl, hends⟩⟩

theorem fixtures_increasing (h : t.WellNamed) :
    t.fixtures.Pairwise fun f g ↦ f.1.map textBytes < g.1.map textBytes := by
  rw [fixtures_eq h, List.pairwise_filterMap]
  apply (walk_ordered h).imp
  intro e f hef found hfound found' hfound'
  obtain ⟨rfl, -⟩ := fixture?_eq_some_iff.1 hfound
  obtain ⟨rfl, -⟩ := fixture?_eq_some_iff.1 hfound'
  exact hef.lt

end FileTree

end AuditRules
