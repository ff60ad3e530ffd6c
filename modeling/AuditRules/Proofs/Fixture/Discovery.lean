import AuditRules.Proofs.FileTree

namespace AuditRules

/-- The components of a path. Empty names and those for the directory itself lead nowhere. -/
def components (path : String) : List String :=
  ((path.toList.splitOn '/').map String.ofList).filter fun name ↦ decide (name ≠ "" ∧ name ≠ ".")

def pathBytes (path : String) : List (List UInt8) := (components path).map textBytes

open FileTree (At EndsAsFixture IsFileName IsWalk WellNamed)

variable {path name : String} {names : List String}

theorem splitOn_name (h : IsFileName name) : name.toList.splitOn '/' = [name.toList] :=
  List.splitOn_eq_singleton h.no_slash

theorem components_joinPath (path : String) (h : IsFileName name) :
    components (joinPath path name) = components path ++ [name] := by
  have hname : [name].filter (fun name ↦ decide (name ≠ "" ∧ name ≠ ".")) = [name] := by
    simp [h.ne_empty, h.ne_here]
  unfold joinPath
  split
  · -- The slash at the end of the path ends an empty name there.
    rename_i hslash
    rw [String.endsWith, String.Slice.endsWith_string_iff, String.copy_toSlice] at hslash
    obtain ⟨before, hbefore⟩ := hslash
    have hpath : path.toList.splitOn '/' = before.splitOn '/' ++ [[]] := by
      rw [← hbefore]
      exact List.splitOn_append_cons_self before []
    have hjoined : (path ++ name).toList.splitOn '/' = before.splitOn '/' ++ [name.toList] := by
      rw [String.toList_append, ← hbefore, List.append_assoc, ← splitOn_name h]
      exact List.splitOn_append_cons_self before name.toList
    simp only [components, hpath, hjoined, List.map_append, List.map_cons, List.map_nil,
      List.filter_append, String.ofList_toList, hname]
    simp
  · have hjoined : (path ++ "/" ++ name).toList.splitOn '/' =
        path.toList.splitOn '/' ++ [name.toList] := by
      rw [String.toList_append, String.toList_append, List.append_assoc, ← splitOn_name h]
      exact List.splitOn_append_cons_self path.toList name.toList
    rw [components, hjoined, List.map_append, List.filter_append, List.map_singleton,
      String.ofList_toList, hname]
    rfl

theorem components_foldl (path : String) (h : ∀ name ∈ names, IsFileName name) :
    components (names.foldl joinPath path) = components path ++ names := by
  induction names generalizing path with
  | nil => rw [List.foldl_nil, List.append_nil]
  | cons name names ih =>
    obtain ⟨hname, hnames⟩ := List.forall_mem_cons.1 h
    rw [List.foldl_cons, ih _ hnames, components_joinPath path hname, List.append_assoc]
    rfl

theorem foldl_joinPath_inj {names' : List String} (h : ∀ name ∈ names, IsFileName name)
    (h' : ∀ name ∈ names', IsFileName name)
    (heq : names.foldl joinPath path = names'.foldl joinPath path) : names = names' := by
  have hcomponents := congrArg components heq
  rw [components_foldl path h, components_foldl path h'] at hcomponents
  exact List.append_cancel_left hcomponents

theorem pathBytes_foldl_lt {names' : List String} (path : String)
    (h : ∀ name ∈ names, IsFileName name) (h' : ∀ name ∈ names', IsFileName name)
    (hlt : names.map textBytes < names'.map textBytes) :
    pathBytes (names.foldl joinPath path) < pathBytes (names'.foldl joinPath path) := by
  rw [pathBytes, pathBytes, components_foldl path h, components_foldl path h', List.map_append,
    List.map_append]
  exact List.append_left_lt hlt

def fixturePaths (path : String) (t : FileTree) : List (String × Except FileFault String) :=
  t.fixtures.map fun found ↦ (found.1.foldl joinPath path, found.2)

variable {t : FileTree}

theorem isFileName_of_mem_fixtures (h : t.WellNamed)
    {found : List String × Except FileFault String} (hfound : found ∈ t.fixtures) :
    ∀ name ∈ found.1, IsFileName name :=
  ((FileTree.mem_fixtures_iff h).1 hfound).1.isFileName h

theorem mem_fixturePaths_iff (h : t.WellNamed) {p : String} {content : Except FileFault String} :
    (p, content) ∈ fixturePaths path t ↔ ∃ names, p = names.foldl joinPath path ∧
      components p = components path ++ names ∧ At t names (.file content) ∧
      EndsAsFixture names := by
  rw [fixturePaths, List.mem_map]
  constructor
  · rintro ⟨⟨names, content'⟩, hfound, heq⟩
    obtain ⟨rfl, rfl⟩ := Prod.mk.inj heq
    have hnames := isFileName_of_mem_fixtures h hfound
    exact ⟨names, rfl, components_foldl path hnames, (FileTree.mem_fixtures_iff h).1 hfound⟩
  · rintro ⟨names, rfl, -, hfound⟩
    exact ⟨(names, content), (FileTree.mem_fixtures_iff h).2 hfound, rfl⟩

theorem fixturePaths_increasing (path : String) (h : t.WellNamed) :
    (fixturePaths path t).Pairwise fun f g ↦ pathBytes f.1 < pathBytes g.1 := by
  rw [fixturePaths, List.pairwise_map]
  apply (FileTree.fixtures_increasing h).imp_of_mem
  intro f g hf hg hlt
  exact pathBytes_foldl_lt path (isFileName_of_mem_fixtures h hf)
    (isFileName_of_mem_fixtures h hg) hlt

/-- Discovery on a directory gives just the fixtures below it, and no directory, each once and in
the order of the paths: what is kept of any walk through it. -/
theorem discover_directory (path : String) {entries : List (String × FileTree)}
    (h : (FileTree.directory entries).WellNamed) : ∃ found,
      discover path (.ok (.directory entries)) = .ok found ∧
      (∀ walk, IsWalk (.directory entries) walk → found =
        (walk.filterMap FileTree.fixture?).map fun f ↦ (f.1.foldl joinPath path, f.2)) ∧
      (∀ p content, (p, content) ∈ found ↔ ∃ names, p = names.foldl joinPath path ∧
        components p = components path ++ names ∧
        At (.directory entries) names (.file content) ∧ EndsAsFixture names) ∧
      (∀ names below, At (.directory entries) names (.directory below) →
        names.foldl joinPath path ∉ found.map Prod.fst) ∧
      (found.map Prod.fst).Nodup ∧
      found.Pairwise fun f g ↦ pathBytes f.1 < pathBytes g.1 := by
  have hsorted := fixturePaths_increasing path h
  refine ⟨_, rfl, ?_, fun p content ↦ mem_fixturePaths_iff h, ?_, ?_, hsorted⟩
  · intro walk hwalk
    rw [hwalk.unique (FileTree.isWalk_walk h), ← FileTree.fixtures_eq h]
  · intro names below hbelow hfound
    obtain ⟨⟨p, content⟩, hmem, rfl⟩ := List.mem_map.1 hfound
    obtain ⟨names', heq, -, hfile, -⟩ := (mem_fixturePaths_iff h).1 hmem
    obtain rfl := foldl_joinPath_inj (hbelow.isFileName h) (hfile.isFileName h) heq
    cases hbelow.unique h hfile
  · rw [List.Nodup, List.pairwise_map]
    refine hsorted.imp fun hlt heq ↦ ?_
    rw [heq] at hlt
    exact List.lt_irrefl _ hlt

/-- A directory, a file whose name goes on after that of the directory, a directory that is named
as a fixture, and files that are none. -/
def checksTree : FileTree :=
  .directory [("ssh.json", .file (.ok "[]")), (".json", .file (.ok "")),
    ("ssh", .directory [("users.json", .file (.ok "{}")), ("notes.txt", .file (.ok ""))]),
    ("disk.json", .directory [("tmp.json", .file (.error .denied))])]

theorem wellNamed_checksTree : checksTree.WellNamed := by
  have hname {name : String} (h : name ≠ "" ∧ name ≠ "." ∧ name ≠ ".." ∧ '/' ∉ name.toList) :
      IsFileName name := ⟨h.1, h.2.1, h.2.2.1, h.2.2.2⟩
  apply WellNamed.directory (by decide +kernel)
  · simp only [List.forall_mem_cons]
    exact ⟨hname (by simp), hname (by simp), hname (by simp), hname (by simp), nofun⟩
  · simp only [List.forall_mem_cons]
    refine ⟨.file _, .file _, ?_, ?_, nofun⟩
    · apply WellNamed.directory (by decide +kernel)
      · simp only [List.forall_mem_cons]
        exact ⟨hname (by simp), hname (by simp), nofun⟩
      · simp only [List.forall_mem_cons]
        exact ⟨.file _, .file _, nofun⟩
    · apply WellNamed.directory (by decide +kernel)
      · simp only [List.forall_mem_cons]
        exact ⟨hname (by simp), nofun⟩
      · simp only [List.forall_mem_cons]
        exact ⟨.file _, nofun⟩

theorem discover_checksTree :
    checksTree.WellNamed ∧ ∃ found, discover "checks" (.ok checksTree) = .ok found ∧
      found = (checksTree.walk.filterMap FileTree.fixture?).map
        (fun f ↦ (f.1.foldl joinPath "checks", f.2)) ∧
      found.map Prod.fst =
        ["checks/disk.json/tmp.json", "checks/ssh/users.json", "checks/ssh.json"] ∧
      ("checks/ssh/users.json", .ok "{}") ∈ found ∧
      "checks/disk.json" ∉ found.map Prod.fst ∧ (found.map Prod.fst).Nodup ∧
      found.Pairwise fun f g ↦ pathBytes f.1 < pathBytes g.1 := by
  obtain ⟨found, hfound, hwalk, hmem, hdirectory, hnodup, hsorted⟩ :=
    discover_directory "checks" wellNamed_checksTree
  have hpaths : (fixturePaths "checks" checksTree).map Prod.fst =
      ["checks/disk.json/tmp.json", "checks/ssh/users.json", "checks/ssh.json"] := by
    decide +kernel
  obtain rfl : fixturePaths "checks" checksTree = found := Except.ok.inj hfound
  refine ⟨wellNamed_checksTree, _, hfound, hwalk _ (FileTree.isWalk_walk wellNamed_checksTree),
    hpaths, ?_, ?_, hnodup, hsorted⟩
  · refine (hmem _ _).2 ⟨["ssh", "users.json"], by decide +kernel, by decide +kernel, ?_, ?_⟩
    · exact .inside (.tail _ (.tail _ (.head _))) (.inside (.head _) (.here _))
    · exact ⟨["ssh"], "users", by simp, rfl⟩
  · have hjoined : ["disk.json"].foldl joinPath "checks" = "checks/disk.json" := by decide +kernel
    rw [← hjoined]
    exact hdirectory ["disk.json"] _ (.inside (.tail _ (.tail _ (.tail _ (.head _)))) (.here _))

end AuditRules
