import SqlOutline.Fixture.Basic
import SqlOutline.Proofs.Files.Matching
import SqlOutline.Proofs.Files.Writing
import SqlOutline.Proofs.Text.ByteOrder

/-!
# The cases of a directory

Reading the cases of a fixture directory whose name has no special character, in terms of the names of its
query files.

* `queryPath`, `expectationPath` : where the files of a case are;
* `absolute_queryPath`, `absolute_expectationPath` : the same from the root on;
* `orderedNames` : the names of the queries of a directory in order;
* `map_orderedNames_perm`, `pairwise_orderedNames` : which names these are, and that their paths are in order;
* `scan_eq_ok_iff`, `readCase_eq_ok_iff` : when the cases can be read, and what they are;
* `Case.IsOf` : a case of a directory;
* `load_eq_ok_iff` : when the cases can be used.
-/

namespace SqlOutline.Fixture

variable {files files' : Files} {dir name : String}

/-! ### Paths -/

/-- Where the query of a case is. -/
def queryPath (dir name : String) : Path := ((base dir).child "sql").child (name ++ ".sql")

/-- Where the expectation of a case belongs. -/
def expectationPath (dir name : String) : Path := ((base dir).child "expected").child (name ++ ".json")

/-- A name with a longer ending stands for something. -/
theorem append_ne {ending other : String} (h : other.length < ending.length) (name : String) :
    name ++ ending ≠ other := by
  intro heq
  have hlen := congrArg String.length heq
  rw [String.length_append] at hlen
  omega

theorem absolute_queryPath (files : Files) (dir name : String) :
    files.absolute (queryPath dir name) = files.absolute (base dir) ++ ["sql", name ++ ".sql"] := by
  rw [queryPath, Files.absolute_child _ _ (append_ne (by decide) name) (append_ne (by decide) name)
      (append_ne (by decide) name), Files.absolute_child _ _ (by decide) (by decide) (by decide),
    List.append_assoc]
  rfl

theorem absolute_expectationPath (files : Files) (dir name : String) :
    files.absolute (expectationPath dir name) =
      files.absolute (base dir) ++ ["expected", name ++ ".json"] := by
  rw [expectationPath, Files.absolute_child _ _ (append_ne (by decide) name) (append_ne (by decide) name)
      (append_ne (by decide) name), Files.absolute_child _ _ (by decide) (by decide) (by decide),
    List.append_assoc]
  rfl

/-- Different names have different expectations. -/
theorem absolute_expectationPath_inj {other : String}
    (h : files.absolute (expectationPath dir name) = files.absolute (expectationPath dir other)) :
    name = other := by
  rw [absolute_expectationPath, absolute_expectationPath] at h
  have hjson : name ++ ".json" = other ++ ".json" := by simpa using List.append_cancel_left h
  have hchars := congrArg String.toList hjson
  rw [String.toList_append, String.toList_append] at hchars
  exact String.toList_inj.mp (List.append_cancel_right hchars)

/-- No query is an expectation, or stands above or below one. -/
theorem queryPath_apart (files : Files) (dir name other : String) :
    ¬ files.absolute (queryPath dir name) <+: files.absolute (expectationPath dir other) ∧
      ¬ files.absolute (expectationPath dir other) <+: files.absolute (queryPath dir name) := by
  rw [absolute_queryPath, absolute_expectationPath, List.prefix_append_right_inj,
    List.prefix_append_right_inj]
  simp

/-! ### Names -/

theorem caseName_append (name : String) : caseName (name ++ ".sql") = name := by
  have hends : ".sql".toList.isSuffixOf (name ++ ".sql").toList = true := by
    rw [String.toList_append]
    exact List.isSuffixOf_iff_suffix.mpr (List.suffix_append _ _)
  unfold caseName
  dsimp only
  rw [if_pos hends, String.toList_append, List.length_append, show ".sql".toList.length = 4 from rfl,
    Nat.add_sub_cancel, List.take_left, String.ofList_toList]

theorem exists_caseName {fileName : String} (h : ".sql".toList.isSuffixOf fileName.toList = true) :
    ∃ name, fileName = name ++ ".sql" := by
  obtain ⟨w, hw⟩ := List.isSuffixOf_iff_suffix.mp h
  refine ⟨String.ofList w, ?_⟩
  rw [← String.toList_inj, String.toList_append, String.toList_ofList, hw]

/-- The names of the queries of a directory. -/
def queryNames (files : Files) (dir : String) : List String :=
  ((files.sortedNames ((base dir).child "sql")).filter fun name => ".sql".toList.isSuffixOf name.toList).map
    caseName

theorem map_queryNames (files : Files) (dir : String) :
    (queryNames files dir).map (· ++ ".sql") =
      (files.sortedNames ((base dir).child "sql")).filter fun name =>
        ".sql".toList.isSuffixOf name.toList := by
  rw [queryNames, List.map_map]
  refine (List.map_congr_left fun fileName hmem => ?_).trans (List.map_id _)
  obtain ⟨name, rfl⟩ := exists_caseName (List.mem_filter.mp hmem).2
  show caseName (name ++ ".sql") ++ ".sql" = name ++ ".sql"
  rw [caseName_append]

/-- The names of the queries of a directory in the order of their paths. -/
def orderedNames (files : Files) (dir : String) : List String :=
  (queryNames files dir).mergeSort fun a b => decide ((queryPath dir a).render ≤ (queryPath dir b).render)

theorem orderedNames_perm (files : Files) (dir : String) :
    (orderedNames files dir).Perm (queryNames files dir) :=
  List.mergeSort_perm _ _

/-- The names stand for the members of the query directory that end like queries. -/
theorem map_orderedNames_perm {top : Entry} (h : files.find ((base dir).child "sql") = .ok top) :
    ((orderedNames files dir).map (· ++ ".sql")).Perm
      (top.names.filter fun name => ".sql".toList.isSuffixOf name.toList) := by
  have hsorted : files.sortedNames ((base dir).child "sql") =
      top.names.mergeSort fun a b => decide (a ≤ b) := by
    rw [Files.sortedNames, h]
  refine ((orderedNames_perm files dir).map _).trans ?_
  rw [map_queryNames, hsorted]
  exact (List.mergeSort_perm _ _).filter _

/-- The paths of the queries are in the order of their bytes. -/
theorem pairwise_orderedNames (files : Files) (dir : String) :
    ((orderedNames files dir).map fun name => Text.bytes (queryPath dir name).render).Pairwise (· ≤ ·) := by
  have hsorted : (orderedNames files dir).Pairwise fun a b =>
      decide ((queryPath dir a).render ≤ (queryPath dir b).render) = true := by
    refine List.pairwise_mergeSort (fun a b c hab hbc => ?_) (fun a b => ?_) _
    · exact decide_eq_true (le_trans (of_decide_eq_true hab) (of_decide_eq_true hbc))
    · simpa using le_total (queryPath dir a).render (queryPath dir b).render
  refine List.pairwise_map.mpr (hsorted.imp fun hle => ?_)
  exact Text.bytes_le_bytes_iff.mpr (of_decide_eq_true hle)

/-- There are names only where there is a directory. -/
theorem exists_find_of_orderedNames (h : orderedNames files dir ≠ []) :
    ∃ top, files.find ((base dir).child "sql") = .ok top := by
  cases hfind : files.find ((base dir).child "sql") with
  | ok top => exact ⟨top, rfl⟩
  | error e =>
    have hnone : files.sortedNames ((base dir).child "sql") = [] := by rw [Files.sortedNames, hfind]
    exact absurd (by simp [orderedNames, queryNames, hnone]) h

theorem orderedNames_congr (h : files'.find ((base dir).child "sql") = files.find ((base dir).child "sql")) :
    orderedNames files' dir = orderedNames files dir := by
  unfold orderedNames queryNames Files.sortedNames
  rw [h]

/-! ### Cases -/

/-- A case of a directory. -/
structure Case.IsOf (files : Files) (dir : String) (c : Case) : Prop where
  /-- The query is in its place. -/
  sqlPath : c.sqlPath = queryPath dir c.name
  /-- So is the expectation. -/
  expectedPath : c.expectedPath = expectationPath dir c.name
  /-- The query has been read. -/
  sql : files.read c.sqlPath = .ok c.sql

theorem readCase_eq_ok_iff {c : Case} :
    readCase files dir (queryPath dir name) = .ok c ↔
      c.name = name ∧ c.IsOf files dir ∧ readExpected files c.expectedPath = .ok c.expected := by
  unfold readCase
  rw [show (queryPath dir name).name = name ++ ".sql" by simp [queryPath, Path.child, Path.name],
    caseName_append]
  constructor
  · intro h
    split at h
    · cases h
    · rename_i sql hsql
      obtain ⟨expected, hexpected, hcase⟩ := Except.bind_eq_ok_iff.mp h
      obtain rfl := Except.pure_eq_ok_iff.mp hcase
      exact ⟨rfl, ⟨rfl, rfl, hsql⟩, hexpected⟩
  · rintro ⟨rfl, hcase, hexpected⟩
    have hsql := hcase.sql
    rw [hcase.sqlPath] at hsql
    rw [hcase.expectedPath] at hexpected
    rw [hsql]
    refine Except.bind_eq_ok_iff.mpr ⟨c.expected, hexpected, ?_⟩
    rw [Except.pure_eq_ok_iff, ← expectationPath, ← hcase.sqlPath, ← hcase.expectedPath]

/-- The query files that the pattern stands for. -/
theorem glob_queries (hdir : Glob.hasSpecial dir = false) (files : Files) :
    files.glob (((base dir).child "sql").child "*.sql") =
      some ((queryNames files dir).map (queryPath dir)) := by
  have hplain : ∀ part ∈ ((base dir).child "sql").parts, Glob.hasSpecial part = false := by
    intro part hmem
    rcases List.mem_append.mp hmem with hmem | hmem
    · exact Glob.hasSpecial_of_mem_parse hmem hdir
    · rw [List.mem_singleton.mp hmem]
      decide
  rw [Files.glob_child files hplain (by decide) (show Glob.parse "*.sql" =
    some (.star :: ".sql".toList.map .char) by decide)]
  simp only [Glob.accepts_star, ← map_queryNames, List.map_map]
  rfl

theorem forall₂_readCase_iff {names : List String} {cases : List Case} :
    List.Forall₂ (fun name c => readCase files dir (queryPath dir name) = .ok c) names cases ↔
      cases.map (·.name) = names ∧
        ∀ c ∈ cases, c.IsOf files dir ∧ readExpected files c.expectedPath = .ok c.expected := by
  induction names generalizing cases with
  | nil =>
    rw [List.forall₂_nil_left_iff, List.map_eq_nil_iff]
    constructor
    · rintro rfl
      exact ⟨rfl, by simp⟩
    · exact fun h => h.1
  | cons name names ih =>
    rw [List.forall₂_cons_left_iff]
    constructor
    · rintro ⟨c, rest, hc, hrest, rfl⟩
      obtain ⟨hname, hcase⟩ := readCase_eq_ok_iff.mp hc
      obtain ⟨hnames, hcases⟩ := ih.mp hrest
      exact ⟨by rw [List.map_cons, hname, hnames], List.forall_mem_cons.mpr ⟨hcase, hcases⟩⟩
    · rintro ⟨hnames, hcases⟩
      obtain ⟨c, rest, rfl, hname, hnames⟩ := List.map_eq_cons_iff.mp hnames
      rw [List.forall_mem_cons] at hcases
      exact ⟨c, rest, readCase_eq_ok_iff.mpr ⟨hname, hcases.1⟩, ih.mpr ⟨hnames, hcases.2⟩, rfl⟩

/-- The cases of a directory are read one after the other in the order of their paths, if there are any. -/
theorem scan_eq_ok_iff (hdir : Glob.hasSpecial dir = false) {cases : List Case} :
    scan files dir = .ok cases ↔
      cases ≠ [] ∧ cases.map (·.name) = orderedNames files dir ∧
        ∀ c ∈ cases, c.IsOf files dir ∧ readExpected files c.expectedPath = .ok c.expected := by
  have hsorted : ((queryNames files dir).map (queryPath dir)).mergeSort
      (fun a b => decide (a.render ≤ b.render)) = (orderedNames files dir).map (queryPath dir) := by
    rw [orderedNames, List.map_mergeSort fun _ _ _ _ => ?_]
    rfl
  unfold scan
  rw [glob_queries hdir]
  split
  · rename_i hnone
    cases hnone
  · rename_i hpaths
    have hnone : queryNames files dir = [] := List.map_eq_nil_iff.mp (Option.some.inj hpaths)
    constructor
    · intro h
      cases h
    · rintro ⟨hcases, hnames, -⟩
      rw [orderedNames, hnone, List.mergeSort_nil] at hnames
      exact absurd (List.map_eq_nil_iff.mp hnames) hcases
  · rename_i paths hsome hpaths
    obtain rfl := Option.some.inj hpaths
    rw [hsorted, Except.mapM_eq_ok_iff, List.forall₂_map_left_iff, forall₂_readCase_iff]
    refine (and_iff_right_of_imp fun hread hnil => ?_).symm
    subst hnil
    refine hsome ?_
    have hperm := orderedNames_perm files dir
    rw [← hread.1] at hperm
    rw [← hperm.nil_eq]
    rfl

/-- The cases can be used when each of them has an expectation. -/
theorem load_eq_ok_iff {cases : List Case} :
    load files dir = .ok cases ↔ scan files dir = .ok cases ∧ ∀ c ∈ cases, c.expected ≠ none := by
  unfold load
  rw [Except.bind_eq_ok_iff]
  constructor
  · rintro ⟨read, hscan, hload⟩
    split at hload
    · cases hload
    · rename_i hall
      obtain rfl := Except.pure_eq_ok_iff.mp hload
      exact ⟨hscan, by simpa using List.find?_eq_none.mp hall⟩
  · rintro ⟨hscan, hall⟩
    refine ⟨cases, hscan, ?_⟩
    have hnone : cases.find? (·.expected.isNone) = none := List.find?_eq_none.mpr (by simpa using hall)
    rw [hnone]
    rfl

end SqlOutline.Fixture
