import SqlOutline.Proofs.Fixture.Scan
import SqlOutline.Proofs.Json.RoundTrip
import SqlOutline.Proofs.Text.ByteOrder

/-!
# Written expectations are met

When the expectations of a directory have been written, every case of it is read back with the node that its
query gives, and passes.

* `Node.beq_refl`, `readNode_of_buildNode` : a node agrees with itself, and is what its document is read as;
* `exists_of_writeCases_cons` : one step of writing expectations;
* `find_writeCases_file`, `find_writeCases_of_apart`, `read_writeCases` : the files after all steps;
* `Case.Ready` : a case that passes;
* `load_writeExpected` : writing, loading and running the cases of a directory.
-/

namespace SqlOutline

/-! ### Nodes -/

namespace Node

mutual

theorem beq_refl : (n : Node) → beq n n = true
  | .mk tag text isGroup children => by
    rw [beq, beqAll_refl children]
    simp

theorem beqAll_refl : (ns : List Node) → beqAll ns ns = true
  | [] => by rw [beqAll]
  | n :: ns => by
    rw [beqAll, beq_refl n, beqAll_refl ns]
    rfl

end

end Node

/-- The document of the node of a query is read as that node. -/
theorem readNode_of_buildNode {sql text : String} {normalizing pretty : Bool} {node : Node}
    (h : buildNode sql normalizing = .ok node) (htext : writeNode .json pretty node = .ok text) :
    readNode .json text = .ok node := by
  obtain ⟨q, -, hrest⟩ := Except.bind_eq_ok_iff.mp h
  obtain ⟨⟨_, q'⟩, hnode, hpure⟩ := Except.bind_eq_ok_iff.mp hrest
  obtain rfl := Except.pure_eq_ok_iff.mp hpure
  rw [readNode_of_writeNode_json htext, Node.stripped_of_proper _ (Query.proper_of_node hnode)]

namespace Fixture

variable {files files' : Files} {dir content : String} {normalizing : Bool} {c : Case} {cs : List Case}
  {q : List String}

/-! ### Writing one expectation after the other -/

/-- The first expectation is written, and the others after it. -/
theorem exists_of_writeCases_cons (h : (writeCases normalizing files (c :: cs)).error = none) :
    ∃ node text files', buildNode c.sql normalizing = .ok node ∧ writeNode .json true node = .ok text ∧
      files.write c.expectedPath text = .ok files' ∧
      (writeCases normalizing files' cs).error = none ∧
      (writeCases normalizing files (c :: cs)).files = (writeCases normalizing files' cs).files ∧
      (writeCases normalizing files (c :: cs)).names = c.name :: (writeCases normalizing files' cs).names := by
  rw [writeCases] at h ⊢
  cases hnode : buildNode c.sql normalizing with
  | error e =>
    rw [hnode] at h
    cases h
  | ok node =>
    rw [hnode] at h
    dsimp only at h ⊢
    cases htext : writeNode .json true node with
    | error e =>
      rw [htext] at h
      cases h
    | ok text =>
      rw [htext] at h
      dsimp only at h ⊢
      cases hwrite : files.write c.expectedPath text with
      | error e =>
        rw [hwrite] at h
        cases h
      | ok files' =>
        rw [hwrite] at h
        exact ⟨node, text, files', rfl, htext, hwrite, h, rfl, rfl⟩

theorem names_writeCases (h : (writeCases normalizing files cs).error = none) :
    (writeCases normalizing files cs).names = cs.map (·.name) := by
  induction cs generalizing files with
  | nil => rfl
  | cons c cs ih =>
    obtain ⟨node, text, files', -, -, -, hrest, -, hnames⟩ := exists_of_writeCases_cons h
    rw [hnames, ih hrest, List.map_cons]

theorem here_writeCases (h : (writeCases normalizing files cs).error = none) :
    (writeCases normalizing files cs).files.here = files.here := by
  induction cs generalizing files with
  | nil => rfl
  | cons c cs ih =>
    obtain ⟨node, text, files', -, -, hwrite, hrest, hfiles, -⟩ := exists_of_writeCases_cons h
    rw [hfiles, ih hrest, Files.here_of_write hwrite]

/-- Only the expectations change. -/
theorem find_writeCases_file (h : (writeCases normalizing files cs).error = none)
    (hq : ∀ c ∈ cs, q ≠ files.absolute c.expectedPath) :
    (writeCases normalizing files cs).files.root.find q = .ok (.file content) ↔
      files.root.find q = .ok (.file content) := by
  induction cs generalizing files with
  | nil => rfl
  | cons c cs ih =>
    obtain ⟨node, text, files', -, -, hwrite, hrest, hfiles, -⟩ := exists_of_writeCases_cons h
    rw [List.forall_mem_cons] at hq
    obtain ⟨root, hroot, rfl⟩ := Files.write_eq_ok_iff.mp hwrite
    rw [hfiles, ih hrest hq.2]
    exact Entry.find_write_file hroot hq.1

/-- What does not lie on the way to an expectation or below it stays as it is. -/
theorem find_writeCases_of_apart (h : (writeCases normalizing files cs).error = none)
    (hq : ∀ c ∈ cs, ¬ q <+: files.absolute c.expectedPath ∧ ¬ files.absolute c.expectedPath <+: q) :
    (writeCases normalizing files cs).files.root.find q = files.root.find q := by
  induction cs generalizing files with
  | nil => rfl
  | cons c cs ih =>
    obtain ⟨node, text, files', -, -, hwrite, hrest, hfiles, -⟩ := exists_of_writeCases_cons h
    rw [List.forall_mem_cons] at hq
    obtain ⟨root, hroot, rfl⟩ := Files.write_eq_ok_iff.mp hwrite
    rw [hfiles, ih hrest hq.2]
    exact Entry.find_write_of_apart hroot hq.1.1 hq.1.2

/-- Every expectation holds the node of its query, if cases that share an expectation share their query. -/
theorem read_writeCases (h : (writeCases normalizing files cs).error = none)
    (hshared : ∀ c ∈ cs, ∀ c' ∈ cs,
      files.absolute c.expectedPath = files.absolute c'.expectedPath → c.sql = c'.sql) :
    ∀ c ∈ cs, ∃ node text, buildNode c.sql normalizing = .ok node ∧ writeNode .json true node = .ok text ∧
      (writeCases normalizing files cs).files.root.find (files.absolute c.expectedPath) =
        .ok (.file text) := by
  induction cs generalizing files with
  | nil => simp
  | cons first cs ih =>
    obtain ⟨node, text, files', hnode, htext, hwrite, hrest, hfiles, -⟩ := exists_of_writeCases_cons h
    obtain ⟨root, hroot, rfl⟩ := Files.write_eq_ok_iff.mp hwrite
    have hlater := ih hrest fun c hc c' hc' => hshared c (by simp [hc]) c' (by simp [hc'])
    rw [hfiles]
    refine List.forall_mem_cons.mpr ⟨⟨node, text, hnode, htext, ?_⟩, hlater⟩
    -- the first expectation may be written again, but then for the same query
    by_cases hagain : ∃ c ∈ cs, files.absolute c.expectedPath = files.absolute first.expectedPath
    · obtain ⟨c, hc, hpath⟩ := hagain
      obtain ⟨node', text', hnode', htext', hfound⟩ := hlater c hc
      rw [hshared c (by simp [hc]) first (by simp) hpath, hnode] at hnode'
      rw [← Except.ok.inj hnode', htext] at htext'
      rw [Except.ok.inj htext', ← hpath]
      exact hfound
    · refine (find_writeCases_file hrest fun c hc hpath => hagain ⟨c, hc, hpath.symm⟩).mpr ?_
      exact Entry.find_write_self hroot

/-! ### Running -/

/-- A case whose expectation is the node of its query. -/
def Case.Ready (normalizing : Bool) (c : Case) : Prop :=
  ∃ node, buildNode c.sql normalizing = .ok node ∧ c.expected = some node

theorem success_of_ready (h : c.Ready normalizing) : (c.run normalizing).success = true := by
  obtain ⟨node, hnode, hexpected⟩ := h
  have hsame : (node == node) = true := Node.beq_refl node
  rw [Case.run, hnode, hexpected]
  simp [Result.success, hsame]

/-- All of a list of such cases pass. -/
theorem run_of_ready (h : ∀ c ∈ cs, c.Ready normalizing) :
    (run cs normalizing).total = cs.length ∧ (run cs normalizing).passed = cs.length ∧
      (run cs normalizing).failed = 0 := by
  have hsuccess : ∀ r ∈ cs.map (·.run normalizing), r.success = true := by
    intro r hr
    obtain ⟨c, hc, rfl⟩ := List.mem_map.mp hr
    exact success_of_ready (h c hc)
  have hlength : (cs.map (·.run normalizing)).length = cs.length := List.length_map _
  refine ⟨hlength, ?_, ?_⟩
  · rw [← hlength]
    exact List.countP_eq_length.mpr hsuccess
  · exact List.countP_eq_zero.mpr fun r hr => by simp [hsuccess r hr]

/-! ### Writing the expectations of a directory -/

/-- The cases are read, the directory is made, and then the expectations are written. -/
theorem exists_of_writeExpected (h : (writeExpected files dir normalizing).error = none) :
    ∃ cs files', scan files dir = .ok cs ∧ files.makeDirs ((base dir).child "expected") = .ok files' ∧
      (writeCases normalizing files' cs).error = none ∧
      writeExpected files dir normalizing = writeCases normalizing files' cs := by
  unfold writeExpected at h ⊢
  cases hscan : scan files dir with
  | error e =>
    rw [hscan] at h
    cases h
  | ok cs =>
    rw [hscan] at h
    dsimp only at h ⊢
    cases hdirs : files.makeDirs ((base dir).child "expected") with
    | error e =>
      rw [hdirs] at h
      cases h
    | ok files' =>
      rw [hdirs] at h
      exact ⟨cs, files', rfl, rfl, h, rfl⟩

/-- Cases of one directory that share an expectation share their query. -/
theorem sql_eq_of_expectedPath {c c' : Case} (hc : c.IsOf files dir) (hc' : c'.IsOf files dir)
    (h : files.absolute c.expectedPath = files.absolute c'.expectedPath) : c.sql = c'.sql := by
  rw [hc.expectedPath, hc'.expectedPath] at h
  have hname := absolute_expectationPath_inj h
  have hread := hc.sql
  rw [hc.sqlPath, hname, ← hc'.sqlPath, hc'.sql] at hread
  exact (Except.ok.inj hread).symm

/-- A case with the node of its query as expectation, if there is one. -/
def Case.answered (normalizing : Bool) (c : Case) : Case :=
  { c with expected := (buildNode c.sql normalizing).toOption }

theorem ready_answered {node : Node} (h : buildNode c.sql normalizing = .ok node) :
    (c.answered normalizing).Ready normalizing :=
  ⟨node, h, by rw [Case.answered, h]; rfl⟩

section

variable (hdirs : files.makeDirs ((base dir).child "expected") = .ok files')
  (h : (writeCases normalizing files' cs).error = none)

include hdirs h

theorem absolute_writeCases (p : Path) :
    (writeCases normalizing files' cs).files.absolute p = files.absolute p :=
  Files.absolute_congr ((here_writeCases h).trans (Files.here_of_makeDirs hdirs)) p

variable (hof : ∀ c ∈ cs, c.IsOf files dir)

include hof

/-- Only the expectations of the cases change. -/
theorem find_writeCases_of_ne (hq : ∀ name ∈ cs.map (·.name), q ≠ files.absolute (expectationPath dir name)) :
    (writeCases normalizing files' cs).files.root.find q = .ok (.file content) ↔
      files.root.find q = .ok (.file content) := by
  obtain ⟨root, hroot, rfl⟩ := Files.makeDirs_eq_ok_iff.mp hdirs
  rw [find_writeCases_file h, Entry.find_makeDirs_file hroot]
  intro c hc
  rw [(hof c hc).expectedPath]
  exact hq c.name (List.mem_map_of_mem hc)

/-- The directory of the queries stays as it is. -/
theorem find_writeCases_sql :
    (writeCases normalizing files' cs).files.find ((base dir).child "sql") =
      files.find ((base dir).child "sql") := by
  have hwhere : files.absolute ((base dir).child "sql") = files.absolute (base dir) ++ ["sql"] :=
    Files.absolute_child _ _ (by decide) (by decide) (by decide)
  rw [Files.find, Files.find, absolute_writeCases hdirs h, hwhere]
  obtain ⟨root, hroot, rfl⟩ := Files.makeDirs_eq_ok_iff.mp hdirs
  rw [find_writeCases_of_apart h]
  · refine Entry.find_makeDirs_of_not_prefix hroot ?_
    rw [Files.absolute_child _ _ (by decide) (by decide) (by decide), List.prefix_append_right_inj]
    simp
  · intro c hc
    have hpath : Files.absolute { files with root } c.expectedPath =
        files.absolute (base dir) ++ ["expected", c.name ++ ".json"] := by
      rw [(hof c hc).expectedPath, ← absolute_expectationPath]
      rfl
    rw [hpath, List.prefix_append_right_inj, List.prefix_append_right_inj]
    simp

/-- The cases are read back with the nodes of their queries. -/
theorem answered_readBack (hc : c ∈ cs) :
    (c.answered normalizing).IsOf (writeCases normalizing files' cs).files dir ∧
      (c.answered normalizing).Ready normalizing ∧
      readExpected (writeCases normalizing files' cs).files c.expectedPath =
        .ok (c.answered normalizing).expected := by
  have hhere := Files.here_of_makeDirs hdirs
  obtain ⟨node, text, hnode, htext, hfound⟩ := read_writeCases h (fun c hc c' hc' hpath => by
    rw [Files.absolute_congr hhere, Files.absolute_congr hhere] at hpath
    exact sql_eq_of_expectedPath (hof c hc) (hof c' hc') hpath) c hc
  have hread : (writeCases normalizing files' cs).files.read c.expectedPath = .ok text := by
    rw [Files.read_eq_ok_iff, absolute_writeCases hdirs h, ← Files.absolute_congr hhere]
    exact hfound
  refine ⟨⟨(hof c hc).sqlPath, (hof c hc).expectedPath, ?_⟩, ready_answered hnode, ?_⟩
  · show (writeCases normalizing files' cs).files.read c.sqlPath = .ok c.sql
    rw [Files.read_eq_ok_iff, absolute_writeCases hdirs h, find_writeCases_of_ne hdirs h hof]
    · exact Files.read_eq_ok_iff.mp (hof c hc).sql
    · intro name _ hsame
      rw [(hof c hc).sqlPath] at hsame
      exact (queryPath_apart files dir c.name name).1 (hsame ▸ List.prefix_refl _)
  · rw [readExpected, hread, Case.answered, hnode]
    dsimp only
    rw [readNode_of_buildNode hnode htext]
    rfl

end

/-! ### The main result -/

/-- **Written expectations are met.**  When the expectations of a directory have been written, their names are
those of all query files in the order of the bytes of their paths, no other file has changed, and the cases
of the directory are read back with their queries, in this order, and all pass. -/
theorem load_writeExpected (files : Files) (dir : String) (normalizing : Bool) (w : Written)
    (hdir : Glob.hasSpecial dir = false) (hw : writeExpected files dir normalizing = w) (h : w.error = none) :
    ∃ top cases,
      files.find ((base dir).child "sql") = .ok top ∧
      (w.names.map (· ++ ".sql")).Perm (top.names.filter fun name => ".sql".toList.isSuffixOf name.toList) ∧
      (w.names.map fun name => Text.bytes (queryPath dir name).render).Pairwise (· ≤ ·) ∧
      (∀ q text, (∀ name ∈ w.names, q ≠ files.absolute (expectationPath dir name)) →
        (w.files.root.find q = .ok (.file text) ↔ files.root.find q = .ok (.file text))) ∧
      w.files.here = files.here ∧
      load w.files dir = .ok cases ∧ cases.map (·.name) = w.names ∧ (∀ c ∈ cases, c.IsOf files dir) ∧
      (run cases normalizing).total = cases.length ∧ (run cases normalizing).passed = cases.length ∧
      (run cases normalizing).failed = 0 := by
  rw [← hw] at h
  obtain ⟨cs, files', hscan, hdirs, hcases, hw'⟩ := exists_of_writeExpected h
  obtain ⟨hne, hnames, hread⟩ := (scan_eq_ok_iff hdir).mp hscan
  have hof : ∀ c ∈ cs, c.IsOf files dir := fun c hc => (hread c hc).1
  have hwritten : (writeCases normalizing files' cs).names = cs.map (·.name) := names_writeCases hcases
  have hanswered : (cs.map (·.answered normalizing)).map (·.name) = cs.map (·.name) := by
    rw [List.map_map]
    rfl
  have hback : ∀ c ∈ cs.map (·.answered normalizing),
      c.IsOf (writeCases normalizing files' cs).files dir ∧ c.Ready normalizing ∧
        readExpected (writeCases normalizing files' cs).files c.expectedPath = .ok c.expected := by
    intro c hc
    obtain ⟨c, hmem, rfl⟩ := List.mem_map.mp hc
    exact answered_readBack hdirs hcases hof hmem
  have hload : load (writeCases normalizing files' cs).files dir = .ok (cs.map (·.answered normalizing)) := by
    refine load_eq_ok_iff.mpr ⟨(scan_eq_ok_iff hdir).mpr ⟨?_, ?_, ?_⟩, ?_⟩
    · exact fun hnil => hne (List.map_eq_nil_iff.mp hnil)
    · rw [hanswered, hnames, orderedNames_congr (find_writeCases_sql hdirs hcases hof)]
    · exact fun c hc => ⟨(hback c hc).1, (hback c hc).2.2⟩
    · intro c hc hnone
      obtain ⟨node, -, hsome⟩ := (hback c hc).2.1
      rw [hnone] at hsome
      cases hsome
  have hsome : orderedNames files dir ≠ [] := by
    rw [← hnames]
    exact fun hnil => hne (List.map_eq_nil_iff.mp hnil)
  obtain ⟨top, htop⟩ := exists_find_of_orderedNames hsome
  rw [← hw, hw', hwritten]
  refine ⟨top, cs.map (·.answered normalizing), htop, ?_, ?_, ?_, ?_, hload, hanswered, ?_, ?_⟩
  · rw [hnames]
    exact map_orderedNames_perm htop
  · rw [hnames]
    exact pairwise_orderedNames files dir
  · exact fun q text hq => find_writeCases_of_ne hdirs hcases hof hq
  · exact (here_writeCases hcases).trans (Files.here_of_makeDirs hdirs)
  · intro c hc
    obtain ⟨c, hmem, rfl⟩ := List.mem_map.mp hc
    exact ⟨(hof c hmem).sqlPath, (hof c hmem).expectedPath, (hof c hmem).sql⟩
  · exact run_of_ready fun c hc => (hback c hc).2.1

/-- A directory with two queries and no expectations. -/
def twoQueries : Files where
  root := .directory [("fx", .directory [("sql", .directory
    [("b.sql", .file "select a from t"), ("notes.txt", .file "not a query"), ("a.sql", .file "SELECT (1)")])])]

theorem orderedNames_twoQueries : orderedNames twoQueries "fx" = ["a", "b"] := by
  have hfind : twoQueries.find ((base "fx").child "sql") = .ok (.directory
      [("b.sql", .file "select a from t"), ("notes.txt", .file "not a query"), ("a.sql", .file "SELECT (1)")]) := by
    rfl
  have hnames : twoQueries.sortedNames ((base "fx").child "sql") = ["a.sql", "b.sql", "notes.txt"] := by
    rw [Files.sortedNames, hfind]
    simp [Entry.names, List.mergeSort, List.MergeSort.Internal.splitInTwo]
  rw [orderedNames, queryNames, hnames]
  exact List.mergeSort_of_pairwise (by decide +kernel)

theorem scan_twoQueries : scan twoQueries "fx" = .ok
    [⟨"a", queryPath "fx" "a", expectationPath "fx" "a", "SELECT (1)", none⟩,
      ⟨"b", queryPath "fx" "b", expectationPath "fx" "b", "select a from t", none⟩] := by
  refine (scan_eq_ok_iff (by decide)).mpr ⟨by simp, orderedNames_twoQueries.symm, ?_⟩
  simp only [List.forall_mem_cons]
  exact ⟨⟨⟨rfl, rfl, by rfl⟩, by rfl⟩, ⟨⟨rfl, rfl, by rfl⟩, by rfl⟩, by simp⟩

/-- Two expectations are written and met. -/
theorem load_writeExpected_two :
    ∃ cases, load (writeExpected twoQueries "fx" true).files "fx" = .ok cases ∧
      cases.map (·.name) = ["a", "b"] ∧ (run cases true).passed = 2 ∧ (run cases true).failed = 0 := by
  have hwritten : (writeExpected twoQueries "fx" true).error.isNone = true ∧
      (writeExpected twoQueries "fx" true).names = ["a", "b"] := by
    rw [writeExpected, scan_twoQueries]
    decide +kernel
  obtain ⟨top, cases, -, -, -, -, -, hload, hcases, -, -, hpassed, hfailed⟩ :=
    load_writeExpected twoQueries "fx" true _ (by decide) rfl (Option.isNone_iff_eq_none.mp hwritten.1)
  rw [hwritten.2] at hcases
  have hlength : cases.length = 2 := by
    have hmap := congrArg List.length hcases
    rwa [List.length_map] at hmap
  exact ⟨cases, hload, hcases, hpassed.trans hlength, hfailed⟩

end Fixture

end SqlOutline
