import SqlOutline.Files.Tree
import SqlOutline.Proofs.Result
import Mathlib.Data.List.Infix

/-!
# What writing changes

Writing a file changes what stands at its path and nothing else, and making directories changes no file.

* `lookup_insertMember` : the members of a directory after one of them was replaced;
* `exists_of_write_cons`, `exists_of_makeDirs_cons` : one step down the path;
* `find_write_self`, `find_write_file`, `find_write_of_apart` : what stands where after a file was written;
* `find_makeDirs_file`, `find_makeDirs_of_not_prefix` : the same after directories were made;
* `Files.absolute_child` : a name below a path.
-/

namespace SqlOutline

namespace Entry

variable {text content part : String} {e e' : Entry} {members : List (String × Entry)}
  {p q parts : List String}

/-! ### Members -/

theorem lookup_cons (name other : String) (entry : Entry) (members : List (String × Entry)) :
    List.lookup other ((name, entry) :: members) =
      if other = name then some entry else members.lookup other := by
  by_cases h : other = name
  · simp [h]
  · have hne : (other == name) = false := by simpa using h
    simp [List.lookup_cons, hne, h]

theorem lookup_insertMember (name other : String) (entry : Entry) (members : List (String × Entry)) :
    (insertMember name entry members).lookup other =
      if other = name then some entry else members.lookup other := by
  induction members with
  | nil => exact lookup_cons name other entry []
  | cons m members ih =>
    obtain ⟨key, inner⟩ := m
    unfold insertMember
    split
    · rename_i hkey
      rw [lookup_cons, lookup_cons, hkey]
      split <;> rfl
    · rename_i hkey
      rw [lookup_cons, lookup_cons, ih]
      by_cases h : other = name
      · rw [if_pos h, if_pos h, if_neg]
        rw [h]
        exact fun hsame => hkey hsame.symm
      · rw [if_neg h, if_neg h]

/-- What stands in a directory one of whose members was replaced. -/
theorem find_insertMember (name part : String) (entry : Entry) (members : List (String × Entry))
    (parts : List String) :
    (directory (insertMember name entry members)).find (part :: parts) =
      if part = name then entry.find parts else (directory members).find (part :: parts) := by
  rw [find, find, lookup_insertMember]
  by_cases h : part = name
  · rw [if_pos h, if_pos h]
  · rw [if_neg h, if_neg h]

/-! ### Writing a file -/

/-- Writing below a directory replaces one member, which was there or is the file itself. -/
theorem exists_of_write_cons (h : write text (directory members) (part :: parts) = .ok e') :
    ∃ inner, e' = directory (insertMember part inner members) ∧
      ((∃ entry, members.lookup part = some entry ∧ write text entry parts = .ok inner) ∨
        (members.lookup part = none ∧ parts = [] ∧ inner = file text)) := by
  unfold write at h
  split at h
  · rename_i entry hentry
    obtain ⟨inner, hinner, hdir⟩ := Except.bind_eq_ok_iff.mp h
    exact ⟨inner, (Except.pure_eq_ok_iff.mp hdir).symm, .inl ⟨entry, hentry, hinner⟩⟩
  · rename_i hnone
    exact ⟨file text, (Except.ok.inj h).symm, .inr ⟨hnone, rfl, rfl⟩⟩
  · cases h

/-- The written file can be found. -/
theorem find_write_self (h : write text e p = .ok e') : e'.find p = .ok (file text) := by
  induction p generalizing e e' with
  | nil =>
    cases e with
    | file old =>
      rw [← Except.ok.inj h]
      rfl
    | directory members => cases h
  | cons part parts ih =>
    cases e with
    | file old => cases h
    | directory members =>
      obtain ⟨inner, rfl, ⟨entry, -, hinner⟩ | ⟨-, rfl, rfl⟩⟩ := exists_of_write_cons h
      · rw [find_insertMember, if_pos rfl]
        exact ih hinner
      · rw [find_insertMember, if_pos rfl]
        rfl

/-- No other file changes, is added or is lost. -/
theorem find_write_file (h : write text e p = .ok e') (hne : q ≠ p) :
    e'.find q = .ok (file content) ↔ e.find q = .ok (file content) := by
  induction p generalizing e e' q with
  | nil =>
    cases e with
    | file old =>
      obtain ⟨part, parts, rfl⟩ := List.exists_cons_of_ne_nil hne
      rw [← Except.ok.inj h]
      rfl
    | directory members => cases h
  | cons part parts ih =>
    cases e with
    | file old => cases h
    | directory members =>
      obtain ⟨inner, rfl, hcases⟩ := exists_of_write_cons h
      cases q with
      | nil => simp [find]
      | cons first rest =>
        rw [find_insertMember]
        by_cases hfirst : first = part
        · rw [if_pos hfirst, find, hfirst]
          rw [hfirst] at hne
          rcases hcases with ⟨entry, hentry, hinner⟩ | ⟨hnone, rfl, rfl⟩
          · rw [hentry]
            exact ih hinner fun hsame => hne (by rw [hsame])
          · rw [hnone]
            cases rest with
            | nil => exact absurd rfl hne
            | cons next rest => simp [find]
        · rw [if_neg hfirst]

/-- Nothing changes at a path that does not lie on the way to the file or below it. -/
theorem find_write_of_apart (h : write text e p = .ok e') (habove : ¬ q <+: p) (hbelow : ¬ p <+: q) :
    e'.find q = e.find q := by
  induction p generalizing e e' q with
  | nil => exact absurd (List.nil_prefix) hbelow
  | cons part parts ih =>
    cases e with
    | file old => cases h
    | directory members =>
      obtain ⟨inner, rfl, hcases⟩ := exists_of_write_cons h
      cases q with
      | nil => exact absurd (List.nil_prefix) habove
      | cons first rest =>
        rw [find_insertMember]
        by_cases hfirst : first = part
        · subst hfirst
          rw [List.cons_prefix_cons, eq_self, true_and] at habove hbelow
          rw [if_pos rfl, find]
          rcases hcases with ⟨entry, hentry, hinner⟩ | ⟨hnone, rfl, rfl⟩
          · rw [hentry]
            exact ih hinner habove hbelow
          · exact absurd (List.nil_prefix) hbelow
        · rw [if_neg hfirst]

/-! ### Making directories -/

/-- Making directories below a directory replaces one member, which was there or is new. -/
theorem exists_of_makeDirs_cons (h : makeDirs (directory members) (part :: parts) = .ok e') :
    ∃ inner, e' = directory (insertMember part inner members) ∧
      makeDirs ((members.lookup part).getD empty) parts = .ok inner := by
  rw [makeDirs] at h
  obtain ⟨inner, hinner, hdir⟩ := Except.bind_eq_ok_iff.mp h
  exact ⟨inner, (Except.pure_eq_ok_iff.mp hdir).symm, hinner⟩

/-- No file changes, is added or is lost. -/
theorem find_makeDirs_file (h : makeDirs e p = .ok e') :
    e'.find q = .ok (file content) ↔ e.find q = .ok (file content) := by
  induction p generalizing e e' q with
  | nil =>
    cases e with
    | file old => cases h
    | directory members => rw [← Except.ok.inj h]
  | cons part parts ih =>
    cases e with
    | file old => cases h
    | directory members =>
      obtain ⟨inner, rfl, hinner⟩ := exists_of_makeDirs_cons h
      cases q with
      | nil => simp [find]
      | cons first rest =>
        rw [find_insertMember]
        by_cases hfirst : first = part
        · rw [if_pos hfirst, ih hinner, find, hfirst]
          cases members.lookup part with
          | some entry => rfl
          | none => cases rest <;> simp [find, empty]
        · rw [if_neg hfirst]

/-- Nothing changes but on the way to the directory. -/
theorem find_makeDirs_of_not_prefix (h : makeDirs e p = .ok e') (hq : ¬ q <+: p) : e'.find q = e.find q := by
  induction p generalizing e e' q with
  | nil =>
    cases e with
    | file old => cases h
    | directory members => rw [← Except.ok.inj h]
  | cons part parts ih =>
    cases e with
    | file old => cases h
    | directory members =>
      obtain ⟨inner, rfl, hinner⟩ := exists_of_makeDirs_cons h
      cases q with
      | nil => exact absurd (List.nil_prefix) hq
      | cons first rest =>
        rw [find_insertMember]
        by_cases hfirst : first = part
        · subst hfirst
          rw [List.cons_prefix_cons, eq_self, true_and] at hq
          rw [if_pos rfl, ih hinner hq, find]
          cases members.lookup first with
          | some entry => rfl
          | none =>
            obtain ⟨next, rest, rfl⟩ := List.exists_cons_of_ne_nil fun hnil : rest = [] =>
              hq (hnil ▸ List.nil_prefix)
            rfl
        · rw [if_neg hfirst]

end Entry

namespace Files

variable {files files' : Files} {p q : Path} {text : String}

/-! ### Trees with a working directory -/

theorem absolute_congr (h : files'.here = files.here) (p : Path) : files'.absolute p = files.absolute p := by
  rw [absolute, absolute, h]

theorem write_eq_ok_iff : files.write p text = .ok files' ↔
    ∃ root, files.root.write text (files.absolute p) = .ok root ∧ { files with root } = files' :=
  Except.map_eq_ok_iff

theorem makeDirs_eq_ok_iff : files.makeDirs p = .ok files' ↔
    ∃ root, files.root.makeDirs (files.absolute p) = .ok root ∧ { files with root } = files' :=
  Except.map_eq_ok_iff

theorem here_of_write (h : files.write p text = .ok files') : files'.here = files.here := by
  obtain ⟨root, -, rfl⟩ := write_eq_ok_iff.mp h
  rfl

theorem here_of_makeDirs (h : files.makeDirs p = .ok files') : files'.here = files.here := by
  obtain ⟨root, -, rfl⟩ := makeDirs_eq_ok_iff.mp h
  rfl

theorem read_eq_ok_iff : files.read p = .ok text ↔ files.root.find (files.absolute p) = .ok (.file text) := by
  unfold read find
  cases files.root.find (files.absolute p) with
  | error e =>
    constructor
    · intro h
      cases h
    · intro h
      cases h
  | ok entry =>
    show entry.content = _ ↔ _
    cases entry with
    | file content => simp [Entry.content]
    | directory members =>
      constructor
      · intro h
        cases h
      · intro h
        cases h

/-! ### Names below a path -/

/-- A name that stands for something is added to the end of a path. -/
theorem absolute_child (files : Files) (p : Path) {name : String} (hempty : name ≠ "") (hhere : name ≠ ".")
    (hup : name ≠ "..") : files.absolute (p.child name) = files.absolute p ++ [name] := by
  have hpush : ∀ done, Path.push true done name = name :: done := by
    intro done
    simp [Path.push, hempty, hhere, hup]
  have hfold : ∀ parts,
      (Path.clean ⟨true, parts ++ [name]⟩).parts = (Path.clean ⟨true, parts⟩).parts ++ [name] := by
    intro parts
    simp [Path.clean, hpush]
  unfold absolute Path.child
  cases p.rooted with
  | true => exact hfold p.parts
  | false =>
    have happ := hfold (files.here ++ p.parts)
    rw [List.append_assoc] at happ
    exact happ

end Files

end SqlOutline
