import SqlOutline.Files.Glob

/-!
# Names with an ending

A pattern that is a star and an ending stands for the names with that ending, and a path of patterns only the
last of which has a special character stands for members of one directory.

* `accepts_star_iff` : the names that such a pattern stands for;
* `hasSpecial_of_mem_clean` : cleaning a path makes no pattern of it;
* `glob_child` : the paths that such a path stands for.
-/

namespace SqlOutline

namespace Glob

/-! ### Patterns -/

theorem accepts_chars (ending cs : List Char) : accepts (ending.map .char) cs = decide (cs = ending) := by
  induction ending generalizing cs with
  | nil => cases cs <;> simp [accepts]
  | cons d ending ih =>
    cases cs with
    | nil => simp [accepts]
    | cons c cs =>
      rw [List.map_cons, accepts, ih, Bool.eq_iff_iff]
      · simp [Item.admits]
      · intro h
        cases h

/-- A star and an ending stand for the texts with that ending. -/
theorem accepts_star (ending cs : List Char) :
    accepts (.star :: ending.map .char) cs = ending.isSuffixOf cs := by
  induction cs with
  | nil =>
    rw [accepts, accepts_chars, Bool.eq_iff_iff, decide_eq_true_eq, List.isSuffixOf_iff_suffix,
      List.suffix_nil, eq_comm]
  | cons c cs ih =>
    rw [accepts, accepts_chars, ih, Bool.eq_iff_iff, Bool.or_eq_true, decide_eq_true_eq,
      List.isSuffixOf_iff_suffix, List.isSuffixOf_iff_suffix, List.suffix_cons_iff, eq_comm]

end Glob

/-! ### Paths without special characters -/

namespace Path

theorem mem_of_mem_splitSlash {cs part : List Char} (h : part ∈ splitSlash cs) : ∀ c ∈ part, c ∈ cs := by
  induction cs generalizing part with
  | nil =>
    rw [splitSlash, List.mem_singleton] at h
    simp [h]
  | cons d cs ih =>
    rw [splitSlash] at h
    split at h
    · rcases List.mem_cons.mp h with rfl | h
      · simp
      · exact fun c hc => List.mem_cons_of_mem _ (ih h c hc)
    · split at h
      · rw [List.mem_singleton.mp h]
        simp
      · rename_i first parts hparts
        rcases List.mem_cons.mp h with rfl | h
        · intro c hc
          rcases List.mem_cons.mp hc with rfl | hc
          · simp
          · exact List.mem_cons_of_mem _ (ih (by simp [hparts]) c hc)
        · exact fun c hc => List.mem_cons_of_mem _ (ih (by simp [hparts, h]) c hc)

/-- Every character of a part of a path stands in its text. -/
theorem mem_of_mem_parse {text part : String} (h : part ∈ (parse text).parts) :
    ∀ c ∈ part.toList, c ∈ text.toList := by
  unfold parse at h
  split at h
  · cases h
  · rename_i cs hcs
    obtain ⟨w, hw, rfl⟩ := List.mem_map.mp h
    intro c hc
    rw [String.toList_ofList] at hc
    rw [hcs]
    exact List.mem_cons_of_mem _ (mem_of_mem_splitSlash hw c hc)
  · obtain ⟨w, hw, rfl⟩ := List.mem_map.mp h
    intro c hc
    rw [String.toList_ofList] at hc
    exact mem_of_mem_splitSlash hw c hc

theorem mem_of_mem_push {rooted : Bool} {done : List String} {part p : String}
    (h : p ∈ push rooted done part) : p ∈ done ∨ p = part := by
  unfold push at h
  split at h
  · exact .inl h
  · split at h
    · rename_i hup
      split at h
      · split at h
        · cases h
        · exact .inr ((List.mem_singleton.mp h).trans hup.symm)
      · split at h
        · rcases List.mem_cons.mp h with rfl | h
          · exact .inr hup.symm
          · exact .inl h
        · exact .inl (List.mem_cons_of_mem _ h)
    · rcases List.mem_cons.mp h with rfl | h
      · exact .inr rfl
      · exact .inl h

theorem mem_of_mem_foldl_push {rooted : Bool} {done : List String} {p : String} {parts : List String}
    (h : p ∈ parts.foldl (push rooted) done) : p ∈ done ∨ p ∈ parts := by
  induction parts generalizing done with
  | nil => exact .inl h
  | cons first parts ih =>
    rcases ih h with h | h
    · rcases mem_of_mem_push h with h | rfl
      · exact .inl h
      · exact .inr (by simp)
    · exact .inr (List.mem_cons_of_mem _ h)

/-- Cleaning adds no part. -/
theorem mem_of_mem_clean {p : Path} {part : String} (h : part ∈ p.clean.parts) : part ∈ p.parts := by
  rw [clean, List.mem_reverse] at h
  simpa using mem_of_mem_foldl_push h

end Path

theorem Glob.hasSpecial_of_mem_parse {text part : String} (h : part ∈ (Path.parse text).clean.parts)
    (htext : hasSpecial text = false) : hasSpecial part = false := by
  unfold hasSpecial at htext ⊢
  rw [List.any_eq_false] at htext ⊢
  exact fun c hc => htext c (Path.mem_of_mem_parse (Path.mem_of_mem_clean h) c hc)

/-! ### Listing -/

namespace Files

/-- The names of a directory in order; a file has none. -/
def sortedNames (files : Files) (p : Path) : List String :=
  match files.find p with
  | .ok entry => entry.names.mergeSort fun a b => decide (a ≤ b)
  | .error _ => []

/-- A pattern below a path without special characters stands for the members of one directory. -/
theorem glob_child (files : Files) {p : Path} {part : String} {pattern : List Glob.Item}
    (hp : ∀ part ∈ p.parts, Glob.hasSpecial part = false) (hpart : Glob.hasSpecial part = true)
    (hparse : Glob.parse part = some pattern) :
    files.glob (p.child part) =
      some (((files.sortedNames p).filter fun name => Glob.accepts pattern name.toList).map p.child) := by
  have hplain : (p.child part).parts.takeWhile (!Glob.hasSpecial ·) = p.parts := by
    rw [Path.child, List.takeWhile_append_of_pos (by simpa using hp)]
    simp [hpart]
  have hspecial : (p.child part).parts.dropWhile (!Glob.hasSpecial ·) = [part] := by
    rw [Path.child, List.dropWhile_append_of_pos (by simpa using hp)]
    simp [hpart]
  have hfrom : files.globFrom p [pattern] =
      ((files.sortedNames p).filter fun name => Glob.accepts pattern name.toList).map p.child := by
    unfold globFrom sortedNames
    cases files.find p with
    | error e => rfl
    | ok entry =>
      cases entry with
      | file text => simp [Entry.names]
      | directory members =>
        simp only [globFrom]
        exact List.map_eq_flatMap.symm
  unfold glob
  simp only [hplain, hspecial]
  simp [hparse, ← hfrom, Path.child]

end Files

end SqlOutline
