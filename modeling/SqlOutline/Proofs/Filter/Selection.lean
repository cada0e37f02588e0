import Mathlib.Data.List.Forall2
import SqlOutline.Filter.Basic

/-!
# Selection is a filtered walk

A filter goes through a tree with a recursion of its own, in which it evaluates its program on a node,
then goes through the children, and gives up at the first node without a truth value.

* `known` : what a program is told of a node; `Program.fault?`, `Program.holds`, `Program.selected` : a program
  on a list of nodes;
* `Outline.paths` : the paths to the nodes of a tree in pre-order; `pairwise_paths`, `mem_paths_iff` : this
  is the lexicographic order of all paths that lead to a node;
* `forall₂_walk`, `max?_walk` : a walk follows the paths, down to the lowest level;
* `selectFrom_eq` : the recursion of the filter;
* `selectBy_eq_selected_walk` : the main result.
-/

namespace SqlOutline

/-! ### Paths -/

namespace Outline

variable {path : List Int}

mutual

/-- The paths to the nodes of a tree in pre-order. -/
def paths : Outline → List (List Int)
  | node _ children => [] :: pathsFrom 0 children

/-- The paths to the nodes of some trees, which are children of one node from the given number on. -/
def pathsFrom (i : Nat) : List Outline → List (List Int)
  | [] => []
  | o :: os => o.paths.map (Int.ofNat i :: ·) ++ pathsFrom (i + 1) os

end

theorem exists_of_mem_pathsFrom {i : Nat} {os : List Outline} (h : path ∈ pathsFrom i os) :
    ∃ n rest, i ≤ n ∧ path = Int.ofNat n :: rest := by
  induction os generalizing i with
  | nil => simp [pathsFrom] at h
  | cons o os ih =>
    rw [pathsFrom] at h
    rcases List.mem_append.mp h with h | h
    · obtain ⟨rest, -, rfl⟩ := List.mem_map.mp h
      exact ⟨i, rest, Nat.le_refl i, rfl⟩
    · obtain ⟨n, rest, hn, rfl⟩ := ih h
      exact ⟨n, rest, Nat.le_of_succ_le hn, rfl⟩

mutual

/-- The paths stand in lexicographic order. -/
theorem pairwise_paths : (o : Outline) → o.paths.Pairwise (· < ·)
  | node _ children => by
    rw [paths, List.pairwise_cons]
    refine ⟨fun path hpath => ?_, pairwise_pathsFrom 0 children⟩
    obtain ⟨n, rest, -, rfl⟩ := exists_of_mem_pathsFrom hpath
    exact List.nil_lt_cons _ _

theorem pairwise_pathsFrom (i : Nat) : (os : List Outline) → (pathsFrom i os).Pairwise (· < ·)
  | [] => .nil
  | o :: os => by
    rw [pathsFrom, List.pairwise_append]
    refine ⟨?_, pairwise_pathsFrom (i + 1) os, fun path hpath path' hpath' => ?_⟩
    · rw [List.pairwise_map]
      exact (pairwise_paths o).imp fun hlt => List.cons_lt_cons_iff.mpr (.inr ⟨rfl, hlt⟩)
    · obtain ⟨rest, -, rfl⟩ := List.mem_map.mp hpath
      obtain ⟨n, rest', hn, rfl⟩ := exists_of_mem_pathsFrom hpath'
      exact List.cons_lt_cons_iff.mpr (.inl (Int.ofNat_lt.mpr hn))

end

mutual

/-- A walk follows the paths, and the level of a node is the length of its path. -/
theorem forall₂_walk (level : Nat) : (o : Outline) →
    List.Forall₂ (fun path x => o.at? path = some x.2 ∧ x.1 = level + path.length) o.paths (o.walk level)
  | node label children => by
    rw [paths, walk]
    exact .cons ⟨rfl, rfl⟩ (forall₂_walkAll label level [] children)

theorem forall₂_walkAll (label : Option Label) (level : Nat) : (before os : List Outline) →
    List.Forall₂ (fun path x => (node label (before ++ os)).at? path = some x.2 ∧
      x.1 = level + path.length) (pathsFrom before.length os) (walkAll (level + 1) os)
  | before, [] => .nil
  | before, o :: os => by
    rw [pathsFrom, walkAll]
    refine List.rel_append ?_ ?_
    · rw [List.forall₂_map_left_iff]
      refine (forall₂_walk (level + 1) o).imp fun path x hx => ⟨?_, ?_⟩
      · have hchild : (node label (before ++ o :: os)).child? (Int.ofNat before.length) = some o := by
          simp [child?, children]
        rw [at?, hchild]
        exact hx.1
      · rw [hx.2, List.length_cons]
        omega
    · have htail := forall₂_walkAll label level (before ++ [o]) os
      rw [List.append_assoc, List.length_append] at htail
      exact htail

end

theorem mem_pathsFrom {c : Outline} (hpath : path ∈ c.paths) {os : List Outline} {n : Nat}
    (hc : os[n]? = some c) (i : Nat) : Int.ofNat (i + n) :: path ∈ pathsFrom i os := by
  induction os generalizing n i with
  | nil => simp at hc
  | cons o os ih =>
    rw [pathsFrom]
    cases n with
    | zero =>
      obtain rfl : o = c := by simpa using hc
      exact List.mem_append_left _ (List.mem_map_of_mem hpath)
    | succ n =>
      have htail := ih (by simpa using hc) (i + 1)
      rw [Nat.add_right_comm] at htail
      exact List.mem_append_right _ htail

/-- The paths are all those that lead to a node. -/
theorem mem_paths_iff {o : Outline} : path ∈ o.paths ↔ (o.at? path).isSome := by
  constructor
  · intro h
    obtain ⟨i, hi, rfl⟩ := List.mem_iff_getElem.mp h
    have hwalk := forall₂_walk 0 o
    have hfound : o.at? o.paths[i] = _ := (hwalk.get hi (hwalk.length_eq ▸ hi)).1
    rw [hfound]
    rfl
  · intro h
    induction path generalizing o with
    | nil =>
      cases o
      rw [paths]
      exact List.mem_cons_self
    | cons n path ih =>
      obtain ⟨label, children⟩ := o
      cases n with
      | negSucc n => simp [at?, child?] at h
      | ofNat n =>
        cases hc : children[n]? with
        | none => simp [at?, child?, Outline.children, hc] at h
        | some c =>
          have hpath : path ∈ c.paths := ih (by simpa [at?, child?, Outline.children, hc] using h)
          have hmem := mem_pathsFrom hpath hc 0
          rw [Nat.zero_add] at hmem
          rw [paths]
          exact List.mem_cons_of_mem _ hmem

/-! ### Levels -/

mutual

theorem lt_of_mem_walk (level : Nat) : (o : Outline) → ∀ x ∈ o.walk level, x.1 < level + o.depth
  | node label children => by
    intro x hx
    rw [walk] at hx
    rw [depth]
    rcases List.mem_cons.mp hx with rfl | hx
    · omega
    · have := lt_of_mem_walkAll (level + 1) children x hx
      omega

theorem lt_of_mem_walkAll (level : Nat) : (os : List Outline) →
    ∀ x ∈ walkAll level os, x.1 < level + depthOf os
  | [] => by simp [walkAll]
  | o :: os => by
    intro x hx
    rw [walkAll] at hx
    rw [depthOf]
    rcases List.mem_append.mp hx with hx | hx
    · have := lt_of_mem_walk level o x hx
      omega
    · have := lt_of_mem_walkAll level os x hx
      omega

end

mutual

theorem exists_mem_walk (level : Nat) : (o : Outline) → ∃ x ∈ o.walk level, x.1 + 1 = level + o.depth
  | node label [] => ⟨_, List.mem_cons_self, rfl⟩
  | node label (c :: cs) => by
    obtain ⟨x, hx, hlevel⟩ := exists_mem_walkAll (level + 1) (c :: cs) (List.cons_ne_nil c cs)
    rw [walk, depth]
    exact ⟨x, List.mem_cons_of_mem _ hx, by omega⟩

theorem exists_mem_walkAll (level : Nat) : (os : List Outline) → os ≠ [] →
    ∃ x ∈ walkAll level os, x.1 + 1 = level + depthOf os
  | [], h => absurd rfl h
  | o :: os, _ => by
    rw [walkAll, depthOf]
    rcases Nat.lt_or_ge o.depth (depthOf os) with hlt | hle
    · have hne : os ≠ [] := by
        rintro rfl
        exact absurd hlt (Nat.not_lt_zero _)
      obtain ⟨x, hx, hlevel⟩ := exists_mem_walkAll level os hne
      exact ⟨x, List.mem_append_right _ hx, by omega⟩
    · obtain ⟨x, hx, hlevel⟩ := exists_mem_walk level o
      exact ⟨x, List.mem_append_left _ hx, by omega⟩

end

/-- The lowest level of a walk is that of the deepest nodes. -/
theorem max?_walk (o : Outline) : ((o.walk 0).map (·.1)).max? = some (o.depth - 1) := by
  have hlt := lt_of_mem_walk 0 o
  obtain ⟨x, hx, hlevel⟩ := exists_mem_walk 0 o
  refine List.max?_eq_some_iff.mpr ⟨?_, fun level hmem => ?_⟩
  · have hdepth : x.1 = o.depth - 1 := by omega
    rw [← hdepth]
    exact List.mem_map_of_mem hx
  · obtain ⟨y, hy, rfl⟩ := List.mem_map.mp hmem
    have := hlt y hy
    omega

end Outline

namespace Filter

open Outline

/-! ### Programs on lists of nodes -/

variable {p : Program} {x : Nat × Outline} {e : SelectError}

/-- What a program is told of a node with its distance from the root.  A node without a label is structural,
has no kind and no text, and is no group. -/
def known : Nat × Outline → Facts
  | (level, .node none children) =>
    { kind := "", text := "", isGroup := false, structural := true, level, children := children.length }
  | (level, .node (some label) children) =>
    { kind := label.kind.tag, text := label.text, isGroup := label.kind.isGroup, structural := false, level,
      children := children.length }

theorem facts_of_eq (x : Nat × Outline) : Facts.of x.1 x.2 = known x := by
  obtain ⟨level, label, children⟩ := x
  cases label with
  | none => rfl
  | some label => rfl

/-- Why a program has no truth value on a node with its distance from the root, if it has none. -/
def Program.fault? (p : Program) (x : Nat × Outline) : Option SelectError :=
  match p (known x) with
  | .ok (.bool _) => none
  | .ok v => some (.notBoolean v)
  | .error e => some (.evaluation e)

/-- Whether a program is true on a node with its distance from the root. -/
def Program.holds (p : Program) (x : Nat × Outline) : Bool :=
  match p (known x) with
  | .ok (.bool b) => b
  | _ => false

/-- What a program selects from a list of nodes: those on which it is true, in their order, provided that it
has a truth value on all of them, and else the error of the first node on which it has none. -/
def Program.selected (p : Program) (xs : List (Nat × Outline)) : Except SelectError (List (Nat × Outline)) :=
  match xs.findSome? p.fault? with
  | some e => .error e
  | none => .ok (xs.filter p.holds)

theorem test_eq (p : Program) (x : Nat × Outline) :
    p.test x.1 x.2 = (p.fault? x).elim (.ok (p.holds x)) .error := by
  unfold Program.test Program.fault? Program.holds
  rw [facts_of_eq]
  cases p (known x) with
  | error e => rfl
  | ok v => cases v <;> rfl

theorem selected_cons_of_fault (h : p.fault? x = some e) (xs : List (Nat × Outline)) :
    p.selected (x :: xs) = .error e := by
  rw [Program.selected, List.findSome?_cons, h]

theorem selected_cons_of_no_fault (h : p.fault? x = none) (xs : List (Nat × Outline)) :
    p.selected (x :: xs) = (p.selected xs).map fun found => if p.holds x then x :: found else found := by
  rw [Program.selected, Program.selected, List.findSome?_cons, h, List.filter_cons]
  cases xs.findSome? p.fault? <;> rfl

theorem selected_append (p : Program) (xs ys : List (Nat × Outline)) :
    p.selected (xs ++ ys) = (p.selected xs).bind fun found => (p.selected ys).map (found ++ ·) := by
  rw [Program.selected, Program.selected, Program.selected, List.findSome?_append, List.filter_append]
  cases xs.findSome? p.fault? with
  | some e => rfl
  | none => cases ys.findSome? p.fault? <;> rfl

/-! ### The recursion of the filter -/

mutual

/-- A filter selects from the nodes of a walk. -/
theorem selectFrom_eq (p : Program) (level : Nat) : (o : Outline) →
    selectFrom p level o = p.selected (o.walk level)
  | .node label children => by
    have htest := test_eq p (level, .node label children)
    rw [selectFrom, walk, selectAll_eq p (level + 1) children]
    cases hfault : p.fault? (level, .node label children) with
    | some e =>
      rw [hfault, Option.elim_some] at htest
      rw [htest, selected_cons_of_fault hfault]
    | none =>
      rw [hfault, Option.elim_none] at htest
      rw [htest, selected_cons_of_no_fault hfault]
      cases p.selected (walkAll (level + 1) children) <;> rfl

theorem selectAll_eq (p : Program) (level : Nat) : (os : List Outline) →
    selectAll p level os = p.selected (walkAll level os)
  | [] => rfl
  | o :: os => by
    rw [selectAll, walkAll, selectFrom_eq p level o, selectAll_eq p level os, selected_append]
    cases p.selected (o.walk level) with
    | error e => rfl
    | ok found => cases p.selected (walkAll level os) <;> rfl

end

/-- **Selection is the filtered walk.**  A program selects from the nodes of a tree in pre-order, each with
the length of the path that leads to it.  The lowest level among them is the depth of the tree, less one. -/
theorem selectBy_eq_selected_walk (p : Program) (o : Outline) :
    selectBy p o = p.selected (o.walk 0) ∧ (o.walk 0).map (·.2) = o.nodes ∧
    List.Forall₂ (fun path x => o.at? path = some x.2 ∧ x.1 = path.length) o.paths (o.walk 0) ∧
    o.paths.Pairwise (· < ·) ∧ (∀ path, path ∈ o.paths ↔ (o.at? path).isSome) ∧
    ((o.walk 0).map (·.1)).max? = some (o.depth - 1) := by
  refine ⟨selectFrom_eq p 0 o, rfl, ?_, pairwise_paths o, fun _ => mem_paths_iff, max?_walk o⟩
  exact (forall₂_walk 0 o).imp fun path x hx => ⟨hx.1, hx.2.trans (Nat.zero_add _)⟩

end Filter

end SqlOutline
