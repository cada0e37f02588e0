import SqlOutline.Piece.Statement
import SqlOutline.Proofs.Piece.Regroup

/-!
# Where the leaves stand

A leaf of a statement stands among the members of a group, or among the outermost pieces.  What a rule has
done to a leaf can be seen from its siblings there.

* `Site` : a leaf with its siblings; `sitesFrom`, `Statement.sites` : the leaves in source order;
* `map_token_sitesFrom` : these are the tokens below the pieces;
* `Piece.SeesThrough` : what is read off a group of a kind is what is read off its members;
* `Site.LooksAtFirst` : a reading of sites that looks at the siblings of first members only, and these in
  groups of some kinds only; `seesThrough_reading` : it sees through the other groups;
* `reading_bracket` : the reading of a group between two leaves.
-/

namespace SqlOutline

/-- A leaf where it stands. -/
structure Site where
  /-- The leaf. -/
  token : Token
  /-- The kind of the group that the leaf is a member of, nothing on the outermost level. -/
  parent : Option GroupKind
  /-- The pieces before the leaf in that group or level. -/
  before : List Piece
  /-- The pieces behind it. -/
  after : List Piece

namespace Piece

mutual

/-- The leaves at and below a piece that stands in a group of a kind between given siblings. -/
def sites (parent : Option GroupKind) (before after : List Piece) : Piece → List Site
  | leaf t => [⟨t, parent, before, after⟩]
  | group kind _ _ members => sitesFrom (some kind) [] members

/-- The leaves at and below the last pieces of a group of a kind, in source order. -/
def sitesFrom (parent : Option GroupKind) (before : List Piece) : List Piece → List Site
  | [] => []
  | p :: ps => p.sites parent before ps ++ sitesFrom parent (before ++ [p]) ps

end

variable {p : Piece} {ps : List Piece} {parent : Option GroupKind} {before after : List Piece}

mutual

theorem map_token_sites : (parent : Option GroupKind) → (before after : List Piece) → (p : Piece) →
    (p.sites parent before after).map (·.token) = p.leaves
  | _, _, _, leaf t => by simp [sites]
  | _, _, _, group kind _ _ members => by
    rw [sites, leaves_group, map_token_sitesFrom (some kind) [] members]

/-- The sites are those of the tokens below the pieces. -/
theorem map_token_sitesFrom : (parent : Option GroupKind) → (before ps : List Piece) →
    (sitesFrom parent before ps).map (·.token) = leavesOf ps
  | _, _, [] => by simp [sitesFrom]
  | parent, before, p :: ps => by
    rw [sitesFrom, List.map_append, map_token_sites parent before ps p,
      map_token_sitesFrom parent (before ++ [p]) ps, leavesOf_cons]

end

/-! ### Reading pieces -/

/-- What is read off a group of the kind is what is read off its members. -/
def SeesThrough {α : Type} (f : Piece → List α) (kind : GroupKind) : Prop :=
  ∀ text pos members, f (group kind text pos members) = members.flatMap f

theorem leavesOf_eq_flatMap (ps : List Piece) : leavesOf ps = ps.flatMap leaves := by
  induction ps with
  | nil => rfl
  | cons p ps ih => rw [leavesOf_cons, ih, List.flatMap_cons]

theorem seesThrough_leaves (kind : GroupKind) : SeesThrough leaves kind := by
  intro text pos members
  rw [leaves_group, leavesOf_eq_flatMap]

/-- What a reading of sites gives for the leaves below a piece that stands alone. -/
def reading {α : Type} (g : Site → α) (p : Piece) : List α := (p.sites none [] []).map g

theorem reading_leaf {α : Type} (g : Site → α) (t : Token) :
    (leaf t).reading g = [g ⟨t, none, [], []⟩] := by
  simp [reading, sites]

end Piece

open Piece

/-- The reading looks at the siblings of a leaf only if it is the first member of a group of one of the
kinds. -/
def Site.LooksAtFirst {α : Type} (kinds : List GroupKind) (g : Site → α) : Prop :=
  ∀ x : Site, (x.before ≠ [] ∨ ∀ kind ∈ kinds, x.parent ≠ some kind) → g x = g ⟨x.token, none, [], []⟩

namespace Site.LooksAtFirst

variable {α : Type} {kinds : List GroupKind} {g : Site → α} {kind : GroupKind}
  {parent : Option GroupKind} {before : List Piece}

theorem map_sites (hg : LooksAtFirst kinds g) (h : before ≠ [] ∨ ∀ kind ∈ kinds, parent ≠ some kind)
    (after : List Piece) (p : Piece) : (p.sites parent before after).map g = p.reading g := by
  cases p with
  | leaf t =>
    show [g ⟨t, parent, before, after⟩] = [g ⟨t, none, [], []⟩]
    rw [hg ⟨t, parent, before, after⟩ h]
  | group kind text pos members => rfl

theorem map_sitesFrom (hg : LooksAtFirst kinds g) (h : before ≠ [] ∨ ∀ kind ∈ kinds, parent ≠ some kind)
    (ps : List Piece) : (sitesFrom parent before ps).map g = ps.flatMap (reading g) := by
  induction ps generalizing before with
  | nil => simp [sitesFrom]
  | cons p ps ih =>
    have hrest : before ++ [p] ≠ [] ∨ ∀ kind ∈ kinds, parent ≠ some kind := .inl (by simp)
    rw [sitesFrom, List.map_append, hg.map_sites h, ih hrest, List.flatMap_cons]

theorem seesThrough_reading (hg : LooksAtFirst kinds g) (h : kind ∉ kinds) :
    SeesThrough (reading g) kind := by
  intro text pos members
  refine hg.map_sitesFrom (.inr fun k hk heq => h ?_) members
  rwa [Option.some.inj heq]

/-- In a group of one of the kinds the first member is read with its siblings. -/
theorem reading_first (hg : LooksAtFirst kinds g) (text : String) (pos : Position) (t : Token)
    (ps : List Piece) : (group kind text pos (.leaf t :: ps)).reading g =
      g ⟨t, some kind, [], ps⟩ :: ps.flatMap (reading g) := by
  have hrest : (sitesFrom (some kind) [.leaf t] ps).map g = ps.flatMap (reading g) :=
    hg.map_sitesFrom (.inl (by simp)) ps
  rw [← hrest]
  rfl

/-- The reading of a group that a leaf opens and a leaf closes. -/
theorem reading_bracket (hg : LooksAtFirst kinds g) (kind : GroupKind) (o c : Token) (ps : List Piece) :
    (ofMembers kind (.leaf o :: ps ++ [.leaf c])).reading g =
      g ⟨o, some kind, [], ps ++ [.leaf c]⟩ :: (ps.flatMap (reading g) ++ [g ⟨c, none, [], []⟩]) := by
  rw [ofMembers, List.cons_append, hg.reading_first, List.flatMap_append, List.flatMap_singleton,
    reading_leaf]

end Site.LooksAtFirst

namespace Statement

/-- The leaves of a statement in source order, where they stand. -/
def sites (s : Statement) : List Site := sitesFrom none [] s.pieces

theorem map_token_sites (s : Statement) : s.sites.map (·.token) = s.leaves :=
  map_token_sitesFrom none [] s.pieces

/-- What is read off the sites of a statement is what is read off its pieces. -/
theorem map_sites {α : Type} {kinds : List GroupKind} {g : Site → α} (hg : Site.LooksAtFirst kinds g)
    (s : Statement) : s.sites.map g = s.pieces.flatMap (reading g) :=
  hg.map_sitesFrom (.inr (by simp)) s.pieces

end Statement

end SqlOutline
