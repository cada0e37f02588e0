import SqlOutline.Piece.Basic

/-!
# Regrouping

Grouping turns a list of pieces into another list over the same tokens.

* `Piece.WellFormed` : every group below a piece is made of something, and its text and place are those of
  the tokens below it;
* `unmark` : a token without the mark of a wildcard;
* `Regroups` : the second list has the tokens of the first one, apart from the marking of wildcards, and is
  well-formed if the first one is;
* `Regroups.trans`, `Regroups.append`, `Regroups.wrap` : what regroupings are built from.
-/

namespace SqlOutline

namespace Piece

@[simp] theorem leavesOf_nil : leavesOf [] = [] := by simp [leavesOf]

@[simp] theorem leavesOf_cons (p : Piece) (ps : List Piece) :
    leavesOf (p :: ps) = p.leaves ++ leavesOf ps := by simp [leavesOf]

@[simp] theorem leaves_leaf (t : Token) : (leaf t).leaves = [t] := by simp [leaves]

@[simp] theorem leaves_group (kind : GroupKind) (text : String) (pos : Position) (members : List Piece) :
    (group kind text pos members).leaves = leavesOf members := by simp [leaves]

@[simp] theorem leavesOf_append (ps qs : List Piece) :
    leavesOf (ps ++ qs) = leavesOf ps ++ leavesOf qs := by
  induction ps with
  | nil => rfl
  | cons p ps ih => simp [ih]

/-- What holds of the pieces of a level and of the brackets around it holds of all of them. -/
theorem forall_mem_bracket {P : Piece → Prop} {o c : Piece} {ps : List Piece} (ho : P o)
    (h : ∀ p ∈ ps, P p) (hc : P c) : ∀ p ∈ o :: ps ++ [c], P p := by
  rw [List.cons_append, List.forall_mem_cons, List.forall_mem_append, List.forall_mem_singleton]
  exact ⟨ho, h, hc⟩

/-! ### Well-formed pieces -/

/-- The text of a list of tokens. -/
def sourceText (ts : List Token) : String := String.join (ts.map (·.text))

theorem sourceText_append (ts us : List Token) :
    sourceText (ts ++ us) = sourceText ts ++ sourceText us := by
  apply String.toList_inj.mp
  simp [sourceText, String.toList_join]

/-- Every group below the piece has members, and its text and place are those of the tokens below it. -/
inductive WellFormed : Piece → Prop
  | leaf (t : Token) : WellFormed (leaf t)
  | group {kind : GroupKind} {text : String} {pos : Position} {members : List Piece} : members ≠ [] →
      text = sourceText (leavesOf members) → (leavesOf members).head?.map (·.pos) = some pos →
      (∀ p ∈ members, WellFormed p) → WellFormed (group kind text pos members)

variable {p : Piece} {ps : List Piece}

theorem WellFormed.text_eq (h : p.WellFormed) : p.text = sourceText p.leaves := by
  cases h with
  | leaf t => simp [text, sourceText]
  | group _ htext _ _ => simpa [text] using htext

theorem WellFormed.pos_eq (h : p.WellFormed) : p.leaves.head?.map (·.pos) = some p.pos := by
  cases h with
  | leaf t => simp [pos]
  | group _ _ hpos _ => simpa [pos] using hpos

theorem WellFormed.members (h : p.WellFormed) : ∀ q ∈ p.members, q.WellFormed := by
  cases h with
  | leaf t => simp [Piece.members]
  | group _ _ _ hmembers => exact hmembers

theorem joinText_eq (h : ∀ p ∈ ps, p.WellFormed) : joinText ps = sourceText (leavesOf ps) := by
  induction ps with
  | nil => rfl
  | cons p ps ih =>
    have hhead : joinText (p :: ps) = p.text ++ joinText ps := by
      apply String.toList_inj.mp
      simp [joinText, String.toList_join]
    rw [hhead, leavesOf_cons, sourceText_append, ih fun q hq => h q (by simp [hq]),
      (h p (by simp)).text_eq]

/-- A group made of well-formed pieces is well-formed. -/
theorem wellFormed_ofMembers {kind : GroupKind} (hne : ps ≠ []) (h : ∀ p ∈ ps, p.WellFormed) :
    (ofMembers kind ps).WellFormed := by
  refine .group hne (joinText_eq h) ?_ h
  cases ps with
  | nil => exact absurd rfl hne
  | cons p ps =>
    have hpos := (h p (by simp)).pos_eq
    cases hl : p.leaves with
    | nil =>
      rw [hl] at hpos
      cases hpos
    | cons t ts =>
      rw [hl] at hpos
      simpa [hl] using hpos

end Piece

open Piece

/-! ### Regrouping -/

/-- A token without the mark of a wildcard. -/
def unmark (t : Token) : Token :=
  if t.lexClass = .wildcard then { t with lexClass := .star } else t

theorem text_unmark (t : Token) : (unmark t).text = t.text := by
  unfold unmark
  split
  · rfl
  · rfl

theorem sourceText_map_unmark (ts : List Token) : sourceText (ts.map unmark) = sourceText ts := by
  unfold sourceText
  rw [List.map_map]
  congr 1
  exact List.map_congr_left fun t _ => text_unmark t

/-- The second list has the tokens of the first one, apart from the marking of wildcards, and is
well-formed if the first one is. -/
structure Regroups (ps qs : List Piece) : Prop where
  tokens : (leavesOf qs).map unmark = (leavesOf ps).map unmark
  wellFormed : (∀ p ∈ ps, p.WellFormed) → ∀ q ∈ qs, q.WellFormed

namespace Regroups

variable {ps qs rs ps' qs' : List Piece}

theorem refl (ps : List Piece) : Regroups ps ps := ⟨rfl, id⟩

theorem trans (h : Regroups ps qs) (h' : Regroups qs rs) : Regroups ps rs :=
  ⟨h'.tokens.trans h.tokens, fun hps => h'.wellFormed (h.wellFormed hps)⟩

theorem append (h : Regroups ps qs) (h' : Regroups ps' qs') : Regroups (ps ++ ps') (qs ++ qs') := by
  constructor
  · rw [leavesOf_append, leavesOf_append, List.map_append, List.map_append, h.tokens, h'.tokens]
  · intro hps q hq
    rcases List.mem_append.mp hq with hq | hq
    · exact h.wellFormed (fun p hp => hps p (List.mem_append_left _ hp)) q hq
    · exact h'.wellFormed (fun p hp => hps p (List.mem_append_right _ hp)) q hq

theorem cons (p : Piece) (h : Regroups ps qs) : Regroups (p :: ps) (p :: qs) :=
  (refl [p]).append h

/-- Pieces may be put into one group. -/
theorem wrap {kind : GroupKind} (h : Regroups ps qs) (hne : qs ≠ []) :
    Regroups ps [ofMembers kind qs] := by
  constructor
  · simpa [ofMembers] using h.tokens
  · intro hps q hq
    rw [List.mem_singleton.mp hq]
    exact wellFormed_ofMembers hne (h.wellFormed hps)

/-- A group may be replaced by its members. -/
theorem unwrap (kind : GroupKind) (text : String) (pos : Position) (members : List Piece) :
    Regroups [.group kind text pos members] members := by
  constructor
  · simp
  · intro hps
    exact (hps _ (List.mem_singleton.mpr rfl)).members

/-- A star may be marked as a wildcard. -/
theorem mark {t : Token} (h : t.lexClass = .star) :
    Regroups [.leaf t] [.leaf { t with lexClass := .wildcard }] := by
  constructor
  · obtain ⟨lexClass, text, pos⟩ := t
    obtain rfl : lexClass = .star := h
    rfl
  · intro _ q hq
    rw [List.mem_singleton.mp hq]
    exact .leaf _

end Regroups

end SqlOutline
