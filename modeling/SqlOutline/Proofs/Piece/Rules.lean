import SqlOutline.Piece.Rules
import SqlOutline.Proofs.Piece.Regroup

/-!
# The grouping rules regroup

Every rule turns the pieces of a level into a regrouping of them.

* `regroups_replaceAll` : a pattern rule regroups when the piece built for a match regroups the match;
* `regroups_merge` : the groups that are built do so;
* `regroups_markWildcards`, `regroups_foldWhere`, `regroups_foldCases` : the other rules;
* `regroups_groupLevel` : all rules on one level.
-/

namespace SqlOutline

open Piece

/-- A pattern rule regroups when the piece built for a match regroups the match. -/
theorem Pattern.regroups_replaceAll (pattern : Pattern) {build : List Piece → Piece}
    (hbuild : ∀ ps, ps ≠ [] → Regroups ps [build ps]) (ps : List Piece) :
    Regroups ps (pattern.replaceAll build ps) := by
  fun_induction replaceAll pattern build ps with
  | case1 => exact .refl []
  | case2 p ps n _ ih =>
    have hmatch := hbuild (p :: ps.take n) (by simp)
    have hsplit : p :: ps = (p :: ps.take n) ++ ps.drop n := by simp
    rw [hsplit]
    exact hmatch.append ih
  | case3 p ps _ ih => exact .cons p ih

namespace Rules

/-- The group of a match regroups it. -/
theorem regroups_merge (kind : GroupKind) (matched : List Piece) (hne : matched ≠ []) :
    Regroups matched [merge kind matched] := by
  unfold merge
  split
  · rename_i first text pos members next rest
    split
    · have hopen := Regroups.unwrap first text pos members
      have hall : Regroups (.group first text pos members :: next :: rest) (members ++ next :: rest) :=
        hopen.append (.refl _)
      exact hall.wrap (by simp)
    · exact (Regroups.refl _).wrap hne
  · exact (Regroups.refl _).wrap hne

theorem regroups_markWildcardsFrom (previous : Option Piece) (ps : List Piece) :
    Regroups ps (markWildcardsFrom previous ps) := by
  induction ps generalizing previous with
  | nil => exact .refl []
  | cons p ps ih =>
    unfold markWildcardsFrom
    split
    · exact .cons p (ih _)
    · refine Regroups.append (?_ : Regroups [p] [_]) (ih _)
      split
      · split
        · rename_i hstar
          exact .mark hstar.1
        · exact .refl _
      · exact .refl _

theorem regroups_markWildcards (ps : List Piece) : Regroups ps (markWildcards ps) :=
  regroups_markWildcardsFrom none ps

theorem regroups_foldWhere (ps : List Piece) : Regroups ps (foldWhere ps) := by
  fun_induction foldWhere ps with
  | case1 => exact .refl []
  | case2 p ps _ ih =>
    have hclause : Regroups (p :: ps.takeWhile (!endsWhere ·))
        [.ofMembers .whereClause (p :: ps.takeWhile (!endsWhere ·))] := (Regroups.refl _).wrap (by simp)
    have hsplit : p :: ps = (p :: ps.takeWhile (!endsWhere ·)) ++ ps.dropWhile (!endsWhere ·) := by
      rw [List.cons_append, List.takeWhile_append_dropWhile]
    rw [hsplit]
    exact hclause.append ih
  | case3 p ps _ ih => exact .cons p ih

theorem regroups_applyRules (ps : List Piece) : Regroups ps (applyRules ps) := by
  have hrule : ∀ (pattern : Pattern) (kind : GroupKind) (ps : List Piece),
      Regroups ps (pattern.replaceAll (merge kind) ps) := fun pattern kind ps =>
    pattern.regroups_replaceAll (regroups_merge kind) ps
  unfold applyRules
  exact (regroups_markWildcards ps).trans <| (hrule functionCall .function _).trans <|
    (hrule qualifiedName .identifier _).trans <| (hrule Rules.operation .operation _).trans <|
    (hrule Rules.comparison .comparison _).trans <| (hrule aliased .identifier _).trans <|
    (hrule itemList .identifierList _).trans (regroups_foldWhere _)

theorem regroups_foldCases (ps : List Piece) : Regroups ps (foldCases ps) := by
  fun_induction foldCases ps with
  | case1 => exact .refl []
  | case2 p ps _ body last rest hsplit ihbody ihrest =>
    have hinner : Regroups body (applyRules (foldCases body)) := ihbody.trans (regroups_applyRules _)
    have hcase : Regroups (p :: body ++ [last]) (p :: applyRules (foldCases body) ++ [last]) :=
      (Regroups.cons p hinner).append (.refl [last])
    rw [show p :: ps = (p :: body ++ [last]) ++ rest by rw [splitAtEnd_append hsplit]; simp]
    exact (hcase.wrap (by simp)).append ihrest
  | case3 p ps _ _ ih => exact .cons p ih
  | case4 p ps _ ih => exact .cons p ih

/-- The rules of a level regroup it. -/
theorem regroups_groupLevel (ps : List Piece) : Regroups ps (groupLevel ps) :=
  (regroups_foldCases ps).trans (regroups_applyRules _)

end Rules

end SqlOutline
