import SqlOutline.Proofs.Piece.Sites
import SqlOutline.Proofs.Piece.Standalone

/-!
# What the rules leave alone

A rule puts groups of a kind around pieces and opens groups of that kind.  What sees through groups of the
kind is the same before and after it.  And what holds of every level follows from what holds of its pieces.

* `flatMap_replaceAll`, `flatMap_foldWhere`, `flatMap_markWildcardsFrom` : single rules;
* `flatMap_applyRules`, `flatMap_applyRules_eq`, `flatMap_groupLevel` : all rules of a level;
* `LevelInvariant` : a property of pieces, and a property of levels that the rules make of it;
* `LevelInvariant.of_parse` : the property holds of the outermost level of a statement.
-/

namespace SqlOutline

open Piece Pattern

namespace Rules

variable {α : Type} {f : Piece → List α} {kind : GroupKind} {ps : List Piece}

/-! ### Readings that see through groups -/

theorem flatMap_merge (hf : SeesThrough f kind) (ps : List Piece) : f (merge kind ps) = ps.flatMap f := by
  unfold merge
  split
  · rename_i first text pos members next rest
    split
    · rename_i hsame
      obtain rfl := hsame.1
      rw [ofMembers, hf, List.flatMap_append, ← hf text pos members, ← List.flatMap_cons]
    · exact hf _ _ _
  · exact hf _ _ _

/-- A rule changes nothing of what sees through the groups that it builds. -/
theorem flatMap_replaceAll (hf : SeesThrough f kind) (pattern : Pattern) (ps : List Piece) :
    (pattern.replaceAll (merge kind) ps).flatMap f = ps.flatMap f := by
  fun_induction replaceAll pattern (merge kind) ps with
  | case1 => rfl
  | case2 p ps n _ ih =>
    have hsplit : p :: ps = (p :: ps.take n) ++ ps.drop n := by simp
    rw [List.flatMap_cons, flatMap_merge hf, ih, ← List.flatMap_append, ← hsplit]
  | case3 p ps _ ih => rw [List.flatMap_cons, ih, List.flatMap_cons]

theorem flatMap_foldWhere (hf : SeesThrough f .whereClause) (ps : List Piece) :
    (foldWhere ps).flatMap f = ps.flatMap f := by
  fun_induction foldWhere ps with
  | case1 => rfl
  | case2 p ps _ ih =>
    have hsplit : p :: ps = (p :: ps.takeWhile (!endsWhere ·)) ++ ps.dropWhile (!endsWhere ·) := by
      rw [List.cons_append, List.takeWhile_append_dropWhile]
    rw [List.flatMap_cons, ofMembers, hf, ih, ← List.flatMap_append, ← hsplit]
  | case3 p ps _ ih => rw [List.flatMap_cons, ih, List.flatMap_cons]

/-- Marking wildcards changes nothing of what does not tell a wildcard from a star. -/
theorem flatMap_markWildcardsFrom
    (hf : ∀ t : Token, t.lexClass = .star → f (.leaf { t with lexClass := .wildcard }) = f (.leaf t))
    (previous : Option Piece) (ps : List Piece) :
    (markWildcardsFrom previous ps).flatMap f = ps.flatMap f := by
  induction ps generalizing previous with
  | nil => rfl
  | cons p ps ih =>
    unfold markWildcardsFrom
    split
    · rw [List.flatMap_cons, ih, List.flatMap_cons]
    · dsimp only
      rw [List.flatMap_cons, ih, List.flatMap_cons]
      congr 1
      split
      · split
        · rename_i hstar
          exact hf _ hstar.1
        · rfl
      · rfl

/-- The rules of a level change nothing but function calls and wildcards of what sees through the groups of
the other rules. -/
theorem flatMap_applyRules
    (hf : ∀ kind ∈ [GroupKind.identifier, .operation, .comparison, .identifierList, .whereClause],
      SeesThrough f kind) (ps : List Piece) :
    (applyRules ps).flatMap f =
      (functionCall.replaceAll (merge .function) (markWildcards ps)).flatMap f := by
  have hname : SeesThrough f .identifier := hf _ (by decide)
  unfold applyRules
  rw [flatMap_foldWhere (hf _ (by decide)), flatMap_replaceAll (hf _ (by decide)) itemList,
    flatMap_replaceAll hname aliased, flatMap_replaceAll (hf _ (by decide)) Rules.comparison,
    flatMap_replaceAll (hf _ (by decide)) Rules.operation, flatMap_replaceAll hname qualifiedName]

/-- The rules of a level change nothing of what sees through the groups of all of them. -/
theorem flatMap_applyRules_eq
    (hf : ∀ kind ∈ [GroupKind.function, .identifier, .operation, .comparison, .identifierList,
      .whereClause], SeesThrough f kind)
    (hmark : ∀ t : Token, t.lexClass = .star → f (.leaf { t with lexClass := .wildcard }) = f (.leaf t))
    (ps : List Piece) : (applyRules ps).flatMap f = ps.flatMap f := by
  rw [flatMap_applyRules fun kind hkind => hf kind (List.mem_cons_of_mem _ hkind),
    flatMap_replaceAll (hf _ (by decide)), markWildcards, flatMap_markWildcardsFrom hmark]

/-- Folding a level changes nothing of what sees through all groups but parentheses. -/
theorem flatMap_groupLevel (hf : ∀ kind : GroupKind, kind ≠ .parenthesis → SeesThrough f kind)
    (hmark : ∀ t : Token, t.lexClass = .star → f (.leaf { t with lexClass := .wildcard }) = f (.leaf t))
    (ps : List Piece) : (groupLevel ps).flatMap f = ps.flatMap f := by
  have hrules : ∀ qs : List Piece, (applyRules qs).flatMap f = qs.flatMap f := by
    refine flatMap_applyRules_eq (fun kind hkind => hf kind ?_) hmark
    rintro rfl
    simp at hkind
  have hfold : (foldCases ps).flatMap f = ps.flatMap f := by
    fun_induction foldCases ps with
    | case1 => rfl
    | case2 p ps _ body last rest hsplit ihbody ihrest =>
      rw [List.flatMap_cons, ofMembers, hf .caseExpression (by decide), List.flatMap_append,
        List.flatMap_cons, hrules, ihbody, ihrest, splitAtEnd_append hsplit]
      simp
    | case3 p ps _ _ ih => rw [List.flatMap_cons, ih, List.flatMap_cons]
    | case4 p ps _ ih => rw [List.flatMap_cons, ih, List.flatMap_cons]
  rw [groupLevel, hrules, hfold]

end Rules

/-! ### Levels -/

theorem Piece.exists_of_isLeaf {p : Piece} {k : LexClass} (h : p.isLeaf k = true) :
    ∃ t, p = .leaf t ∧ t.lexClass = k := by
  cases p with
  | leaf t => exact ⟨t, rfl, by simpa [isLeaf, lexClass?] using h⟩
  | group kind text pos members => cases h

/-- A property of the pieces that the rules of a level start from, and a property of what the rules make of
such pieces, in which case they are kept when a `CASE` group or a parenthesis is put around it. -/
structure LevelInvariant (P : Piece → Prop) (L : List Piece → Prop) : Prop where
  leaf : ∀ {t : Token}, t.lexClass ≠ .openParen → t.lexClass ≠ .closeParen → t.lexClass ≠ .wildcard →
    P (.leaf t)
  rules : ∀ {ps : List Piece}, (∀ p ∈ ps, P p) → L (Rules.applyRules ps)
  caseExpression : ∀ {c e : Token} {body : List Piece}, c.lexClass = .keyword .CASE →
    e.lexClass = .keyword .END → L body → P (ofMembers .caseExpression (.leaf c :: body ++ [.leaf e]))
  parenthesis : ∀ {o c : Token} {inner : List Piece}, o.lexClass = .openParen →
    c.lexClass = .closeParen → L inner → P (ofMembers .parenthesis (.leaf o :: inner ++ [.leaf c]))

namespace LevelInvariant

open Rules Statement

variable {P : Piece → Prop} {L : List Piece → Prop} {ps : List Piece} {ts : List Token}

theorem foldCases (hI : LevelInvariant P L) (h : ∀ p ∈ ps, P p) : ∀ q ∈ foldCases ps, P q := by
  fun_induction Rules.foldCases ps with
  | case1 => simp
  | case2 p ps hp body last rest hsplit ihbody ihrest =>
    obtain ⟨c, rfl, hc⟩ := exists_of_isLeaf hp
    obtain ⟨e, rfl, he⟩ := exists_of_isLeaf (closesCases_of_splitAtEnd hsplit).2
    rw [splitAtEnd_append hsplit] at h
    have hbody := hI.rules (ihbody fun q hq => h q (by simp [hq]))
    exact List.forall_mem_cons.mpr
      ⟨hI.caseExpression hc he hbody, ihrest fun q hq => h q (by simp [hq])⟩
  | case3 p ps _ _ ih =>
    rw [List.forall_mem_cons] at h ⊢
    exact ⟨h.1, ih h.2⟩
  | case4 p ps _ ih =>
    rw [List.forall_mem_cons] at h ⊢
    exact ⟨h.1, ih h.2⟩

theorem groupLevel (hI : LevelInvariant P L) (h : ∀ p ∈ ps, P p) : L (groupLevel ps) :=
  hI.rules (hI.foldCases h)

theorem nested (hI : LevelInvariant P L) (h : Nested ts ps) (hts : ∀ t ∈ ts, t.lexClass ≠ .wildcard) :
    ∀ p ∈ ps, P p := by
  induction h with
  | nil => simp
  | plain ho hc _ ih =>
    rw [List.forall_mem_cons] at hts ⊢
    exact ⟨hI.leaf ho hc hts.1, ih hts.2⟩
  | paren ho hc _ _ ihbody ihts =>
    have hinner := hI.groupLevel (ihbody fun t ht => hts t (by simp [ht]))
    exact List.forall_mem_cons.mpr ⟨hI.parenthesis ho hc hinner, ihts fun t ht => hts t (by simp [ht])⟩

/-- The invariant holds of the outermost level of every statement. -/
theorem of_parse (hI : LevelInvariant P L) {sql : String} {statements : List Statement}
    (h : parse sql = .ok statements) : ∀ s ∈ statements, L s.pieces := by
  obtain ⟨ts, hts, hnested⟩ := nest_of_parse h
  have hshape := Scan.shape_of_lexed (Scan.lexed_of_tokenize hts).1
  intro s hs
  obtain ⟨chunk, hchunk, hnest⟩ := exists_chunk_of_mem hnested hs
  obtain ⟨inner, hinner, hlevel⟩ := (nest_eq_ok_iff chunk s.pieces).mp hnest
  rw [hlevel]
  refine hI.groupLevel (hI.nested hinner fun t ht => ne_wildcard_of_shape (hshape t ?_))
  rw [← flatten_split ts]
  exact List.mem_flatten_of_mem (List.mem_of_mem_filter hchunk) ht

end LevelInvariant

end SqlOutline
