import SqlOutline.Proofs.Piece.Levels

/-!
# `CASE` and `END` are brackets

Folding looks for the `END` of one `CASE` after the other, counting those between, and folds the inside of
what it finds in the same way.  What comes of it is the matching of brackets with one stack: every `END`
closes the latest `CASE` that is open.

* `Piece.outerLeaves` : the tokens of a level that stand in no deeper parenthesis;
* `Piece.caseGroups` : the `CASE` groups of a level, in the order of their ends;
* `closedCases` : the matching with a stack;
* `closedCasesFrom_append`, `closedCasesFrom_unclosed` : what is closed in itself, and a `CASE` that is never
  closed;
* `bounds_foldCases` : folding makes the matched pairs into groups;
* `Statement.levels` : the levels of a statement;
* `caseGroups_of_parse` : the main result.
-/

namespace SqlOutline

namespace Piece

/-! ### What stands on a level -/

mutual

/-- The tokens at and below a piece that stand in no parenthesis. -/
def outerLeaves : Piece → List Token
  | leaf t => [t]
  | group kind _ _ members => if kind = .parenthesis then [] else outerLeavesOf members

/-- The tokens at and below a list of pieces that stand in no parenthesis. -/
def outerLeavesOf : List Piece → List Token
  | [] => []
  | p :: ps => p.outerLeaves ++ outerLeavesOf ps

end

mutual

/-- The `CASE` groups at and below a piece that stand in no parenthesis, in the order of their ends. -/
def caseGroups : Piece → List Piece
  | leaf _ => []
  | group kind text pos members =>
    if kind = .parenthesis then []
    else if kind = .caseExpression then caseGroupsOf members ++ [group kind text pos members]
    else caseGroupsOf members

/-- The `CASE` groups at and below a list of pieces that stand in no parenthesis, in the order of their
ends. -/
def caseGroupsOf : List Piece → List Piece
  | [] => []
  | p :: ps => p.caseGroups ++ caseGroupsOf ps

end

theorem outerLeavesOf_eq_flatMap (ps : List Piece) : outerLeavesOf ps = ps.flatMap outerLeaves := by
  induction ps with
  | nil => simp [outerLeavesOf]
  | cons p ps ih => rw [outerLeavesOf, ih, List.flatMap_cons]

theorem caseGroupsOf_eq_flatMap (ps : List Piece) : caseGroupsOf ps = ps.flatMap caseGroups := by
  induction ps with
  | nil => simp [caseGroupsOf]
  | cons p ps ih => rw [caseGroupsOf, ih, List.flatMap_cons]

theorem outerLeavesOf_append (ps qs : List Piece) :
    outerLeavesOf (ps ++ qs) = outerLeavesOf ps ++ outerLeavesOf qs := by
  rw [outerLeavesOf_eq_flatMap, List.flatMap_append, ← outerLeavesOf_eq_flatMap, ← outerLeavesOf_eq_flatMap]

theorem outerLeavesOf_leaf (t : Token) (ps : List Piece) :
    outerLeavesOf (.leaf t :: ps) = t :: outerLeavesOf ps := by
  simp [outerLeavesOf, outerLeaves]

/-- The first and the last member of a group. -/
def bounds (p : Piece) : Option Piece × Option Piece := (p.members.head?, p.members.getLast?)

/-- The pair of pieces that a pair of tokens is. -/
def leafPair (pair : Token × Token) : Option Piece × Option Piece :=
  (some (.leaf pair.1), some (.leaf pair.2))

end Piece

/-! ### Matching with a stack -/

/-- The pairs of a `CASE` and its `END` among the rest of some tokens, in the order of the `END`s.  The
`CASE`s that are still open come latest first; an `END` closes the latest one. -/
def closedCasesFrom : (opened : List Token) → List Token → List (Token × Token)
  | _, [] => []
  | opened, t :: ts =>
    if t.lexClass = .keyword .CASE then closedCasesFrom (t :: opened) ts
    else if t.lexClass = .keyword .END then
      match opened with
      | [] => closedCasesFrom [] ts
      | c :: opened => (c, t) :: closedCasesFrom opened ts
    else closedCasesFrom opened ts

/-- The pairs of a `CASE` and its `END`. -/
def closedCases (ts : List Token) : List (Token × Token) := closedCasesFrom [] ts

variable {t c e : Token} {ts opened below : List Token}

theorem closedCasesFrom_case (h : t.lexClass = .keyword .CASE) :
    closedCasesFrom opened (t :: ts) = closedCasesFrom (t :: opened) ts := by
  cases opened <;> simp [closedCasesFrom, h]

theorem closedCasesFrom_end (h : t.lexClass = .keyword .END) :
    closedCasesFrom (c :: opened) (t :: ts) = (c, t) :: closedCasesFrom opened ts := by
  simp [closedCasesFrom, h]

theorem closedCasesFrom_end_nil (h : t.lexClass = .keyword .END) :
    closedCasesFrom [] (t :: ts) = closedCasesFrom [] ts := by
  simp [closedCasesFrom, h]

theorem closedCasesFrom_other (hc : t.lexClass ≠ .keyword .CASE) (he : t.lexClass ≠ .keyword .END) :
    closedCasesFrom opened (t :: ts) = closedCasesFrom opened ts := by
  cases opened <;> simp [closedCasesFrom, hc, he]

/-- Matching does not see the marks of wildcards. -/
theorem closedCasesFrom_unmark (opened ts : List Token) :
    closedCasesFrom opened (ts.map unmark) = closedCasesFrom opened ts := by
  induction ts generalizing opened with
  | nil => rfl
  | cons t ts ih =>
    by_cases hwild : t.lexClass = .wildcard
    · have hstar : (unmark t).lexClass = .star := by rw [unmark, if_pos hwild]
      rw [List.map_cons, closedCasesFrom_other (by simp [hstar]) (by simp [hstar]), ih,
        closedCasesFrom_other (by simp [hwild]) (by simp [hwild])]
    · rw [List.map_cons, unmark, if_neg hwild]
      by_cases hc : t.lexClass = .keyword .CASE
      · rw [closedCasesFrom_case hc, ih, closedCasesFrom_case hc]
      · by_cases he : t.lexClass = .keyword .END
        · cases opened with
          | nil => rw [closedCasesFrom_end_nil he, ih, closedCasesFrom_end_nil he]
          | cons c opened => rw [closedCasesFrom_end he, ih, closedCasesFrom_end he]
        · rw [closedCasesFrom_other hc he, ih, closedCasesFrom_other hc he]

namespace Rules

open Piece

variable {p : Piece} {ps body : List Piece} {n : Nat}

/-! ### Pieces of a level before the rules -/

/-- A token or a parenthesis. -/
def IsPlain (p : Piece) : Prop := (∃ t, p = .leaf t) ∨ p.kind? = some .parenthesis

theorem outerLeaves_paren (hp : p.kind? = some .parenthesis) : p.outerLeaves = [] := by
  cases p with
  | leaf t => cases hp
  | group kind text pos members =>
    obtain rfl : kind = .parenthesis := Option.some.inj hp
    rw [outerLeaves, if_pos rfl]

theorem caseGroups_plain (hp : IsPlain p) : p.caseGroups = [] := by
  rcases hp with ⟨t, rfl⟩ | hp
  · rw [caseGroups]
  · cases p with
    | leaf t => rw [caseGroups]
    | group kind text pos members =>
      obtain rfl : kind = .parenthesis := Option.some.inj hp
      rw [caseGroups, if_pos rfl]

/-- A piece of a level is a `CASE`, an `END` or nothing that the matching sees. -/
theorem plain_cases (hp : IsPlain p) :
    (∃ t, p = .leaf t ∧ t.lexClass = .keyword .CASE ∧ p.isLeaf (.keyword .CASE) = true) ∨
    (∃ t, p = .leaf t ∧ t.lexClass = .keyword .END ∧ p.isLeaf (.keyword .CASE) ≠ true ∧
      p.isLeaf (.keyword .END) = true) ∨
    (p.isLeaf (.keyword .CASE) ≠ true ∧ p.isLeaf (.keyword .END) ≠ true ∧
      ∀ opened ts, closedCasesFrom opened (p.outerLeaves ++ ts) = closedCasesFrom opened ts) := by
  rcases hp with ⟨t, rfl⟩ | hp
  · by_cases hc : t.lexClass = .keyword .CASE
    · exact .inl ⟨t, rfl, hc, by simp [isLeaf, lexClass?, hc]⟩
    · by_cases he : t.lexClass = .keyword .END
      · exact .inr (.inl ⟨t, rfl, he, by simp [isLeaf, lexClass?, he], by simp [isLeaf, lexClass?, he]⟩)
      · refine .inr (.inr ⟨by simp [isLeaf, lexClass?, hc], by simp [isLeaf, lexClass?, he], ?_⟩)
        intro opened ts
        rw [outerLeaves, List.singleton_append, closedCasesFrom_other hc he]
  · have hleaf : ∀ k, p.isLeaf k ≠ true := by
      intro k h
      obtain ⟨t, rfl, -⟩ := exists_of_isLeaf h
      cases hp
    exact .inr (.inr ⟨hleaf _, hleaf _, fun opened ts => by rw [outerLeaves_paren hp, List.nil_append]⟩)

/-! ### What is closed, and what never is -/

/-- Pieces that close all of the open `CASE`s close no others. -/
theorem closedCasesFrom_append (hps : ∀ p ∈ body, IsPlain p) (h : closesCases n body = true)
    (hopened : opened.length = n) (rest : List Token) :
    closedCasesFrom (opened ++ below) (outerLeavesOf body ++ rest) =
      closedCasesFrom opened (outerLeavesOf body) ++ closedCasesFrom below rest := by
  -- the number of open `CASE`s is the height of the stack above `below`
  induction body generalizing n opened with
  | nil =>
    obtain rfl : n = 0 := by simpa [closesCases] using h
    obtain rfl := List.length_eq_zero_iff.mp hopened
    simp [outerLeavesOf, closedCasesFrom]
  | cons p ps ih =>
    rw [List.forall_mem_cons] at hps
    rcases plain_cases hps.1 with ⟨t, rfl, ht, hc⟩ | ⟨t, rfl, ht, hc, he⟩ | ⟨hc, he, hskip⟩
    · rw [closesCases_case hc] at h
      rw [outerLeavesOf_leaf, List.cons_append, closedCasesFrom_case ht, closedCasesFrom_case ht]
      have hlength : (t :: opened).length = n + 1 := by rw [List.length_cons, hopened]
      exact ih hps.2 h hlength
    · cases opened with
      | nil =>
        obtain rfl : n = 0 := hopened.symm
        rw [(closesCases_end (n := 0) hc he).1] at h
        cases h
      | cons c opened =>
        obtain rfl : n = opened.length + 1 := hopened.symm
        rw [(closesCases_end hc he).2] at h
        rw [outerLeavesOf_leaf, List.cons_append, List.cons_append, closedCasesFrom_end ht,
          closedCasesFrom_end ht, List.cons_append, ih hps.2 h rfl]
    · rw [closesCases_other hc he] at h
      rw [outerLeavesOf, List.append_assoc, hskip, hskip]
      exact ih hps.2 h hopened

/-- Where no `END` is found for a `CASE`, no `END` closes it. -/
theorem closedCasesFrom_unclosed (hps : ∀ p ∈ ps, IsPlain p) (h : splitAtEnd (n + 1) ps = none)
    (hopened : opened.length = n) :
    closedCasesFrom (opened ++ below) (outerLeavesOf ps) = closedCasesFrom opened (outerLeavesOf ps) := by
  induction ps generalizing n opened with
  | nil => simp [outerLeavesOf, closedCasesFrom]
  | cons p ps ih =>
    rw [List.forall_mem_cons] at hps
    rcases plain_cases hps.1 with ⟨t, rfl, ht, hc⟩ | ⟨t, rfl, ht, hc, he⟩ | ⟨hc, he, hskip⟩
    · rw [splitAtEnd_case hc, Option.map_eq_none_iff] at h
      rw [outerLeavesOf_leaf, closedCasesFrom_case ht, closedCasesFrom_case ht]
      have hlength : (t :: opened).length = n + 1 := by rw [List.length_cons, hopened]
      exact ih hps.2 h hlength
    · cases opened with
      | nil =>
        obtain rfl : n = 0 := hopened.symm
        rw [splitAtEnd_end hc he] at h
        cases h
      | cons c opened =>
        obtain rfl : n = opened.length + 1 := hopened.symm
        rw [splitAtEnd_inner_end hc he, Option.map_eq_none_iff] at h
        rw [outerLeavesOf_leaf, List.cons_append, closedCasesFrom_end ht, closedCasesFrom_end ht,
          ih hps.2 h rfl]
    · rw [splitAtEnd_other hc he, Option.map_eq_none_iff] at h
      rw [outerLeavesOf, hskip, hskip]
      exact ih hps.2 h hopened

/-! ### Folding -/

theorem seesThrough_caseBounds {kind : GroupKind} (hparen : kind ≠ .parenthesis)
    (hcase : kind ≠ .caseExpression) : SeesThrough (fun p => p.caseGroups.map bounds) kind := by
  intro text pos members
  show (caseGroups (group kind text pos members)).map bounds = _
  rw [caseGroups, if_neg hparen, if_neg hcase, caseGroupsOf_eq_flatMap, List.map_flatMap]

theorem seesThrough_outerLeaves {kind : GroupKind} (hparen : kind ≠ .parenthesis) :
    SeesThrough (fun p => p.outerLeaves.map unmark) kind := by
  intro text pos members
  show (outerLeaves (group kind text pos members)).map unmark = _
  rw [outerLeaves, if_neg hparen, outerLeavesOf_eq_flatMap, List.map_flatMap]

/-- The rules of a level leave the `CASE` groups as they are. -/
theorem bounds_applyRules (ps : List Piece) :
    (caseGroupsOf (applyRules ps)).map bounds = (caseGroupsOf ps).map bounds := by
  have hsees : ∀ kind ∈ [GroupKind.function, .identifier, .operation, .comparison, .identifierList,
      .whereClause], SeesThrough (fun p => p.caseGroups.map bounds) kind := by
    intro kind hkind
    refine seesThrough_caseBounds ?_ ?_ <;> (rintro rfl; simp at hkind)
  have hall := flatMap_applyRules_eq hsees (fun t _ => by simp only [caseGroups]) ps
  rwa [← List.map_flatMap, ← List.map_flatMap, ← caseGroupsOf_eq_flatMap, ← caseGroupsOf_eq_flatMap] at hall

/-- The `CASE` groups of a `CASE` group are those of its inside, and the group itself. -/
theorem bounds_caseExpression (c e : Token) (ps : List Piece) :
    (caseGroups (ofMembers .caseExpression (.leaf c :: ps ++ [.leaf e]))).map bounds =
      (caseGroupsOf ps).map bounds ++ [leafPair (c, e)] := by
  have hends : caseGroupsOf (.leaf c :: ps ++ [.leaf e]) = caseGroupsOf ps := by
    simp [caseGroupsOf_eq_flatMap, caseGroups]
  have hlast : (Piece.leaf c :: ps ++ [Piece.leaf e]).getLast? = some (.leaf e) := List.getLast?_concat
  rw [ofMembers, caseGroups, if_neg (by decide), if_pos rfl, hends, List.map_append, List.map_singleton,
    bounds, Piece.members, hlast]
  rfl

/-- Folding makes the pairs of `CASE` and `END` into groups. -/
theorem bounds_foldCases (hps : ∀ p ∈ ps, IsPlain p) :
    (caseGroupsOf (foldCases ps)).map bounds = (closedCases (outerLeavesOf ps)).map leafPair := by
  fun_induction foldCases ps with
  | case1 => simp [caseGroupsOf, outerLeavesOf, closedCases, closedCasesFrom]
  | case2 p ps hp body last rest hsplit ihbody ihrest =>
    obtain ⟨c, rfl, hc⟩ := exists_of_isLeaf hp
    obtain ⟨hcloses, hlast⟩ := closesCases_of_splitAtEnd hsplit
    obtain ⟨e, rfl, he⟩ := exists_of_isLeaf hlast
    rw [splitAtEnd_append hsplit] at hps ⊢
    have hbody : ∀ p ∈ body, IsPlain p := fun p hp => hps p (by simp [hp])
    have hrest : ∀ p ∈ rest, IsPlain p := fun p hp => hps p (by simp [hp])
    -- the `CASE` is the one that the `END` behind the body closes
    have hmatch : closedCases (outerLeavesOf (.leaf c :: (body ++ .leaf e :: rest))) =
        closedCases (outerLeavesOf body) ++ (c, e) :: closedCases (outerLeavesOf rest) := by
      have happend : closedCasesFrom ([] ++ [c]) (outerLeavesOf body ++ e :: outerLeavesOf rest) =
          closedCases (outerLeavesOf body) ++ closedCasesFrom [c] (e :: outerLeavesOf rest) :=
        closedCasesFrom_append hbody hcloses rfl _
      rw [List.nil_append, closedCasesFrom_end he] at happend
      rw [closedCases, outerLeavesOf_leaf, closedCasesFrom_case hc, outerLeavesOf_append, outerLeavesOf_leaf]
      exact happend
    rw [caseGroupsOf, List.map_append, bounds_caseExpression, bounds_applyRules, ihbody hbody, ihrest hrest,
      hmatch, List.map_append, List.map_cons, List.append_assoc, List.singleton_append]
  | case3 p ps hp hnone ih =>
    obtain ⟨c, rfl, hc⟩ := exists_of_isLeaf hp
    rw [List.forall_mem_cons] at hps
    have hunclosed : closedCasesFrom ([] ++ [c]) (outerLeavesOf ps) = closedCases (outerLeavesOf ps) :=
      closedCasesFrom_unclosed hps.2 hnone rfl
    rw [List.nil_append] at hunclosed
    rw [caseGroupsOf, caseGroups_plain hps.1, List.nil_append, ih hps.2, ← hunclosed, closedCases,
      outerLeavesOf_leaf, closedCasesFrom_case hc]
  | case4 p ps hp ih =>
    rw [List.forall_mem_cons] at hps
    rw [caseGroupsOf, caseGroups_plain hps.1, List.nil_append, ih hps.2, closedCases, closedCases]
    rcases plain_cases hps.1 with ⟨t, rfl, -, hc⟩ | ⟨t, rfl, ht, -, -⟩ | ⟨-, -, hskip⟩
    · exact absurd hc hp
    · rw [outerLeavesOf_leaf, closedCasesFrom_end_nil ht]
    · rw [outerLeavesOf, hskip]

/-- A level keeps its tokens, apart from the marking of wildcards. -/
theorem outerLeaves_groupLevel (ps : List Piece) :
    (outerLeavesOf (groupLevel ps)).map unmark = (outerLeavesOf ps).map unmark := by
  have hmark : ∀ t : Token, t.lexClass = .star →
      (outerLeaves (.leaf { t with lexClass := .wildcard })).map unmark = (outerLeaves (.leaf t)).map unmark := by
    intro t ht
    obtain ⟨lexClass, text, pos⟩ := t
    obtain rfl : lexClass = .star := ht
    rfl
  have hall := flatMap_groupLevel (fun _ => seesThrough_outerLeaves) hmark ps
  rwa [← List.map_flatMap, ← List.map_flatMap, ← outerLeavesOf_eq_flatMap, ← outerLeavesOf_eq_flatMap]
    at hall

/-- The `CASE` groups of a level are the matched pairs among its tokens. -/
theorem bounds_groupLevel (hps : ∀ p ∈ ps, IsPlain p) :
    (caseGroupsOf (groupLevel ps)).map bounds =
      (closedCases (outerLeavesOf (groupLevel ps))).map leafPair := by
  have hmatch : closedCases (outerLeavesOf (groupLevel ps)) = closedCases (outerLeavesOf ps) := by
    rw [closedCases, ← closedCasesFrom_unmark, outerLeaves_groupLevel, closedCasesFrom_unmark, closedCases]
  rw [hmatch, ← bounds_foldCases hps, groupLevel, bounds_applyRules]

end Rules

/-! ### All levels -/

namespace Piece

mutual

/-- A `CASE` group stands on the level of a piece or on that of a parenthesis in it. -/
theorem mem_caseGroups_of_mem_parts : (p : Piece) → ∀ {g : Piece}, g ∈ p.parts →
    g.kind? = some .caseExpression → g ∈ p.caseGroups ∨
      ∃ q ∈ p.parts, q.kind? = some .parenthesis ∧ g ∈ caseGroupsOf q.members
  | leaf t, g, hg, hkind => by
    rw [kind?_of_mem_parts_leaf hg] at hkind
    cases hkind
  | group kind text pos members, g, hg, hkind => by
    rw [parts] at hg ⊢
    rcases List.mem_cons.mp hg with rfl | hg
    · obtain rfl : kind = .caseExpression := Option.some.inj hkind
      rw [caseGroups, if_neg (by decide), if_pos rfl]
      exact .inl (by simp)
    · rcases mem_caseGroupsOf_of_mem_partsOf members hg hkind with hg | ⟨q, hq, hparen, hg⟩
      · by_cases hparen : kind = .parenthesis
        · exact .inr ⟨_, List.mem_cons_self, congrArg some hparen, hg⟩
        · rw [caseGroups, if_neg hparen]
          split
          · exact .inl (List.mem_append_left _ hg)
          · exact .inl hg
      · exact .inr ⟨q, List.mem_cons_of_mem _ hq, hparen, hg⟩

theorem mem_caseGroupsOf_of_mem_partsOf : (ps : List Piece) → ∀ {g : Piece}, g ∈ partsOf ps →
    g.kind? = some .caseExpression → g ∈ caseGroupsOf ps ∨
      ∃ q ∈ partsOf ps, q.kind? = some .parenthesis ∧ g ∈ caseGroupsOf q.members
  | [], g, hg, _ => by simp [partsOf] at hg
  | p :: ps, g, hg, hkind => by
    rw [partsOf] at hg ⊢
    rw [caseGroupsOf]
    rcases List.mem_append.mp hg with hg | hg
    · rcases mem_caseGroups_of_mem_parts p hg hkind with hg | ⟨q, hq, hparen, hg⟩
      · exact .inl (List.mem_append_left _ hg)
      · exact .inr ⟨q, List.mem_append_left _ hq, hparen, hg⟩
    · rcases mem_caseGroupsOf_of_mem_partsOf ps hg hkind with hg | ⟨q, hq, hparen, hg⟩
      · exact .inl (List.mem_append_right _ hg)
      · exact .inr ⟨q, List.mem_append_right _ hq, hparen, hg⟩

end

end Piece

namespace Statement

open Piece Rules

/-- The levels of a statement: its pieces, and for every parenthesis the pieces inside it. -/
def levels (s : Statement) : List (List Piece) :=
  s.pieces :: ((partsOf s.pieces).filter (·.kind? == some .parenthesis)).map (·.members.tail.dropLast)

variable {sql : String} {statements : List Statement} {s : Statement} {ts : List Token} {ps : List Piece}

theorem Nested.isPlain (h : Nested ts ps) : ∀ p ∈ ps, IsPlain p := by
  induction h with
  | nil => simp
  | plain _ _ _ ih => exact List.forall_mem_cons.mpr ⟨.inl ⟨_, rfl⟩, ih⟩
  | paren _ _ _ _ _ ih => exact List.forall_mem_cons.mpr ⟨.inr rfl, ih⟩

theorem exists_plain_of_nest (h : nest ts = .ok ps) :
    ∃ inner, (∀ p ∈ inner, IsPlain p) ∧ ps = groupLevel inner := by
  obtain ⟨inner, hinner, rfl⟩ := (nest_eq_ok_iff ts ps).mp h
  exact ⟨inner, hinner.isPlain, rfl⟩

/-- Every level is made from tokens and parentheses. -/
theorem exists_plain_of_mem_levels (h : parse sql = .ok statements) (hs : s ∈ statements)
    {level : List Piece} (hlevel : level ∈ s.levels) :
    ∃ inner, (∀ p ∈ inner, IsPlain p) ∧ level = groupLevel inner := by
  rcases List.mem_cons.mp hlevel with rfl | hlevel
  · obtain ⟨_, -, hnested⟩ := nest_of_parse h
    obtain ⟨chunk, -, hnest⟩ := exists_chunk_of_mem hnested hs
    exact exists_plain_of_nest hnest
  · obtain ⟨p, hp, rfl⟩ := List.mem_map.mp hlevel
    obtain ⟨hp, hkind⟩ := List.mem_filter.mp hp
    obtain ⟨_, -, henclosed⟩ := enclosed_of_parse h hs hp (by simpa using hkind)
    obtain @⟨o, c, body, pieces, -, -, -, hnest⟩ := henclosed
    have hinside : (ofMembers .parenthesis (.leaf o :: pieces ++ [.leaf c])).members.tail.dropLast =
        pieces := by simp [ofMembers, members]
    rw [hinside]
    exact exists_plain_of_nest hnest

/-- Every `CASE` group stands on one of the levels. -/
theorem exists_level_of_caseGroup (h : parse sql = .ok statements) (hs : s ∈ statements) {g : Piece}
    (hg : g ∈ partsOf s.pieces) (hkind : g.kind? = some .caseExpression) :
    ∃ level ∈ s.levels, g ∈ caseGroupsOf level := by
  rcases mem_caseGroupsOf_of_mem_partsOf s.pieces hg hkind with hg | ⟨q, hq, hparen, hg⟩
  · exact ⟨s.pieces, List.mem_cons_self, hg⟩
  · refine ⟨q.members.tail.dropLast, List.mem_cons_of_mem _ (List.mem_map.mpr ⟨q, ?_, rfl⟩), ?_⟩
    · exact List.mem_filter.mpr ⟨hq, by simp [hparen]⟩
    · obtain ⟨_, -, henclosed⟩ := enclosed_of_parse h hs hq hparen
      obtain @⟨o, c, body, pieces, -, -, -, -⟩ := henclosed
      simpa [ofMembers, members, caseGroupsOf_eq_flatMap, caseGroups] using hg

/-- **`CASE` and `END` are brackets.**  On every level of every statement of a text, the groups around
`CASE` and `END` are, in the order of their ends, those that match these two like brackets: first and last
member are an `END` and the latest `CASE` open at it, and what is left open or closes nothing is in no such
group.  There are no such groups besides those of the levels. -/
theorem caseGroups_of_parse (sql : String) (statements : List Statement) (h : parse sql = .ok statements) :
    ∀ s ∈ statements,
      (∀ level ∈ s.levels,
        (caseGroupsOf level).map bounds = (closedCases (outerLeavesOf level)).map leafPair) ∧
      ∀ g ∈ partsOf s.pieces, g.kind? = some .caseExpression → ∃ level ∈ s.levels, g ∈ caseGroupsOf level := by
  intro s hs
  refine ⟨fun level hlevel => ?_, fun g hg hkind => exists_level_of_caseGroup h hs hg hkind⟩
  obtain ⟨inner, hinner, rfl⟩ := exists_plain_of_mem_levels h hs hlevel
  exact bounds_groupLevel hinner

theorem caseGroups_of_parse_interleaved :
    ∃ statements, parse "case (end case * end) case end end, case" = .ok statements ∧
      statements.map (·.levels.map fun level => (closedCases (outerLeavesOf level)).map fun pair =>
        (pair.1.pos.offset, pair.2.pos.offset)) = [[[(22, 27), (0, 31)], [(10, 17)]]] ∧
      ∀ s ∈ statements,
        (∀ level ∈ s.levels,
          (caseGroupsOf level).map bounds = (closedCases (outerLeavesOf level)).map leafPair) ∧
        ∀ g ∈ partsOf s.pieces, g.kind? = some .caseExpression →
          ∃ level ∈ s.levels, g ∈ caseGroupsOf level := by
  have hpairs : (parse "case (end case * end) case end end, case").toOption.map
      (·.map (·.levels.map fun level => (closedCases (outerLeavesOf level)).map fun pair =>
        (pair.1.pos.offset, pair.2.pos.offset))) = some [[[(22, 27), (0, 31)], [(10, 17)]]] := by
    decide +kernel
  cases hparse : parse "case (end case * end) case end end, case" with
  | error e =>
    rw [hparse] at hpairs
    cases hpairs
  | ok statements =>
    rw [hparse] at hpairs
    exact ⟨statements, rfl, Option.some.inj hpairs, caseGroups_of_parse _ statements hparse⟩

end Statement

end SqlOutline
