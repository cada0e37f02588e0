import SqlOutline.Proofs.Piece.CaseMatching
import SqlOutline.Proofs.Piece.Grammar
import SqlOutline.Proofs.Piece.Parse

/-!
# Every group has the shape of its kind

The rules run one after the other over lists in which earlier rules have left their groups.  A rule keeps the
groups that it finds, apart from the one that gives another name to a dotted name: that one opens the group
of the name, and no group of a name has been given another name before.

* `Piece.Fits` : a piece with its shape that is no parenthesis;
* `Piece.Unaliased` : such a piece, before names are given other names;
* `fits_applyRules`, `unaliased_foldCases`, `fits_groupLevel` : the rules on one level;
* `fits_nestFrom` : all levels;
* `parse_shaped` : the main result.
-/

namespace SqlOutline

open Pattern

namespace Piece

variable {p : Piece} {ps : List Piece} {kind : GroupKind}

/-- Every group at and below the piece has its shape, and the piece is no parenthesis. -/
structure Fits (p : Piece) : Prop where
  shaped : p.Shaped
  notParen : ¬ p.IsParen

/-- A piece that fits and, if it is a group of a name, is a dotted name only. -/
structure Unaliased (p : Piece) : Prop extends Fits p where
  dotted : p.kind? = some .identifier → DottedName p.members

theorem fits_ofMembers (hshape : HasShape kind ps) (h : ∀ p ∈ ps, p.Fits) :
    (ofMembers kind ps).Fits where
  shaped := .group hshape (fun _ p hp => (h p hp).notParen) fun p hp => (h p hp).shaped
  notParen := Bool.false_ne_true

theorem Fits.members {text : String} {pos : Position} (h : (group kind text pos ps).Fits)
    (hkind : kind ≠ .parenthesis) : ∀ p ∈ ps, p.Fits := by
  cases h.shaped with
  | group _ hparen hmembers => exact fun p hp => ⟨hmembers p hp, hparen hkind p hp⟩

theorem unaliased_ofMembers (h : (ofMembers kind ps).Fits) (hname : kind = .identifier → DottedName ps) :
    (ofMembers kind ps).Unaliased :=
  ⟨h, fun hkind => hname (Option.some.inj hkind)⟩

theorem unaliased_leaf {t : Token} (ho : t.lexClass ≠ .openParen) (hc : t.lexClass ≠ .closeParen) :
    (leaf t).Unaliased where
  shaped := .leaf t
  notParen := by simp [IsParen, isLeafOf, ho, hc]
  dotted h := by cases h

theorem unaliased_parenthesis {o c : Token} (ho : o.lexClass = .openParen) (hc : c.lexClass = .closeParen)
    (h : ∀ p ∈ ps, p.Fits) : (ofMembers .parenthesis (leaf o :: ps ++ [leaf c])).Unaliased := by
  have hmembers : ∀ p ∈ leaf o :: ps ++ [leaf c], p.Shaped :=
    forall_mem_bracket (.leaf o) (fun p hp => (h p hp).shaped) (.leaf c)
  have hshape : HasShape .parenthesis (leaf o :: ps ++ [leaf c]) :=
    .parenthesis (by simp [isLeaf, lexClass?, ho]) (by simp [isLeaf, lexClass?, hc])
      fun p hp => (h p hp).notParen
  refine unaliased_ofMembers ⟨.group hshape (absurd rfl) hmembers, Bool.false_ne_true⟩ fun h => ?_
  cases h

/-! ### First members -/

theorem kind?_of_isLeafOf {classes : List LexClass} (h : p.isLeafOf classes = true) : p.kind? = none := by
  cases p with
  | leaf t => rfl
  | group kind text pos members => cases h

theorem IsGroupOf.mem {kinds : List GroupKind} (h : p.IsGroupOf kinds) (hkind : p.kind? = some kind) :
    kind ∈ kinds := by
  obtain ⟨kind', hmem, hkind'⟩ := h
  obtain rfl : kind' = kind := Option.some.inj (hkind'.symm.trans hkind)
  exact hmem

theorem AliasTail.ne_nil (h : AliasTail ps) : ps ≠ [] := by
  cases h with
  | direction _ _ => simp
  | name _ _ => simp
  | asName hlink =>
    cases hlink with
    | mk _ _ _ _ => simp

end Piece

open Piece

namespace Rules

variable {p : Piece} {ps : List Piece} {kind : GroupKind}

/-! ### Building groups -/

/-- A group is made of the matched pieces and of the members of those of its own kind. -/
theorem exists_merge (kind : GroupKind) (ps : List Piece) : ∃ qs, merge kind ps = ofMembers kind qs ∧
    ∀ q ∈ qs, q ∈ ps ∨ ∃ p ∈ ps, p.kind? = some kind ∧ q ∈ p.members := by
  unfold merge
  split
  · rename_i first text pos members next rest
    split
    · rename_i hsame
      refine ⟨_, rfl, fun q hq => ?_⟩
      rcases List.mem_append.mp hq with hq | hq
      · exact .inr ⟨_, List.mem_cons_self, congrArg some hsame.1, hq⟩
      · exact .inl (List.mem_cons_of_mem _ hq)
    · exact ⟨_, rfl, fun q hq => .inl hq⟩
  · exact ⟨_, rfl, fun q hq => .inl hq⟩

/-- No group is opened where the first piece is of another kind. -/
theorem merge_cons (h : p.kind? = some kind → kind = .operation) :
    merge kind (p :: ps) = ofMembers kind (p :: ps) := by
  cases p with
  | leaf t => rfl
  | group first text pos members =>
    cases ps with
    | nil => rfl
    | cons next rest =>
      have hnot : ¬ (first = kind ∧ kind ≠ .operation) := fun hsame => hsame.2 (h (congrArg some hsame.1))
      rw [merge, if_neg hnot]

theorem merge_leaf_cons {classes : List LexClass} (h : p.isLeafOf classes = true) :
    merge kind (p :: ps) = ofMembers kind (p :: ps) := by
  refine merge_cons fun hkind => ?_
  rw [kind?_of_isLeafOf h] at hkind
  cases hkind

theorem merge_group_cons {kinds : List GroupKind} (h : p.IsGroupOf kinds) (hkind : kind ∉ kinds) :
    merge kind (p :: ps) = ofMembers kind (p :: ps) :=
  merge_cons fun hp => absurd (h.mem hp) hkind

/-- Neither comparisons nor lists are operands. -/
theorem merge_operand_cons (h : p.IsOperand)
    (hkind : kind ∉ [GroupKind.parenthesis, .function, .identifier, .caseExpression, .operation]) :
    merge kind (p :: ps) = ofMembers kind (p :: ps) := by
  rcases h with h | h | h
  · exact merge_leaf_cons h
  · exact merge_leaf_cons h
  · exact merge_group_cons h hkind

/-- No group is opened where the pieces have their shape already. -/
theorem merge_of_hasShape (h : HasShape kind ps) (hname : kind = .identifier → DottedName ps) :
    merge kind ps = ofMembers kind ps := by
  have hidentifier : DottedName ps → merge .identifier ps = ofMembers .identifier ps := by
    rintro ⟨hfirst | hfirst, -⟩
    · exact merge_leaf_cons hfirst
    · exact merge_group_cons hfirst (by decide)
  cases h with
  | dottedName _ => exact hidentifier (hname rfl)
  | dottedAlias _ _ => exact hidentifier (hname rfl)
  | aliased _ _ => exact hidentifier (hname rfl)
  | namedLiteral _ _ => exact hidentifier (hname rfl)
  | operation _ _ => exact merge_cons fun _ => rfl
  | comparison hfirst _ => exact merge_operand_cons hfirst (by decide)
  | identifierList hfirst _ =>
    rcases hfirst with hfirst | hfirst | hfirst
    · exact merge_operand_cons hfirst (by decide)
    · exact merge_leaf_cons ((isLeaf_iff _ _).mpr hfirst)
    · exact merge_group_cons hfirst (by decide)
  | function hfirst _ => exact merge_leaf_cons hfirst
  | parenthesis hfirst _ _ => exact merge_leaf_cons ((isLeaf_iff _ _).mpr hfirst)
  | whereClause hfirst _ => exact merge_leaf_cons ((isLeaf_iff _ _).mpr hfirst)
  | caseExpression hfirst _ _ => exact merge_leaf_cons ((isLeaf_iff _ _).mpr hfirst)

theorem unaliased_merge (hshape : HasShape kind ps) (hname : kind = .identifier → DottedName ps)
    (h : ∀ p ∈ ps, p.Unaliased) : (merge kind ps).Unaliased := by
  rw [merge_of_hasShape hshape hname]
  exact unaliased_ofMembers (fits_ofMembers hshape fun p hp => (h p hp).toFits) hname

/-- Giving another name opens the group of a dotted name. -/
theorem fits_merge_aliased (h : aliased.Matches ps) (hps : ∀ p ∈ ps, p.Unaliased) :
    (merge .identifier ps).Fits := by
  have hfits : ∀ p ∈ ps, p.Fits := fun p hp => (hps p hp).toFits
  obtain ⟨p, tail, rfl, ⟨hp | hp, htail⟩ | ⟨hp, htail⟩⟩ := aliased_cases h
  · have hmerge : merge .identifier (p :: tail) = ofMembers .identifier (p :: tail) := by
      rcases hp with hp | hp
      · exact merge_leaf_cons hp
      · exact merge_group_cons hp (by decide)
    rw [hmerge]
    exact fits_ofMembers (.aliased hp htail) hfits
  · cases p with
    | leaf t =>
      obtain ⟨_, _, hkind⟩ := hp
      cases hkind
    | group first text pos members =>
      obtain rfl : first = .identifier := by simpa using hp.mem rfl
      have hdotted : DottedName members := (hps _ List.mem_cons_self).dotted rfl
      have hmembers : ∀ q ∈ members, q.Fits := (hfits _ List.mem_cons_self).members (by decide)
      obtain ⟨next, rest, rfl⟩ := List.exists_cons_of_ne_nil htail.ne_nil
      rw [merge, if_pos ⟨rfl, by decide⟩]
      refine fits_ofMembers (.dottedAlias hdotted htail) fun q hq => ?_
      rcases List.mem_append.mp hq with hq | hq
      · exact hmembers q hq
      · exact hfits q (List.mem_cons_of_mem _ hq)
  · rw [merge_leaf_cons hp]
    exact fits_ofMembers (.namedLiteral hp htail) hfits

theorem fits_merge_itemList (h : itemList.Matches ps) (hps : ∀ p ∈ ps, p.Fits) :
    (merge .identifierList ps).Fits := by
  have hshape := hasShape_of_itemList h
  rw [merge_of_hasShape hshape fun h => by cases h]
  exact fits_ofMembers hshape hps

/-! ### The rules without a pattern -/

theorem forall_markWildcardsFrom {P : Piece → Prop}
    (hmark : ∀ t : Token, t.lexClass = .star → P (.leaf t) → P (.leaf { t with lexClass := .wildcard }))
    (h : ∀ p ∈ ps, P p) (previous : Option Piece) : ∀ q ∈ markWildcardsFrom previous ps, P q := by
  induction ps generalizing previous with
  | nil => simp [markWildcardsFrom]
  | cons p ps ih =>
    have hrest : ∀ previous, ∀ q ∈ markWildcardsFrom previous ps, P q :=
      ih fun q hq => h q (List.mem_cons_of_mem p hq)
    have hp : P p := h p (by simp)
    unfold markWildcardsFrom
    split
    · intro q hq
      rcases List.mem_cons.mp hq with rfl | hq
      · exact hp
      · exact hrest _ q hq
    · intro q hq
      rcases List.mem_cons.mp hq with rfl | hq
      · split
        · split
          · rename_i hstar
            exact hmark _ hstar.1 hp
          · exact hp
        · exact hp
      · exact hrest _ q hq

theorem forall_foldWhere {P Q : Piece → Prop}
    (hkeep : ∀ p, p.isLeaf (.keyword .WHERE) ≠ true → P p → Q p)
    (hbuild : ∀ w rest, w.isLeaf (.keyword .WHERE) = true → (∀ p ∈ rest, ¬ p.EndsClause) →
      (∀ p ∈ w :: rest, P p) → Q (ofMembers .whereClause (w :: rest)))
    (h : ∀ p ∈ ps, P p) : ∀ q ∈ foldWhere ps, Q q := by
  fun_induction foldWhere ps with
  | case1 => simp
  | case2 w ps hw ih =>
    have hrest : ∀ p ∈ ps.takeWhile (!endsWhere ·), ¬ p.EndsClause := by
      intro p hp hends
      have hnot := List.mem_takeWhile_imp hp
      rw [show endsWhere p = true from hends] at hnot
      cases hnot
    intro q hq
    rcases List.mem_cons.mp hq with rfl | hq
    · refine hbuild w _ hw hrest fun p hp => h p ?_
      exact ((List.takeWhile_sublist _).cons_cons w).subset hp
    · refine ih (fun p hp => h p ?_) q hq
      exact List.mem_cons_of_mem w ((List.dropWhile_sublist _).subset hp)
  | case3 p ps hp ih =>
    rw [List.forall_mem_cons] at h ⊢
    exact ⟨hkeep p hp h.1, ih h.2⟩

/-! ### One level -/

/-- The rules build groups and wildcards only, so they leave no leaf of a class that was not there. -/
theorem not_isLeafOf_applyRules {classes : List LexClass} (hwild : LexClass.wildcard ∉ classes)
    (h : ∀ p ∈ ps, p.isLeafOf classes = false) : ∀ q ∈ applyRules ps, q.isLeafOf classes = false := by
  have hrule : ∀ (pattern : Pattern) (kind : GroupKind) {qs : List Piece},
      (∀ p ∈ qs, p.isLeafOf classes = false) →
      ∀ q ∈ pattern.replaceAll (merge kind) qs, q.isLeafOf classes = false := by
    intro pattern kind qs hqs
    refine forall_replaceAll (fun p hp => hp) (fun matched _ _ => ?_) hqs
    obtain ⟨members, hmembers, -⟩ := exists_merge kind matched
    rw [hmembers]
    rfl
  have hmarked := forall_markWildcardsFrom (fun t _ _ => by simpa [isLeafOf] using hwild) h none
  unfold applyRules
  refine forall_foldWhere (fun _ _ hp => hp) (fun _ _ _ _ _ => rfl) ?_
  exact hrule itemList _ <| hrule aliased _ <| hrule Rules.comparison _ <| hrule Rules.operation _ <|
    hrule qualifiedName _ <| hrule functionCall _ hmarked

theorem unaliased_replaceAll {pattern : Pattern}
    (hshape : ∀ ms, pattern.Matches ms → HasShape kind ms ∧ (kind = .identifier → DottedName ms))
    (h : ∀ p ∈ ps, p.Unaliased) : ∀ q ∈ pattern.replaceAll (merge kind) ps, q.Unaliased := by
  refine forall_replaceAll (fun p hp => hp) (fun ms hms hall => ?_) h
  exact unaliased_merge (hshape ms hms).1 (hshape ms hms).2 hall

theorem fits_applyRules (h : ∀ p ∈ ps, p.Unaliased) : ∀ q ∈ applyRules ps, q.Fits := by
  have hmarked : ∀ q ∈ markWildcards ps, q.Unaliased :=
    forall_markWildcardsFrom (fun _ _ _ => unaliased_leaf (by simp) (by simp)) h none
  have hcalls : ∀ q ∈ functionCall.replaceAll (merge .function) _, q.Unaliased :=
    unaliased_replaceAll (fun _ hm => ⟨hasShape_of_functionCall hm, fun h => by cases h⟩) hmarked
  have hnames : ∀ q ∈ qualifiedName.replaceAll (merge .identifier) _, q.Unaliased :=
    unaliased_replaceAll (fun _ hm => ⟨.dottedName (dottedName_of_qualifiedName hm), fun _ =>
      dottedName_of_qualifiedName hm⟩) hcalls
  have hoperations : ∀ q ∈ Rules.operation.replaceAll (merge .operation) _, q.Unaliased :=
    unaliased_replaceAll (fun _ hm => ⟨hasShape_of_operation hm, fun h => by cases h⟩) hnames
  have hcomparisons : ∀ q ∈ Rules.comparison.replaceAll (merge .comparison) _, q.Unaliased :=
    unaliased_replaceAll (fun _ hm => ⟨hasShape_of_comparison hm, fun h => by cases h⟩) hoperations
  have haliased : ∀ q ∈ aliased.replaceAll (merge .identifier) _, q.Fits :=
    forall_replaceAll (fun _ hp => hp.toFits) (fun _ hm => fits_merge_aliased hm) hcomparisons
  have hlists : ∀ q ∈ itemList.replaceAll (merge .identifierList) _, q.Fits :=
    forall_replaceAll (fun _ hp => hp) (fun _ hm => fits_merge_itemList hm) haliased
  unfold applyRules
  exact forall_foldWhere (fun _ _ hp => hp) (fun _ _ hw hrest => fits_ofMembers (.whereClause hw hrest))
    hlists

theorem unaliased_foldCases (h : ∀ p ∈ ps, p.Unaliased) : ∀ q ∈ foldCases ps, q.Unaliased := by
  fun_induction foldCases ps with
  | case1 => simp
  | case2 c ps hc body last rest hsplit ihbody ihrest =>
    rw [splitAtEnd_append hsplit] at h
    have hbody := ihbody fun p hp => h p (by simp [hp])
    have hrest := ihrest fun p hp => h p (by simp [hp])
    obtain ⟨hcloses, hlast⟩ := closesCases_of_splitAtEnd hsplit
    have hnone := not_isLeafOf_applyRules (by decide) (not_isLeafOf_foldCases hcloses)
    have hshape := HasShape.caseExpression hc hlast hnone
    have hmembers : ∀ p ∈ c :: applyRules (foldCases body) ++ [last], p.Fits :=
      forall_mem_bracket (h c (by simp)).toFits (fits_applyRules hbody) (h last (by simp)).toFits
    intro q hq
    rcases List.mem_cons.mp hq with rfl | hq
    · exact unaliased_ofMembers (fits_ofMembers hshape hmembers) fun h => by cases h
    · exact hrest q hq
  | case3 p ps _ _ ih =>
    rw [List.forall_mem_cons] at h ⊢
    exact ⟨h.1, ih h.2⟩
  | case4 p ps _ ih =>
    rw [List.forall_mem_cons] at h ⊢
    exact ⟨h.1, ih h.2⟩

theorem fits_groupLevel (h : ∀ p ∈ ps, p.Unaliased) : ∀ q ∈ groupLevel ps, q.Fits :=
  fits_applyRules (unaliased_foldCases h)

end Rules

namespace Statement

open Rules

variable {ts : List Token} {stack : List (Token × List Piece)} {level ps : List Piece}

/-! ### All levels -/

/-- The pieces of a nesting fit, if the open levels hold no parentheses and no groups with other names. -/
theorem fits_nestFrom (h : nestFrom stack level ts = .ok ps)
    (hstack : ∀ e ∈ stack, e.1.lexClass = .openParen ∧ ∀ p ∈ e.2, p.Unaliased)
    (hlevel : ∀ p ∈ level, p.Unaliased) : ∀ p ∈ ps, p.Fits := by
  induction ts generalizing stack level with
  | nil =>
    obtain ⟨-, rfl⟩ := nestFrom_nil_ok h
    exact fits_groupLevel fun p hp => hlevel p (List.mem_reverse.mp hp)
  | cons t ts ih =>
    rcases nestFrom_cons_ok h with ⟨ho, hrest⟩ | ⟨hc, opening, outer, below, rfl, hrest⟩ | ⟨ho, hc, hrest⟩
    · exact ih hrest (List.forall_mem_cons.mpr ⟨⟨ho, hlevel⟩, hstack⟩) (by simp)
    · obtain ⟨⟨hopening, houter⟩, hbelow⟩ := List.forall_mem_cons.mp hstack
      have hinner : ∀ p ∈ groupLevel level.reverse, p.Fits :=
        fits_groupLevel fun p hp => hlevel p (List.mem_reverse.mp hp)
      exact ih hrest hbelow (List.forall_mem_cons.mpr ⟨unaliased_parenthesis hopening hc hinner, houter⟩)
    · exact ih hrest hstack (List.forall_mem_cons.mpr ⟨unaliased_leaf ho hc, hlevel⟩)

theorem fits_of_nest {chunks : List (List Token)} {statements : List Statement}
    (h : List.Forall₂ (fun chunk s => nest chunk = .ok s.pieces) chunks statements) :
    ∀ s ∈ statements, ∀ p ∈ s.pieces, p.Fits := by
  induction h with
  | nil => simp
  | cons hnest _ ih =>
    intro s hs
    rcases List.mem_cons.mp hs with rfl | hs
    · exact fits_nestFrom hnest (by simp) (by simp)
    · exact ih s hs

theorem fits_of_parse {sql : String} {statements : List Statement} (h : parse sql = .ok statements)
    {s : Statement} (hs : s ∈ statements) : ∀ p ∈ s.pieces, p.Fits := by
  obtain ⟨_, -, hnested⟩ := nest_of_parse h
  exact fits_of_nest hnested s hs

/-- **Every group has the shape of its kind.**  Each group at any depth of a statement has the members that
its kind calls for, and a parenthesis stands only at the two ends of a parenthesis group. -/
theorem parse_shaped (sql : String) (statements : List Statement) (h : parse sql = .ok statements) :
    ∀ s ∈ statements, ∀ p ∈ s.pieces, p.Shaped ∧ ¬ p.IsParen := by
  intro s hs p hp
  have hfits := fits_of_parse h hs p hp
  exact ⟨hfits.shaped, hfits.notParen⟩

theorem parse_shaped_query :
    ∃ statements, parse "select t.a x, f(1 + 2) from t where case a when b then 2 end > (c) order by d desc" =
        .ok statements ∧
      statements.map (·.pieces.filterMap kind?) = [[.identifierList, .whereClause, .identifier]] ∧
      ∀ s ∈ statements, ∀ p ∈ s.pieces, p.Shaped ∧ ¬ p.IsParen := by
  have hkinds : (parse
      "select t.a x, f(1 + 2) from t where case a when b then 2 end > (c) order by d desc").toOption.map
      (·.map (·.pieces.filterMap kind?)) = some [[.identifierList, .whereClause, .identifier]] := by
    decide +kernel
  cases hparse : parse
      "select t.a x, f(1 + 2) from t where case a when b then 2 end > (c) order by d desc" with
  | error e =>
    rw [hparse] at hkinds
    cases hkinds
  | ok statements =>
    rw [hparse] at hkinds
    exact ⟨statements, rfl, Option.some.inj hkinds, parse_shaped _ statements hparse⟩

end Statement

end SqlOutline
