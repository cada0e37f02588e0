import SqlOutline.Proofs.Piece.Levels

/-!
# Where a `WHERE` clause ends

Clauses are folded last on every level, one behind the other, so what stands behind a clause is what ended
it.  No other rule has a place for the word `WHERE`, and none takes a clause into a group, so no clause is
left open and none goes on too far.

* `Pattern.admits` : whether a pattern has a place for leaves of a class;
* `Piece.ClausesFolded` : the clauses among the members of a group, or on the outermost level;
* `clausesFolded_foldWhere` : folding the clauses of a level;
* `unclaused_merge` : the other rules;
* `levelInvariant_clauses` : so it is on every level;
* `clausesFolded_of_parse` : the main result.
-/

namespace SqlOutline

open Piece Rules

/-! ### The leaves of a match -/

namespace Pattern

/-- Whether the pattern has a place for leaves of the class. -/
def admits (k : LexClass) : Pattern → Bool
  | leafOf classes => classes.contains k
  | groupOf _ => false
  | wordOf _ => k == .identifier || k == .reservedWord
  | seq first second | either first second => first.admits k || second.admits k
  | many item | optional item => item.admits k

/-- What matches a pattern has only leaves for which there is a place. -/
theorem isLeaf_of_matches {pattern : Pattern} {k : LexClass} {ps : List Piece} (hk : pattern.admits k = false)
    (h : pattern.Matches ps) : ∀ p ∈ ps, p.isLeaf k = false := by
  induction pattern generalizing ps with
  | leafOf classes =>
    obtain ⟨p, rfl, hp⟩ := h
    simpa using not_isLeaf_of_isLeafOf hp (by simpa [admits] using hk)
  | groupOf kinds =>
    obtain ⟨p, rfl, _, -, hkind⟩ := h
    cases p with
    | leaf t => cases hkind
    | group kind text pos members => simp [isLeaf, lexClass?]
  | wordOf words =>
    obtain ⟨p, rfl, hp, -⟩ := h
    simpa using not_isLeaf_of_isLeafOf hp (by simpa [admits] using hk)
  | seq first second ihfirst ihsecond =>
    obtain ⟨hfirst, hsecond⟩ := Bool.or_eq_false_iff.mp hk
    obtain ⟨qs, rs, rfl, hqs, hrs⟩ := h
    intro p hp
    rcases List.mem_append.mp hp with hp | hp
    · exact ihfirst hfirst hqs p hp
    · exact ihsecond hsecond hrs p hp
  | either first second ihfirst ihsecond =>
    obtain ⟨hfirst, hsecond⟩ := Bool.or_eq_false_iff.mp hk
    rcases h with h | h
    · exact ihfirst hfirst h
    · exact ihsecond hsecond h
  | many item ih =>
    obtain ⟨items, rfl, hitems⟩ := h
    intro p hp
    obtain ⟨qs, hqs, hmem⟩ := List.mem_flatten.mp hp
    exact ih hk (hitems qs hqs) p hmem
  | optional item ih =>
    rcases h with h | rfl
    · exact ih hk h
    · simp

end Pattern

open Pattern

/-! ### Folded clauses -/

namespace Piece

/-- The clauses among the members of a group, or on the outermost level.  The word stands in clauses only.
A clause stands on the outermost level, in a parenthesis or in a `CASE` group, and what is behind it there
ends a clause or is the last member of the group. -/
structure ClausesFolded (parent : Option GroupKind) (row : List Piece) : Prop where
  word : ∀ p ∈ row, p.isLeaf (.keyword .WHERE) = true → parent = some .whereClause
  place : ∀ p ∈ row, p.kind? = some .whereClause →
    parent ∈ [none, some .parenthesis, some .caseExpression]
  behind : ∀ before w q after, row = before ++ w :: q :: after → w.kind? = some .whereClause →
    q.EndsClause ∨ after = [] ∧ (parent = some .parenthesis ∧ q.isLeaf .closeParen = true ∨
      parent = some .caseExpression ∧ q.isLeaf (.keyword .END) = true)

/-- The clauses of all groups at and below the piece are folded. -/
def ClausesSettled (p : Piece) : Prop := ∀ g ∈ p.parts, ClausesFolded g.kind? g.members

/-- A piece in which the clauses are folded, and which is no clause itself. -/
structure Unclaused (p : Piece) : Prop where
  settled : p.ClausesSettled
  noClause : p.kind? ≠ some .whereClause

variable {p : Piece} {ps : List Piece} {kind : GroupKind} {parent : Option GroupKind}

/-- Without the word and without clauses there is nothing to say. -/
theorem clausesFolded_of_forall
    (h : ∀ p ∈ ps, p.isLeaf (.keyword .WHERE) = true → parent = some .whereClause)
    (hplain : ∀ p ∈ ps, p.kind? ≠ some .whereClause) : ClausesFolded parent ps where
  word := h
  place p hp hclause := absurd hclause (hplain p hp)
  behind before w q after heq hclause := absurd hclause (hplain w (by simp [heq]))

theorem clausesSettled_leaf (t : Token) : (leaf t).ClausesSettled := by
  intro g hg
  rw [parts, List.mem_singleton] at hg
  subst hg
  exact clausesFolded_of_forall (by simp [members]) (by simp [members])

theorem clausesSettled_ofMembers (hrow : ClausesFolded (some kind) ps) (h : ∀ p ∈ ps, p.ClausesSettled) :
    (ofMembers kind ps).ClausesSettled := by
  intro g hg
  rw [ofMembers, parts] at hg
  rcases List.mem_cons.mp hg with rfl | hg
  · exact hrow
  · obtain ⟨p, hp, hgp⟩ := mem_partsOf.mp hg
    exact h p hp g hgp

theorem ClausesSettled.row (h : p.ClausesSettled) : ClausesFolded p.kind? p.members := by
  refine h p ?_
  cases p with
  | leaf t => simp [parts]
  | group kind text pos members => simp [parts]

theorem ClausesSettled.members (h : p.ClausesSettled) : ∀ q ∈ p.members, q.ClausesSettled := by
  intro q hq g hg
  cases p with
  | leaf t => cases hq
  | group kind text pos members =>
    refine h g ?_
    rw [parts]
    exact List.mem_cons_of_mem _ (mem_partsOf.mpr ⟨q, hq, hg⟩)

theorem unclaused_leaf (t : Token) : (leaf t).Unclaused where
  settled := clausesSettled_leaf t
  noClause h := by cases h

/-- A list without clauses is folded in a group of any kind that is no clause. -/
theorem unclaused_ofMembers (hkind : kind ≠ .whereClause)
    (hleaf : ∀ p ∈ ps, p.isLeaf (.keyword .WHERE) = false) (h : ∀ p ∈ ps, p.Unclaused) :
    (ofMembers kind ps).Unclaused where
  settled := by
    refine clausesSettled_ofMembers (clausesFolded_of_forall ?_ fun p hp => (h p hp).noClause)
      fun p hp => (h p hp).settled
    intro p hp hword
    rw [hleaf p hp] at hword
    cases hword
  noClause hclause := hkind (Option.some.inj hclause)

/-- Apart from levels and clauses, a group has neither the word nor a clause among its members. -/
theorem Unclaused.members (h : p.Unclaused) (hgroup : p.kind? = some kind)
    (hkind : kind ∉ [GroupKind.parenthesis, .caseExpression, .whereClause]) :
    ∀ q ∈ p.members, q.isLeaf (.keyword .WHERE) = false ∧ q.Unclaused := by
  have hrow := h.settled.row
  rw [hgroup] at hrow
  intro q hq
  refine ⟨Bool.eq_false_iff.mpr fun hword => ?_, h.settled.members q hq, fun hclause => ?_⟩
  · have hparent := Option.some.inj (hrow.word q hq hword)
    simp [hparent] at hkind
  · have hparent := hrow.place q hq hclause
    simp only [List.mem_cons, Option.some.injEq, List.not_mem_nil, or_false] at hparent hkind
    tauto

end Piece

namespace Rules

variable {p : Piece} {ps : List Piece} {kind : GroupKind}

/-! ### One level -/

/-- The rules before the folding of clauses leave nothing for it inside the groups that they build. -/
theorem unclaused_merge (hkind : kind ∉ [GroupKind.parenthesis, .caseExpression, .whereClause])
    (hleaf : ∀ p ∈ ps, p.isLeaf (.keyword .WHERE) = false) (h : ∀ p ∈ ps, p.Unclaused) :
    (merge kind ps).Unclaused := by
  have hclause : kind ≠ .whereClause := by
    rintro rfl
    simp at hkind
  obtain ⟨qs, hmerge, hqs⟩ := exists_merge kind ps
  have hmembers : ∀ q ∈ qs, q.isLeaf (.keyword .WHERE) = false ∧ q.Unclaused := by
    intro q hq
    rcases hqs q hq with hq | ⟨p, hp, hgroup, hq⟩
    · exact ⟨hleaf q hq, h q hq⟩
    · exact (h p hp).members hgroup hkind q hq
  rw [hmerge]
  exact unclaused_ofMembers hclause (fun q hq => (hmembers q hq).1) fun q hq => (hmembers q hq).2

theorem foldWhere_cons_of_endsWhere (h : endsWhere p = true) : foldWhere (p :: ps) = p :: foldWhere ps := by
  have hword : p.isLeaf (.keyword .WHERE) = false := not_isLeaf_of_isLeafOf h (by decide)
  rw [foldWhere, if_neg (by simp [hword])]

/-- What comes behind a clause has ended it. -/
theorem endsClause_of_foldWhere (h : ∀ p ∈ ps, p.kind? ≠ some .whereClause) {before after : List Piece}
    {w q : Piece} (heq : foldWhere ps = before ++ w :: q :: after) (hw : w.kind? = some .whereClause) :
    q.EndsClause := by
  fun_induction foldWhere ps generalizing before with
  | case1 => simp at heq
  | case2 c ps _ ih =>
    cases before with
    | nil =>
      obtain ⟨-, htail⟩ := List.cons.inj heq
      cases hdrop : ps.dropWhile (!endsWhere ·) with
      | nil =>
        rw [hdrop, foldWhere] at htail
        cases htail
      | cons d ds =>
        have hd : endsWhere d = true := by
          have hhead := List.head_dropWhile_not (!endsWhere ·) (l := ps) (by simp [hdrop])
          simpa [hdrop] using hhead
        rw [hdrop, foldWhere_cons_of_endsWhere hd] at htail
        obtain ⟨rfl, -⟩ := List.cons.inj htail
        exact hd
    | cons b before =>
      refine ih (fun p hp => h p ?_) (List.cons.inj heq).2
      exact List.mem_cons_of_mem c ((List.dropWhile_sublist _).subset hp)
  | case3 p ps _ ih =>
    rw [List.forall_mem_cons] at h
    cases before with
    | nil =>
      obtain ⟨rfl, -⟩ := List.cons.inj heq
      exact absurd hw h.1
    | cons b before => exact ih h.2 (List.cons.inj heq).2

/-- Folding the clauses of a level leaves the word nowhere, and lets every clause reach to what ends it. -/
theorem clausesFolded_foldWhere (h : ∀ p ∈ ps, p.kind? ≠ some .whereClause) :
    ClausesFolded none (foldWhere ps) where
  word p hp hword := by
    have hnone : ∀ q ∈ foldWhere ps, q.isLeaf (.keyword .WHERE) ≠ true :=
      forall_foldWhere (P := fun _ => True) (fun _ hq _ => hq) (fun _ _ _ _ _ => Bool.false_ne_true)
        fun _ _ => trivial
    exact absurd hword (hnone p hp)
  place _ _ _ := List.mem_cons_self
  behind _ _ _ _ heq hclause := .inl (endsClause_of_foldWhere h heq hclause)

/-- The clause that is folded has no other clause among its members. -/
theorem clausesSettled_foldWhere (h : ∀ p ∈ ps, p.Unclaused) : ∀ q ∈ foldWhere ps, q.ClausesSettled := by
  refine forall_foldWhere (fun _ _ hp => hp.settled) (fun w rest _ _ hrow => ?_) h
  exact clausesSettled_ofMembers (clausesFolded_of_forall (fun _ _ _ => rfl) fun p hp => (hrow p hp).noClause)
    fun p hp => (hrow p hp).settled

/-- The pieces of a level before its clauses are folded. -/
theorem unclaused_replaceAll {pattern : Pattern}
    (hkind : kind ∉ [GroupKind.parenthesis, .caseExpression, .whereClause])
    (hword : pattern.admits (.keyword .WHERE) = false) (h : ∀ p ∈ ps, p.Unclaused) :
    ∀ q ∈ pattern.replaceAll (merge kind) ps, q.Unclaused :=
  forall_replaceAll (fun _ hp => hp) (fun _ hms hall => unclaused_merge hkind (isLeaf_of_matches hword hms) hall)
    h

/-- The rules of a level fold its clauses. -/
theorem clauses_applyRules (h : ∀ p ∈ ps, p.Unclaused) :
    ClausesFolded none (applyRules ps) ∧ ∀ q ∈ applyRules ps, q.ClausesSettled := by
  have hmarked : ∀ q ∈ markWildcards ps, q.Unclaused :=
    forall_markWildcardsFrom (fun _ _ _ => unclaused_leaf _) h none
  have hrule : ∀ (pattern : Pattern) (kind : GroupKind), pattern.admits (.keyword .WHERE) = false →
      kind ∉ [GroupKind.parenthesis, .caseExpression, .whereClause] → ∀ {qs : List Piece},
      (∀ p ∈ qs, p.Unclaused) → ∀ q ∈ pattern.replaceAll (merge kind) qs, q.Unclaused :=
    fun _ _ hword hkind _ hqs => unclaused_replaceAll hkind hword hqs
  have hall := hrule itemList .identifierList (by decide) (by decide) <|
    hrule aliased .identifier (by decide) (by decide) <|
    hrule Rules.comparison .comparison (by decide) (by decide) <|
    hrule Rules.operation .operation (by decide) (by decide) <|
    hrule qualifiedName .identifier (by decide) (by decide) <|
    hrule functionCall .function (by decide) (by decide) hmarked
  exact ⟨clausesFolded_foldWhere fun p hp => (hall p hp).noClause, clausesSettled_foldWhere hall⟩

/-! ### All levels -/

/-- Brackets around a level end its last clause. -/
theorem clausesFolded_bracket {o c : Token} (ho : o.lexClass ≠ .keyword .WHERE)
    (hbracket : kind = .parenthesis ∧ c.lexClass = .closeParen ∨
      kind = .caseExpression ∧ c.lexClass = .keyword .END)
    (h : ClausesFolded none ps) : ClausesFolded (some kind) (.leaf o :: ps ++ [.leaf c]) where
  word := by
    have hc : c.lexClass ≠ .keyword .WHERE := by
      rcases hbracket with ⟨-, hc⟩ | ⟨-, hc⟩ <;> simp [hc]
    refine forall_mem_bracket (fun hword => ?_) (fun p hp hword => ?_) fun hword => ?_
    · exact absurd (by simpa [isLeaf, lexClass?] using hword) ho
    · cases h.word p hp hword
    · exact absurd (by simpa [isLeaf, lexClass?] using hword) hc
  place _ _ _ := by rcases hbracket with ⟨rfl, -⟩ | ⟨rfl, -⟩ <;> simp
  behind before w q after heq hclause := by
    -- the opening bracket is no clause, so the clause is in the level
    cases before with
    | nil =>
      obtain ⟨rfl, -⟩ := List.cons.inj heq
      cases hclause
    | cons b before =>
      have htail : ps ++ [.leaf c] = before ++ w :: q :: after := (List.cons.inj heq).2
      rcases List.eq_nil_or_concat after with rfl | ⟨after, last, rfl⟩
      · have hinit : ps ++ [.leaf c] = (before ++ [w]) ++ [q] := by simpa using htail
        obtain ⟨-, rfl⟩ := List.append_singleton_inj.mp hinit
        refine .inr ⟨rfl, hbracket.imp (fun hb => ?_) fun hb => ?_⟩
        · exact ⟨congrArg some hb.1, by simp [isLeaf, lexClass?, hb.2]⟩
        · exact ⟨congrArg some hb.1, by simp [isLeaf, lexClass?, hb.2]⟩
      · have hinit : ps ++ [.leaf c] = (before ++ w :: q :: after) ++ [last] := by simpa using htail
        obtain ⟨hps, -⟩ := List.append_singleton_inj.mp hinit
        rcases h.behind before w q after hps hclause with hends | ⟨-, hnone | hnone⟩
        · exact .inl hends
        · cases hnone.1
        · cases hnone.1

/-- A level with folded clauses makes no clause of the brackets around it. -/
theorem unclaused_bracket {o c : Token} (ho : o.lexClass ≠ .keyword .WHERE)
    (hbracket : kind = .parenthesis ∧ c.lexClass = .closeParen ∨
      kind = .caseExpression ∧ c.lexClass = .keyword .END)
    (h : ClausesFolded none ps) (hsettled : ∀ p ∈ ps, p.ClausesSettled) :
    (ofMembers kind (.leaf o :: ps ++ [.leaf c])).Unclaused where
  settled := clausesSettled_ofMembers (clausesFolded_bracket ho hbracket h)
    (forall_mem_bracket (clausesSettled_leaf o) hsettled (clausesSettled_leaf c))
  noClause hclause := by
    obtain rfl : kind = .whereClause := Option.some.inj hclause
    rcases hbracket with ⟨hkind, -⟩ | ⟨hkind, -⟩ <;> cases hkind

theorem levelInvariant_clauses : LevelInvariant Unclaused fun ps =>
    ClausesFolded none ps ∧ ∀ p ∈ ps, p.ClausesSettled where
  leaf _ _ _ := unclaused_leaf _
  rules h := clauses_applyRules h
  caseExpression hc he hbody := unclaused_bracket (by simp [hc]) (.inr ⟨rfl, he⟩) hbody.1 hbody.2
  parenthesis ho hc hinner := unclaused_bracket (by simp [ho]) (.inl ⟨rfl, hc⟩) hinner.1 hinner.2

end Rules

namespace Statement

/-- **Every clause is folded, up to what ends it.**  The word `WHERE` stands in clauses only.  What is
behind a clause is a leaf that ends clauses, or the last leaf of the parenthesis or of the `CASE` group
around it. -/
theorem clausesFolded_of_parse (sql : String) (statements : List Statement)
    (h : parse sql = .ok statements) :
    ∀ s ∈ statements, ClausesFolded none s.pieces ∧
      ∀ g ∈ partsOf s.pieces, ClausesFolded g.kind? g.members := by
  intro s hs
  obtain ⟨hrow, hsettled⟩ := Rules.levelInvariant_clauses.of_parse h s hs
  refine ⟨hrow, fun g hg => ?_⟩
  obtain ⟨p, hp, hgp⟩ := mem_partsOf.mp hg
  exact hsettled p hp g hgp

theorem clausesFolded_of_parse_queries :
    ∃ statements,
      parse "select case where a end where b in (1 where c) union select 2 where where d limit 3" = .ok statements ∧
      statements.map (fun s =>
        ((partsOf s.pieces).filter (·.kind? == some .whereClause)).map (·.text)) =
          [["where a ", "where b in (1 where c) ", "where c", "where where d "]] ∧
      ∀ s ∈ statements, ClausesFolded none s.pieces ∧
        ∀ g ∈ partsOf s.pieces, ClausesFolded g.kind? g.members := by
  have hclauses : (parse
      "select case where a end where b in (1 where c) union select 2 where where d limit 3").toOption.map
      (·.map fun s => ((partsOf s.pieces).filter (·.kind? == some .whereClause)).map (·.text)) =
        some [["where a ", "where b in (1 where c) ", "where c", "where where d "]] := by
    decide +kernel
  cases hparse : parse
      "select case where a end where b in (1 where c) union select 2 where where d limit 3" with
  | error e =>
    rw [hparse] at hclauses
    cases hclauses
  | ok statements =>
    rw [hparse] at hclauses
    exact ⟨statements, rfl, Option.some.inj hclauses, clausesFolded_of_parse _ statements hparse⟩

end Statement

end SqlOutline
