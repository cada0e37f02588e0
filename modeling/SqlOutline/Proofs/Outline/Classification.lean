import SqlOutline.Piece.Record
import SqlOutline.Proofs.Piece.Levels
import SqlOutline.Proofs.Query.Spelling

/-!
# The kinds of the elements of a statement

Whether a parenthesis is a subselect is read off the members of its group, when all rules have run.  It
could as well be read off the source, since no group starts with a word that starts a query.

* `Element.startsQuery` : whether tokens start with such a word;
* `Piece.groupLeads`, `Shaped.exists_first` : the tokens that groups start with;
* `opensQuery_eq` : the members of a parenthesis against its tokens;
* `Record.ofPieces` : pieces with the numbers of their roles; `toPieces_ofPieces` : all of these numbers
  have a meaning;
* `subnodesOf_ofPieces` : no piece is lost in the exported tree;
* `Element.KindFromSource` : what the kind of the element of a piece is;
* `kinds_of_parse` : the main result.
-/

namespace SqlOutline

namespace Piece

variable {p : Piece} {ps : List Piece} {kind : GroupKind}

/-! ### What a group starts with -/

/-- The classes of the tokens that groups start with. -/
def groupLeads : List LexClass :=
  [.openParen, .keyword .WHERE, .keyword .CASE, .identifier, .quotedIdentifier, .reservedWord, .number,
    .string, .placeholder, .keyword .NULL, .boolean, .wildcard]

/-- A group, or a leaf that a group may start with. -/
def Leads (p : Piece) : Prop := p.isLeafOf groupLeads = true ∨ p.kind? ≠ none

theorem leads_of_isLeafOf {classes : List LexClass} (h : p.isLeafOf classes = true)
    (hleads : ∀ k ∈ classes, k ∈ groupLeads) : p.Leads := by
  cases p with
  | leaf t =>
    have hmem : t.lexClass ∈ classes := by simpa [isLeafOf] using h
    exact .inl (by simpa [isLeafOf] using hleads _ hmem)
  | group kind text pos members => cases h

theorem leads_of_isLeaf {k : LexClass} (h : p.isLeaf k = true) (hk : k ∈ groupLeads) : p.Leads :=
  leads_of_isLeafOf ((Rules.isLeaf_iff p k).mpr h) (by simpa using hk)

theorem leads_of_isGroupOf {kinds : List GroupKind} (h : p.IsGroupOf kinds) : p.Leads := by
  obtain ⟨kind, -, hkind⟩ := h
  exact .inr (by simp [hkind])

theorem IsName.leads (h : p.IsName) : p.Leads := leads_of_isLeafOf h (by decide)

theorem IsLiteral.leads (h : p.IsLiteral) : p.Leads := leads_of_isLeafOf h (by decide)

theorem IsOperand.leads (h : p.IsOperand) : p.Leads := by
  rcases h with h | h | h
  · exact h.leads
  · exact h.leads
  · exact leads_of_isGroupOf h

theorem IsListItem.leads (h : p.IsListItem) : p.Leads := by
  rcases h with h | h | h
  · exact h.leads
  · exact leads_of_isLeaf h (by decide)
  · exact leads_of_isGroupOf h

theorem IsAliasable.leads (h : p.IsAliasable) : p.Leads := by
  rcases h with h | h
  · exact h.leads
  · exact leads_of_isGroupOf h

theorem DottedName.exists_lead (h : DottedName ps) : ∃ p rest, ps = p :: rest ∧ p.Leads := by
  cases h with
  | mk hp _ =>
    rcases hp with hp | hp
    · exact ⟨_, _, rfl, hp.leads⟩
    · exact ⟨_, _, rfl, leads_of_isGroupOf hp⟩

/-- The first member of a group is a group, or one of the leaves that groups start with. -/
theorem HasShape.exists_lead (h : HasShape kind ps) : ∃ p rest, ps = p :: rest ∧ p.Leads := by
  cases h with
  | parenthesis ho _ _ => exact ⟨_, _, rfl, leads_of_isLeaf ho (by decide)⟩
  | function hf _ => exact ⟨_, _, rfl, leads_of_isLeafOf hf (by decide)⟩
  | operation hp _ => exact ⟨_, _, rfl, hp.leads⟩
  | comparison hp _ => exact ⟨_, _, rfl, hp.leads⟩
  | identifierList hp _ => exact ⟨_, _, rfl, hp.leads⟩
  | dottedName hname => exact hname.exists_lead
  | dottedAlias hname _ =>
    obtain ⟨p, rest, rfl, hp⟩ := hname.exists_lead
    exact ⟨p, rest ++ _, rfl, hp⟩
  | aliased hp _ => exact ⟨_, _, rfl, hp.leads⟩
  | namedLiteral hp _ => exact ⟨_, _, rfl, hp.leads⟩
  | whereClause hw _ => exact ⟨_, _, rfl, leads_of_isLeaf hw (by decide)⟩
  | caseExpression hc _ _ => exact ⟨_, _, rfl, leads_of_isLeaf hc (by decide)⟩

/-- The first token of a group, whichever groups it stands in. -/
theorem Shaped.exists_first (h : p.Shaped) (hgroup : p.kind? ≠ none) :
    ∃ t rest, p.leaves = t :: rest ∧ t.lexClass ∈ groupLeads := by
  induction h with
  | leaf t => exact absurd rfl hgroup
  | group hshape _ _ ih =>
    obtain ⟨p, members, rfl, hlead⟩ := hshape.exists_lead
    rw [leaves_group, leavesOf_cons]
    cases p with
    | leaf t =>
      rcases hlead with hlead | hlead
      · exact ⟨t, _, rfl, by simpa [isLeafOf] using hlead⟩
      · exact absurd rfl hlead
    | group kind text pos inner =>
      obtain ⟨t, rest, hleaves, ht⟩ := ih _ List.mem_cons_self (Option.some_ne_none kind)
      exact ⟨t, rest ++ leavesOf members, by rw [hleaves]; rfl, ht⟩

end Piece

open Piece

namespace Element

variable {p : Piece} {ps : List Piece}

/-! ### Subselects -/

/-- Whether the first token that is neither white space nor a comment is a word that starts a query. -/
def startsQuery (ts : List Token) : Bool :=
  (ts.find? (!·.lexClass.isTrivia)).any fun t => [.keyword .SELECT, .keyword .WITH].contains t.lexClass

theorem startsQuery_cons_of_trivia {t : Token} (h : t.lexClass.isTrivia = true) (ts : List Token) :
    startsQuery (t :: ts) = startsQuery ts := by
  rw [startsQuery, List.find?_cons_of_neg (by simp [h]), startsQuery]

theorem startsQuery_cons_of_not_trivia {t : Token} (h : t.lexClass.isTrivia = false) (ts : List Token) :
    startsQuery (t :: ts) = [.keyword .SELECT, .keyword .WITH].contains t.lexClass := by
  rw [startsQuery, List.find?_cons_of_pos (by simp [h]), Option.any_some]

/-- No group starts with white space, a comment or a word that starts a query. -/
theorem startsQuery_of_groupLeads {t : Token} (h : t.lexClass ∈ groupLeads) (ts : List Token) :
    startsQuery (t :: ts) = false := by
  have hlead : ∀ k ∈ groupLeads,
      k.isTrivia = false ∧ [LexClass.keyword .SELECT, .keyword .WITH].contains k = false := by decide
  obtain ⟨htrivia, hword⟩ := hlead _ h
  rw [startsQuery_cons_of_not_trivia htrivia, hword]

theorem opensQuery_cons_of_skipped (h : (p.isTrivia || p.isLeaf .openParen) = true) :
    opensQuery (p :: ps) = opensQuery ps := by
  rw [opensQuery, List.find?_cons_of_neg (by simp [h]), opensQuery]

theorem opensQuery_cons_of_not_skipped (h : (p.isTrivia || p.isLeaf .openParen) = false) :
    opensQuery (p :: ps) = p.isLeafOf [.keyword .SELECT, .keyword .WITH] := by
  rw [opensQuery, List.find?_cons_of_pos (by simp [h])]

/-- Among pieces with their shapes and without opening parentheses, the first one that counts is as good as
the first token that counts. -/
theorem opensQuery_eq (hshaped : ∀ p ∈ ps, p.Shaped) (hopen : ∀ p ∈ ps, p.isLeaf .openParen = false) :
    opensQuery ps = startsQuery (leavesOf ps) := by
  induction ps with
  | nil => rfl
  | cons p ps ih =>
    rw [List.forall_mem_cons] at hshaped hopen
    rw [leavesOf_cons]
    cases p with
    | leaf t =>
      rw [leaves_leaf, List.singleton_append]
      cases htrivia : t.lexClass.isTrivia with
      | false =>
        rw [opensQuery_cons_of_not_skipped (by rw [isTrivia, htrivia, hopen.1]; rfl),
          startsQuery_cons_of_not_trivia htrivia, isLeafOf]
      | true =>
        rw [opensQuery_cons_of_skipped (by rw [isTrivia, htrivia]; rfl),
          startsQuery_cons_of_trivia htrivia, ih hshaped.2 hopen.2]
    | group kind text pos members =>
      obtain ⟨t, rest, hleaves, ht⟩ := hshaped.1.exists_first (Option.some_ne_none kind)
      rw [opensQuery_cons_of_not_skipped rfl, hleaves, List.cons_append, startsQuery_of_groupLeads ht]
      rfl

/-- A parenthesis is a subselect by the tokens behind its opening mark. -/
theorem kind_ofPiece_parenthesis {text : String} {pos : Position}
    (h : (group .parenthesis text pos ps).Shaped) : ∃ o rest, leavesOf ps = o :: rest ∧
      o.lexClass = .openParen ∧
      (ofPiece (group .parenthesis text pos ps)).kind =
        if startsQuery rest then .subselect else .parenthesis := by
  cases h with
  | group hshape _ hmembers =>
    cases hshape with
    | @parenthesis o c inner ho hc hinner =>
      obtain ⟨o, rfl, hclass⟩ := exists_of_isLeaf ho
      rw [List.cons_append, List.forall_mem_cons] at hmembers
      have hopen : ∀ p ∈ inner ++ [c], p.isLeaf .openParen = false := by
        intro p hp
        rcases List.mem_append.mp hp with hp | hp
        · refine Bool.eq_false_iff.mpr fun hleaf => hinner p hp ?_
          obtain ⟨t, rfl, ht⟩ := exists_of_isLeaf hleaf
          simp [IsParen, isLeafOf, ht]
        · rw [List.mem_singleton] at hp
          subst hp
          exact not_isLeaf_of_isLeafOf ((Rules.isLeaf_iff _ _).mpr hc) (by decide)
      refine ⟨o, leavesOf (inner ++ [c]), rfl, hclass, ?_⟩
      rw [← opensQuery_eq hmembers.2 hopen, List.cons_append, ofPiece,
        opensQuery_cons_of_skipped (by rw [ho, Bool.or_true])]
      cases opensQuery (inner ++ [c]) with
      | false => rfl
      | true => rfl

/-! ### Other groups and leaves -/

theorem tag_ofGroup (kind : GroupKind) : (Kind.ofGroup kind).tag = kind.name := by
  cases kind <;> rfl

theorem kind_ofPiece_group {kind : GroupKind} (h : kind ≠ .parenthesis) (text : String) (pos : Position) :
    (ofPiece (group kind text pos ps)).kind = .ofGroup kind := by
  rw [ofPiece, if_neg (fun hparen => h hparen.1)]
  rfl

end Element

/-! ### Roles as numbers -/

/-- The number of a kind of group. -/
def GroupKind.number (kind : GroupKind) : Int := all.idxOf kind + 1

theorem GroupKind.ofNumber?_number (kind : GroupKind) : ofNumber? kind.number = some (some kind) := by
  cases kind <;> rfl

namespace Record

mutual

/-- A piece with the number of its role.  Groups have no lexical class of their own. -/
def ofPiece : Piece → Record
  | .leaf t => mk 0 t.lexClass t.text []
  | .group kind text _ members => mk kind.number .other text (ofPieces members)

/-- Some pieces with the numbers of their roles. -/
def ofPieces : List Piece → List Record
  | [] => []
  | p :: ps => ofPiece p :: ofPieces ps

end

mutual

theorem toPiece_ofPiece : (p : Piece) → ∃ q, toPiece (ofPiece p) = .ok q ∧ q.unplaced = p.unplaced
  | .leaf t => ⟨_, rfl, rfl⟩
  | .group kind text pos members => by
    obtain ⟨qs, hqs, hsame⟩ := toPieces_ofPieces members
    refine ⟨.group kind text ⟨0, 0, 0⟩ qs, ?_, ?_⟩
    · rw [ofPiece, toPiece, GroupKind.ofNumber?_number]
      show (toPieces (ofPieces members)).map _ = _
      rw [hqs]
      rfl
    · rw [unplaced, unplaced, hsame]

/-- The numbers of roles have a meaning, so all of the pieces but their places comes back. -/
theorem toPieces_ofPieces : (ps : List Piece) →
    ∃ qs, toPieces (ofPieces ps) = .ok qs ∧ unplacedAll qs = unplacedAll ps
  | [] => ⟨[], rfl, rfl⟩
  | p :: ps => by
    obtain ⟨q, hq, hsame⟩ := toPiece_ofPiece p
    obtain ⟨qs, hqs, hsames⟩ := toPieces_ofPieces ps
    refine ⟨q :: qs, ?_, ?_⟩
    · rw [ofPieces, toPieces, hq]
      show (toPieces (ofPieces ps)).map _ = _
      rw [hqs]
      rfl
    · rw [unplacedAll, unplacedAll, hsame, hsames]

end

/-- Elements can be made of pieces whose roles are given by number. -/
theorem map_toPieces_ofPieces (ps : List Piece) :
    (toPieces (ofPieces ps)).map Element.ofPieces = .ok (Element.ofPieces ps) := by
  obtain ⟨qs, hqs, hsame⟩ := toPieces_ofPieces ps
  rw [hqs, Except.map, ← Element.ofPieces_unplacedAll, hsame, Element.ofPieces_unplacedAll]

end Record

/-! ### Exported trees -/

namespace Node

/-- The children of the node of a piece are the nodes of its members. -/
theorem children_ofPiece (p : Piece) :
    (ofElement (.ofPiece p)).children = p.members.map fun m => ofElement (.ofPiece m) := by
  cases p with
  | leaf t =>
    rw [Element.ofPiece, ofElement, Kind.isGroup_ofLexClass]
    rfl
  | group kind text pos members =>
    obtain ⟨k, hk, heq⟩ := Element.isGroup_ofPiece kind text pos members
    rw [heq, ofElement, hk, if_pos rfl]
    exact ofElements_ofPieces members

mutual

theorem subnodes_ofPiece : (p : Piece) →
    (ofElement (.ofPiece p)).subnodes = p.parts.map fun q => ofElement (.ofPiece q)
  | .leaf t => by
    rw [parts, List.map_singleton, Element.ofPiece, ofElement, Kind.isGroup_ofLexClass,
      if_neg Bool.false_ne_true, subnodes, subnodesOf]
  | .group kind text pos members => by
    obtain ⟨k, hk, heq⟩ := Element.isGroup_ofPiece kind text pos members
    rw [parts, List.map_cons, heq, ofElement, hk, if_pos rfl, subnodes, subnodesOf_ofPieces members]

/-- The nodes of an exported tree are those of the pieces at all depths. -/
theorem subnodesOf_ofPieces : (ps : List Piece) →
    subnodesOf (ofElements (Element.ofPieces ps)) = (partsOf ps).map fun q => ofElement (.ofPiece q)
  | [] => rfl
  | p :: ps => by
    rw [Element.ofPieces, ofElements, subnodesOf, partsOf, List.map_append, subnodes_ofPiece p,
      subnodesOf_ofPieces ps]

end

end Node

/-! ### The main result -/

/-- What the kind of the element of a piece is: a parenthesis is a subselect if the first token behind its
opening mark that is neither white space nor a comment starts a query, and a parenthesis otherwise.  Any
other group has the kind of group of its own name, and a leaf no kind of group.  The exported node of the
element has the nodes of all members as children. -/
structure Element.KindFromSource (p : Piece) : Prop where
  leaf : p.kind? = none → (ofPiece p).isGroup = false
  group : ∀ kind, p.kind? = some kind → (ofPiece p).isGroup = true
  named : ∀ kind, p.kind? = some kind → kind ≠ .parenthesis → (ofPiece p).kind.tag = kind.name
  parenthesis : p.kind? = some .parenthesis → ∃ o rest, p.leaves = o :: rest ∧ o.lexClass = .openParen ∧
    (ofPiece p).kind = if startsQuery rest then .subselect else .parenthesis
  children : (Node.ofElement (ofPiece p)).children = p.members.map fun m => Node.ofElement (ofPiece m)

open Element

theorem Piece.Shaped.kindFromSource {p : Piece} (h : p.Shaped) : KindFromSource p where
  leaf hkind := by
    cases p with
    | leaf t => exact Kind.isGroup_ofLexClass t.lexClass
    | group kind text pos members => cases hkind
  group kind' hkind := by
    cases p with
    | leaf t => cases hkind
    | group kind text pos members =>
      obtain ⟨k, hk, heq⟩ := isGroup_ofPiece kind text pos members
      rw [heq]
      exact hk
  named kind' hkind hparen := by
    cases p with
    | leaf t => cases hkind
    | group kind text pos members =>
      obtain rfl : kind = kind' := Option.some.inj hkind
      rw [kind_ofPiece_group hparen, tag_ofGroup]
  parenthesis hkind := by
    cases p with
    | leaf t => cases hkind
    | group kind text pos members =>
      obtain rfl : kind = .parenthesis := Option.some.inj hkind
      rw [leaves_group]
      exact kind_ofPiece_parenthesis h
  children := Node.children_ofPiece p

namespace Statement

/-- **Elements have their kinds from the source.**  All roles in a parsed statement have a meaning, the
exported tree has a node for every piece of it, and the kind of the element of every piece is the one that
the source gives. -/
theorem kinds_of_parse (sql : String) (statements : List Statement) (h : parse sql = .ok statements) :
    ∀ s ∈ statements,
      (Record.toPieces (Record.ofPieces s.pieces)).map ofPieces = .ok (ofPieces s.pieces) ∧
      Node.subnodesOf (Node.ofElements (ofPieces s.pieces)) =
        (partsOf s.pieces).map (fun p => Node.ofElement (ofPiece p)) ∧
      ∀ p ∈ partsOf s.pieces, KindFromSource p := by
  intro s hs
  refine ⟨Record.map_toPieces_ofPieces s.pieces, Node.subnodesOf_ofPieces s.pieces, fun p hp => ?_⟩
  obtain ⟨q, hq, hpq⟩ := mem_partsOf.mp hp
  exact ((fits_of_parse h hs q hq).shaped.of_mem_parts hpq).kindFromSource

theorem kinds_of_parse_parentheses :
    ∃ statements,
      parse "select (select 1), (/* a */ with b), ((select 2)), (c, select), f(-- d\nselect e) where (f) = g" = .ok statements ∧
      statements.map (fun s =>
        ((partsOf s.pieces).filter (·.kind? == some .parenthesis)).map fun p => (ofPiece p).kind) =
          [[.subselect, .subselect, .parenthesis, .subselect, .parenthesis, .subselect, .parenthesis]] ∧
      ∀ s ∈ statements,
        (Record.toPieces (Record.ofPieces s.pieces)).map ofPieces = .ok (ofPieces s.pieces) ∧
        Node.subnodesOf (Node.ofElements (ofPieces s.pieces)) =
          (partsOf s.pieces).map (fun p => Node.ofElement (ofPiece p)) ∧
        ∀ p ∈ partsOf s.pieces, KindFromSource p := by
  have hkinds : (parse
      "select (select 1), (/* a */ with b), ((select 2)), (c, select), f(-- d\nselect e) where (f) = g").toOption.map
      (·.map fun s =>
        ((partsOf s.pieces).filter (·.kind? == some .parenthesis)).map fun p => (ofPiece p).kind) =
        some [[.subselect, .subselect, .parenthesis, .subselect, .parenthesis, .subselect, .parenthesis]] := by
    decide +kernel
  cases hparse : parse
      "select (select 1), (/* a */ with b), ((select 2)), (c, select), f(-- d\nselect e) where (f) = g" with
  | error e =>
    rw [hparse] at hkinds
    cases hkinds
  | ok statements =>
    rw [hparse] at hkinds
    exact ⟨statements, rfl, Option.some.inj hkinds, kinds_of_parse _ statements hparse⟩

end Statement

end SqlOutline
