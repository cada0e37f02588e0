import SqlOutline.Proofs.Piece.Matching

/-!
# The shapes of groups

What the members of a group of each kind look like, and that the patterns of the rules describe nothing
else.

* `Piece.IsOperand`, `Piece.IsListItem`, `Piece.IsAliasable` : the pieces that groups are made of;
* `Piece.Link`, `Piece.Joined`, `Piece.Dotted`, `Piece.AliasTail` : what may follow the first of them;
* `Piece.HasShape` : the members of a group of a kind;
* `Piece.Shaped` : every group at and below a piece has its shape, and only parentheses have members that are
  parentheses;
* `hasShape_of_functionCall` and the theorems after it : a match of a rule has the shape of its group.
-/

namespace SqlOutline

namespace Piece

/-! ### Single pieces -/

def IsName (p : Piece) : Prop := p.isLeafOf [.identifier, .quotedIdentifier] = true

def IsLiteral (p : Piece) : Prop :=
  p.isLeafOf [.number, .string, .placeholder, .keyword .NULL, .boolean] = true

def IsGroupOf (kinds : List GroupKind) (p : Piece) : Prop := ∃ kind ∈ kinds, p.kind? = some kind

/-- A value that operators and comparisons take. -/
def IsOperand (p : Piece) : Prop :=
  p.IsName ∨ p.IsLiteral ∨
    p.IsGroupOf [.parenthesis, .function, .identifier, .caseExpression, .operation]

/-- An item of a list. -/
def IsListItem (p : Piece) : Prop := p.IsOperand ∨ p.isLeaf .wildcard = true ∨ p.IsGroupOf [.comparison]

/-- What may be given another name, dotted names apart: these take the other name as a member. -/
def IsAliasable (p : Piece) : Prop :=
  p.IsName ∨ p.IsGroupOf [.function, .parenthesis, .operation, .caseExpression]

def IsArithmetic (p : Piece) : Prop :=
  p.isLeafOf [.plus, .minus, .star, .slash, .percent, .concat] = true

def IsComparison (p : Piece) : Prop :=
  p.isLeafOf [.equal, .notEqual, .less, .greater, .lessEqual, .greaterEqual, .keyword .LIKE] = true

def IsAs (p : Piece) : Prop := p.isLeaf (.keyword .AS) = true

def IsComma (p : Piece) : Prop := p.isLeaf .comma = true

/-- A sort direction. -/
def IsDirection (p : Piece) : Prop :=
  p.isLeafOf [.identifier, .reservedWord] = true ∧
    (Text.foldsTo p.text "asc" = true ∨ Text.foldsTo p.text "desc" = true)

def IsParen (p : Piece) : Prop := p.isLeafOf [.openParen, .closeParen] = true

/-- What ends a `WHERE` clause. -/
def EndsClause (p : Piece) : Prop :=
  p.isLeafOf [.keyword .ORDER, .keyword .GROUP, .keyword .LIMIT, .keyword .OFFSET, .keyword .HAVING,
    .keyword .UNION, .keyword .EXCEPT, .keyword .INTERSECT, .keyword .RETURNING, .semicolon] = true

theorem not_isLeaf_of_isLeafOf {p : Piece} {classes : List LexClass} {k : LexClass}
    (hp : p.isLeafOf classes = true) (hk : k ∉ classes) : p.isLeaf k = false := by
  cases p with
  | leaf t =>
    have hmem : t.lexClass ∈ classes := by simpa [isLeafOf] using hp
    have hne : t.lexClass ≠ k := fun heq => hk (heq ▸ hmem)
    simpa [isLeaf, lexClass?] using hne
  | group kind text pos members => rfl

/-! ### Lists of pieces -/

/-- White space and comments. -/
def AllTrivia (ps : List Piece) : Prop := ∀ p ∈ ps, p.isTrivia = true

/-- A mark and an item; white space and comments may stand around the mark. -/
inductive Link (mark item : Piece → Prop) : List Piece → Prop
  | mk {s t : List Piece} {m p : Piece} : AllTrivia s → mark m → AllTrivia t → item p →
      Link mark item (s ++ m :: t ++ [p])

/-- One or more marks, each with its item. -/
inductive Joined (mark item : Piece → Prop) : List Piece → Prop
  | one {ps : List Piece} : Link mark item ps → Joined mark item ps
  | cons {ps qs : List Piece} : Link mark item ps → Joined mark item qs → Joined mark item (ps ++ qs)

/-- One or more points, each followed by a name, a wildcard or a function call. -/
inductive Dotted : List Piece → Prop
  | one {d p : Piece} : d.isLeaf .dot = true →
      (p.IsName ∨ p.isLeaf .wildcard = true ∨ p.IsGroupOf [.function]) → Dotted [d, p]
  | cons {d p : Piece} {rest : List Piece} : d.isLeaf .dot = true →
      (p.IsName ∨ p.isLeaf .wildcard = true ∨ p.IsGroupOf [.function]) → Dotted rest →
      Dotted (d :: p :: rest)

/-- A name or function call and what is joined to it by points. -/
inductive DottedName : List Piece → Prop
  | mk {p : Piece} {rest : List Piece} : (p.IsName ∨ p.IsGroupOf [.function]) → Dotted rest →
      DottedName (p :: rest)

/-- A sort direction, or another name with or without `AS`. -/
inductive AliasTail : List Piece → Prop
  | direction {s : List Piece} {p : Piece} : AllTrivia s → p.IsDirection → AliasTail (s ++ [p])
  | name {s : List Piece} {p : Piece} : AllTrivia s → p.IsName → AliasTail (s ++ [p])
  | asName {ps : List Piece} : Link IsAs IsName ps → AliasTail ps

/-! ### Groups -/

/-- The members of a group of a kind. -/
inductive HasShape : GroupKind → List Piece → Prop
  | parenthesis {o c : Piece} {inner : List Piece} : o.isLeaf .openParen = true →
      c.isLeaf .closeParen = true → (∀ p ∈ inner, ¬ p.IsParen) → HasShape .parenthesis (o :: inner ++ [c])
  | function {f a : Piece} : f.isLeafOf [.identifier, .quotedIdentifier, .reservedWord] = true →
      a.IsGroupOf [.parenthesis] → HasShape .function [f, a]
  | operation {p : Piece} {rest : List Piece} : p.IsOperand → Joined IsArithmetic IsOperand rest →
      HasShape .operation (p :: rest)
  | comparison {p : Piece} {rest : List Piece} : p.IsOperand → Link IsComparison IsOperand rest →
      HasShape .comparison (p :: rest)
  | identifierList {p : Piece} {rest : List Piece} : p.IsListItem → Joined IsComma IsListItem rest →
      HasShape .identifierList (p :: rest)
  | dottedName {ps : List Piece} : DottedName ps → HasShape .identifier ps
  | dottedAlias {ps tail : List Piece} : DottedName ps → AliasTail tail →
      HasShape .identifier (ps ++ tail)
  | aliased {p : Piece} {tail : List Piece} : p.IsAliasable → AliasTail tail →
      HasShape .identifier (p :: tail)
  | namedLiteral {p : Piece} {tail : List Piece} : p.IsLiteral → Link IsAs IsName tail →
      HasShape .identifier (p :: tail)
  | whereClause {w : Piece} {rest : List Piece} : w.isLeaf (.keyword .WHERE) = true →
      (∀ p ∈ rest, ¬ p.EndsClause) → HasShape .whereClause (w :: rest)
  | caseExpression {c e : Piece} {body : List Piece} : c.isLeaf (.keyword .CASE) = true →
      e.isLeaf (.keyword .END) = true →
      (∀ p ∈ body, p.isLeafOf [.keyword .CASE, .keyword .END] = false) →
      HasShape .caseExpression (c :: body ++ [e])

/-- Every group at and below a piece has the shape of its kind, and a parenthesis is a member of a
parenthesis group only. -/
inductive Shaped : Piece → Prop
  | leaf (t : Token) : Shaped (leaf t)
  | group {kind : GroupKind} {text : String} {pos : Position} {members : List Piece} :
      HasShape kind members → (kind ≠ .parenthesis → ∀ p ∈ members, ¬ p.IsParen) →
      (∀ p ∈ members, Shaped p) → Shaped (group kind text pos members)

end Piece

open Piece Pattern

namespace Rules

variable {ps : List Piece}

/-! ### Parts of the patterns -/

theorem isLeaf_iff (p : Piece) (k : LexClass) : p.isLeafOf [k] = true ↔ p.isLeaf k = true := by
  cases p with
  | leaf t => simp [isLeafOf, isLeaf, lexClass?]
  | group kind text pos members => simp [isLeafOf, isLeaf, lexClass?]

theorem allTrivia_of_matches (h : space.Matches ps) : AllTrivia ps := by
  obtain ⟨items, rfl, hitems⟩ := h
  intro p hp
  obtain ⟨qs, hqs, hmem⟩ := List.mem_flatten.mp hp
  obtain ⟨q, rfl, hq⟩ := hitems qs hqs
  obtain rfl : p = q := List.mem_singleton.mp hmem
  cases p with
  | leaf t =>
    have hclass : t.lexClass = .whitespace ∨ t.lexClass = .lineComment ∨ t.lexClass = .blockComment := by
      simpa [isLeafOf] using hq
    show t.lexClass.isTrivia = true
    rcases hclass with hclass | hclass | hclass
    · rw [hclass]; rfl
    · rw [hclass]; rfl
    · rw [hclass]; rfl
  | group kind text pos members => cases hq

theorem exists_operand (h : operand.Matches ps) : ∃ p, ps = [p] ∧ p.IsOperand := by
  rcases h with ⟨p, rfl, hp⟩ | ⟨p, rfl, hp⟩ | ⟨p, rfl, hp⟩
  · exact ⟨p, rfl, .inl hp⟩
  · exact ⟨p, rfl, .inr (.inl hp)⟩
  · exact ⟨p, rfl, .inr (.inr hp)⟩

theorem exists_listItem (h : listItem.Matches ps) : ∃ p, ps = [p] ∧ p.IsListItem := by
  rcases h with h | ⟨p, rfl, hp⟩ | ⟨p, rfl, hp⟩
  · obtain ⟨p, rfl, hp⟩ := exists_operand h
    exact ⟨p, rfl, .inl hp⟩
  · exact ⟨p, rfl, .inr (.inl ((isLeaf_iff _ _).mp hp))⟩
  · exact ⟨p, rfl, .inr (.inr hp)⟩

theorem exists_qualifierTail (h : qualifierTail.Matches ps) :
    ∃ p, ps = [p] ∧ (p.IsName ∨ p.isLeaf .wildcard = true ∨ p.IsGroupOf [.function]) := by
  rcases h with ⟨p, rfl, hp⟩ | ⟨p, rfl, hp⟩ | ⟨p, rfl, hp⟩
  · exact ⟨p, rfl, .inl hp⟩
  · exact ⟨p, rfl, .inr (.inl ((isLeaf_iff _ _).mp hp))⟩
  · exact ⟨p, rfl, .inr (.inr hp)⟩

theorem exists_aliasable (h : aliasable.Matches ps) :
    ∃ p, ps = [p] ∧ (p.IsAliasable ∨ p.IsGroupOf [.identifier]) := by
  rcases h with ⟨p, rfl, hp⟩ | ⟨p, rfl, kind, hmem, hkind⟩
  · exact ⟨p, rfl, .inl (.inl hp)⟩
  · refine ⟨p, rfl, ?_⟩
    rcases List.mem_cons.mp hmem with rfl | hmem
    · exact .inr ⟨.identifier, by simp, hkind⟩
    · exact .inl (.inr ⟨kind, hmem, hkind⟩)

/-! ### Links

In the patterns of operations, comparisons and lists, a first item is followed by links of one kind. -/

section Links

variable {first mark item : Pattern} {M I : Piece → Prop}

theorem link_of_matches (hmark : ∀ qs, mark.Matches qs → ∃ m, qs = [m] ∧ M m)
    (hitem : ∀ qs, item.Matches qs → ∃ p, qs = [p] ∧ I p)
    (h : (space ++ mark ++ space ++ item).Matches ps) : Link M I ps := by
  obtain ⟨_, _, rfl, ⟨_, t, rfl, ⟨s, _, rfl, hs, hmark'⟩, ht⟩, hitem'⟩ := h
  obtain ⟨m, rfl, hm⟩ := hmark _ hmark'
  obtain ⟨p, rfl, hp⟩ := hitem _ hitem'
  have hlink := Link.mk (allTrivia_of_matches hs) hm (allTrivia_of_matches ht) hp
  rw [List.append_assoc s [m] t, List.singleton_append]
  exact hlink

theorem link_after (hmark : ∀ qs, mark.Matches qs → ∃ m, qs = [m] ∧ M m)
    (hitem : ∀ qs, item.Matches qs → ∃ p, qs = [p] ∧ I p)
    (h : (first ++ space ++ mark ++ space ++ item).Matches ps) :
    ∃ qs rest, ps = qs ++ rest ∧ first.Matches qs ∧ Link M I rest := by
  obtain ⟨_, p, rfl, ⟨_, t, rfl, ⟨_, m, rfl, ⟨qs, s, rfl, hfirst, hs⟩, hm⟩, ht⟩, hp⟩ := h
  refine ⟨qs, s ++ m ++ t ++ p, by simp, hfirst, link_of_matches hmark hitem ?_⟩
  exact ⟨_, _, rfl, ⟨_, _, rfl, ⟨_, _, rfl, hs, hm⟩, ht⟩, hp⟩

theorem joined_append_flatten {items : List (List Piece)} (h : Link M I ps)
    (hitems : ∀ qs ∈ items, Link M I qs) : Joined M I (ps ++ items.flatten) := by
  induction items generalizing ps with
  | nil =>
    rw [List.flatten_nil, List.append_nil]
    exact .one h
  | cons qs items ih =>
    rw [List.flatten_cons]
    exact .cons h (ih (hitems qs (by simp)) fun r hr => hitems r (by simp [hr]))

theorem joined_after (hmark : ∀ qs, mark.Matches qs → ∃ m, qs = [m] ∧ M m)
    (hitem : ∀ qs, item.Matches qs → ∃ p, qs = [p] ∧ I p)
    (h : (first ++ space ++ mark ++ space ++ item ++ many (space ++ mark ++ space ++ item)).Matches ps) :
    ∃ qs rest, ps = qs ++ rest ∧ first.Matches qs ∧ Joined M I rest := by
  obtain ⟨_, _, rfl, hhead, items, rfl, hitems⟩ := h
  obtain ⟨qs, rest, rfl, hfirst, hlink⟩ := link_after hmark hitem hhead
  refine ⟨qs, rest ++ items.flatten, by rw [List.append_assoc], hfirst, ?_⟩
  exact joined_append_flatten hlink fun r hr => link_of_matches hmark hitem (hitems r hr)

end Links

/-! ### Matches have the shape of their group -/

theorem hasShape_of_functionCall (h : functionCall.Matches ps) : HasShape .function ps := by
  obtain ⟨_, _, rfl, ⟨f, rfl, hf⟩, a, rfl, ha⟩ := h
  exact .function hf ha

theorem dottedName_of_qualifiedName (h : qualifiedName.Matches ps) : DottedName ps := by
  obtain ⟨_, _, rfl, ⟨_, _, rfl, ⟨_, _, rfl, hfirst, d, rfl, hd⟩, htail⟩, items, rfl, hitems⟩ := h
  have hmore : ∀ {d p : Piece} {items : List (List Piece)}, d.isLeaf .dot = true →
      (p.IsName ∨ p.isLeaf .wildcard = true ∨ p.IsGroupOf [.function]) →
      (∀ qs ∈ items, (leafOf [.dot] ++ qualifierTail).Matches qs) → Dotted (d :: p :: items.flatten) := by
    intro d p items hd hp hitems
    induction items generalizing d p with
    | nil => exact .one hd hp
    | cons qs items ih =>
      obtain ⟨_, _, rfl, ⟨e, rfl, he⟩, htail⟩ := hitems qs (by simp)
      obtain ⟨q, rfl, hq⟩ := exists_qualifierTail htail
      exact .cons hd hp (ih ((isLeaf_iff _ _).mp he) hq fun r hr => hitems r (by simp [hr]))
  obtain ⟨p, rfl, hp⟩ := exists_qualifierTail htail
  have hdotted := hmore ((isLeaf_iff _ _).mp hd) hp hitems
  rcases hfirst with ⟨f, rfl, hf⟩ | ⟨f, rfl, hf⟩
  · exact .mk (.inl hf) hdotted
  · exact .mk (.inr hf) hdotted

theorem hasShape_of_operation (h : Rules.operation.Matches ps) : HasShape .operation ps := by
  have hoperator : ∀ qs, arithmeticOperator.Matches qs → ∃ m, qs = [m] ∧ m.IsArithmetic := fun _ hm => hm
  obtain ⟨_, rest, rfl, hfirst, hrest⟩ := joined_after hoperator (fun _ => exists_operand) h
  obtain ⟨p, rfl, hp⟩ := exists_operand hfirst
  exact .operation hp hrest

theorem hasShape_of_comparison (h : Rules.comparison.Matches ps) : HasShape .comparison ps := by
  have hoperator : ∀ qs, comparisonOperator.Matches qs → ∃ m, qs = [m] ∧ m.IsComparison := fun _ hm => hm
  obtain ⟨_, rest, rfl, hfirst, hrest⟩ := link_after hoperator (fun _ => exists_operand) h
  obtain ⟨p, rfl, hp⟩ := exists_operand hfirst
  exact .comparison hp hrest

theorem hasShape_of_itemList (h : itemList.Matches ps) : HasShape .identifierList ps := by
  have hcomma : ∀ qs, (leafOf [.comma]).Matches qs → ∃ m, qs = [m] ∧ m.IsComma := by
    rintro qs ⟨m, rfl, hm⟩
    exact ⟨m, rfl, (isLeaf_iff _ _).mp hm⟩
  obtain ⟨_, rest, rfl, hfirst, hrest⟩ := joined_after hcomma (fun _ => exists_listItem) h
  obtain ⟨p, rfl, hp⟩ := exists_listItem hfirst
  exact .identifierList hp hrest

/-- A piece with another name or a sort direction is one that may have it or a dotted name, or it is a
literal with `AS` and a name. -/
theorem aliased_cases (h : aliased.Matches ps) : ∃ p tail, ps = p :: tail ∧
    ((p.IsAliasable ∨ p.IsGroupOf [.identifier]) ∧ AliasTail tail ∨
      p.IsLiteral ∧ Link IsAs IsName tail) := by
  have has : ∀ qs, (leafOf [.keyword .AS]).Matches qs → ∃ m, qs = [m] ∧ m.IsAs := by
    rintro qs ⟨m, rfl, hm⟩
    exact ⟨m, rfl, (isLeaf_iff _ _).mp hm⟩
  rcases h with h | h | h
  · obtain ⟨_, _, rfl, ⟨_, s, rfl, hfirst, hs⟩, w, rfl, hw, hword⟩ := h
    obtain ⟨p, rfl, hp⟩ := exists_aliasable hfirst
    refine ⟨p, s ++ [w], rfl, .inl ⟨hp, .direction (allTrivia_of_matches hs) ⟨hw, ?_⟩⟩⟩
    simpa using hword
  · obtain ⟨_, _, rfl, ⟨_, mid, rfl, ⟨_, s, rfl, hfirst, hs⟩, hmid⟩, n, rfl, hn⟩ := h
    obtain ⟨p, rfl, hp⟩ := exists_aliasable hfirst
    rcases hmid with ⟨_, t, rfl, has', ht⟩ | rfl
    · obtain ⟨a, rfl, ha⟩ := has _ has'
      refine ⟨p, s ++ a :: t ++ [n], by simp, .inl ⟨hp, .asName ?_⟩⟩
      exact .mk (allTrivia_of_matches hs) ha (allTrivia_of_matches ht) hn
    · exact ⟨p, s ++ [n], by simp, .inl ⟨hp, .name (allTrivia_of_matches hs) hn⟩⟩
  · have hname : ∀ qs, name.Matches qs → ∃ n, qs = [n] ∧ n.IsName := fun _ hn => hn
    obtain ⟨_, rest, rfl, ⟨p, rfl, hp⟩, hrest⟩ := link_after has hname h
    exact ⟨p, rest, rfl, .inr ⟨hp, hrest⟩⟩

end Rules

end SqlOutline
