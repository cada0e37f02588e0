import SqlOutline.Piece.Pattern

/-!
# Grouping rules

The rules that turn the pieces of one nesting level into groups.  Parentheses are already groups when the
rules run.  They run in this order: `CASE` expressions, wildcards, function calls, dotted names,
operations, comparisons, aliases, lists, and `WHERE` clauses.

* `Rules.foldCases` : `CASE … END` becomes one group, and its inside is grouped like a level of its own;
* `Rules.markWildcards` : a star without an operand before it stands for all columns;
* `Rules.foldWhere` : `WHERE` takes everything up to the next clause;
* `Rules.groupLevel` : all rules on one level.
-/

namespace SqlOutline.Rules

open Pattern

/-! ### Parts of the patterns -/

/-- White space and comments, as many as there are. -/
def space : Pattern := many (leafOf [.whitespace, .lineComment, .blockComment])

/-- A name. -/
def name : Pattern := leafOf [.identifier, .quotedIdentifier]

/-- A literal value. -/
def literal : Pattern := leafOf [.number, .string, .placeholder, .keyword .NULL, .boolean]

/-- A value that operators and comparisons take. -/
def operand : Pattern :=
  name <|> literal <|>
    groupOf [.parenthesis, .function, .identifier, .caseExpression, .operation]

/-- An operator between two values. -/
def arithmeticOperator : Pattern := leafOf [.plus, .minus, .star, .slash, .percent, .concat]

/-- An operator that compares two values. -/
def comparisonOperator : Pattern :=
  leafOf [.equal, .notEqual, .less, .greater, .lessEqual, .greaterEqual, .keyword .LIKE]

/-- What may follow a dot of a dotted name. -/
def qualifierTail : Pattern := name <|> leafOf [.wildcard] <|> groupOf [.function]

/-- What may be given another name. -/
def aliasable : Pattern :=
  name <|> groupOf [.identifier, .function, .parenthesis, .operation, .caseExpression]

/-- An item of a list. -/
def listItem : Pattern := operand <|> leafOf [.wildcard] <|> groupOf [.comparison]

/-! ### The patterns of the rules -/

/-- A function name and its argument list. -/
def functionCall : Pattern :=
  leafOf [.identifier, .quotedIdentifier, .reservedWord] ++ groupOf [.parenthesis]

/-- Names joined by dots. -/
def qualifiedName : Pattern :=
  (name <|> groupOf [.function]) ++ leafOf [.dot] ++ qualifierTail
    ++ many (leafOf [.dot] ++ qualifierTail)

/-- Values joined by operators. -/
def operation : Pattern :=
  operand ++ space ++ arithmeticOperator ++ space ++ operand
    ++ many (space ++ arithmeticOperator ++ space ++ operand)

/-- Two values and what compares them. -/
def comparison : Pattern := operand ++ space ++ comparisonOperator ++ space ++ operand

/-- A value with another name or a sort direction.  A literal takes a name only after `AS`. -/
def aliased : Pattern :=
  (aliasable ++ space ++ wordOf ["asc", "desc"])
    <|> (aliasable ++ space ++ optional (leafOf [.keyword .AS] ++ space) ++ name)
    <|> (literal ++ space ++ leafOf [.keyword .AS] ++ space ++ name)

/-- Items separated by commas. -/
def itemList : Pattern :=
  listItem ++ space ++ leafOf [.comma] ++ space ++ listItem
    ++ many (space ++ leafOf [.comma] ++ space ++ listItem)

/-! ### Building groups -/

/-- The group of the matched pieces.  When they start with a group of the same kind, its members are taken
over, except for operations, which stay nested. -/
def merge (kind : GroupKind) (matched : List Piece) : Piece :=
  match matched with
  | .group first _ _ members :: next :: rest =>
    if first = kind ∧ kind ≠ .operation then .ofMembers kind (members ++ next :: rest)
    else .ofMembers kind matched
  | _ => .ofMembers kind matched

/-- A star without an operand before it becomes a wildcard; `previous` is the last significant piece. -/
def markWildcardsFrom : (previous : Option Piece) → List Piece → List Piece
  | _, [] => []
  | previous, p :: ps =>
    if p.isTrivia then p :: markWildcardsFrom previous ps
    else
      let marked :=
        match p with
        | .leaf t =>
          if t.lexClass = .star ∧ (previous.all (·.isLeafOf [.keyword .SELECT, .comma, .dot,
              .keyword .DISTINCT, .keyword .ALL, .keyword .RETURNING])) then
            .leaf { t with lexClass := .wildcard }
          else p
        | .group _ _ _ _ => p
      marked :: markWildcardsFrom (some marked) ps

/-- Marks the wildcards of a level. -/
def markWildcards (ps : List Piece) : List Piece := markWildcardsFrom none ps

/-- The leaves that end a `WHERE` clause. -/
def endsWhere (p : Piece) : Bool :=
  p.isLeafOf [.keyword .ORDER, .keyword .GROUP, .keyword .LIMIT, .keyword .OFFSET, .keyword .HAVING,
    .keyword .UNION, .keyword .EXCEPT, .keyword .INTERSECT, .keyword .RETURNING, .semicolon]

/-- Folds every `WHERE` and what follows it, up to the next clause, into one group. -/
def foldWhere : List Piece → List Piece
  | [] => []
  | p :: ps =>
    if p.isLeaf (.keyword .WHERE) then
      .ofMembers .whereClause (p :: ps.takeWhile (!endsWhere ·)) :: foldWhere (ps.dropWhile (!endsWhere ·))
    else p :: foldWhere ps
termination_by ps => ps.length
decreasing_by
  · have := (List.dropWhile_sublist (fun q => !endsWhere q) (l := ps)).length_le
    simp only [List.length_cons]; omega
  · simp only [List.length_cons]; omega

/-- Splits a list at the `END` that closes the given number of open `CASE`s. -/
def splitAtEnd : (opened : Nat) → List Piece → Option (List Piece × Piece × List Piece)
  | _, [] => none
  | opened, p :: ps =>
    if p.isLeaf (.keyword .CASE) then
      (splitAtEnd (opened + 1) ps).map fun (body, last, rest) => (p :: body, last, rest)
    else if p.isLeaf (.keyword .END) then
      if opened ≤ 1 then some ([], p, ps)
      else (splitAtEnd (opened - 1) ps).map fun (body, last, rest) => (p :: body, last, rest)
    else (splitAtEnd opened ps).map fun (body, last, rest) => (p :: body, last, rest)

/-- Splitting loses nothing. -/
theorem splitAtEnd_append {opened : Nat} {ps body rest : List Piece} {last : Piece}
    (h : splitAtEnd opened ps = some (body, last, rest)) : ps = body ++ last :: rest := by
  induction ps generalizing opened body last rest with
  | nil => simp [splitAtEnd] at h
  | cons p ps ih =>
    have step : ∀ {n}, (splitAtEnd n ps).map (fun (b, l, r) => (p :: b, l, r)) = some (body, last, rest) →
        p :: ps = body ++ last :: rest := by
      intro n hn
      obtain ⟨⟨b, l, r⟩, hb, he⟩ := Option.map_eq_some_iff.1 hn
      obtain ⟨rfl, rfl, rfl⟩ : p :: b = body ∧ l = last ∧ r = rest := by simpa using he
      simpa using ih hb
    rw [splitAtEnd] at h
    split at h
    · exact step h
    · split at h
      · split at h
        · obtain ⟨rfl, rfl, rfl⟩ : [] = body ∧ p = last ∧ ps = rest := by simpa using h
          rfl
        · exact step h
      · exact step h

/-- The rules after `CASE` folding, on one level. -/
def applyRules (ps : List Piece) : List Piece :=
  foldWhere
    (itemList.replaceAll (merge .identifierList)
      (aliased.replaceAll (merge .identifier)
        (comparison.replaceAll (merge .comparison)
          (operation.replaceAll (merge .operation)
            (qualifiedName.replaceAll (merge .identifier)
              (functionCall.replaceAll (merge .function) (markWildcards ps)))))))

/-- Folds every `CASE` that has an `END` into one group, with the inside grouped as a level of its own. -/
def foldCases : List Piece → List Piece
  | [] => []
  | p :: ps =>
    if p.isLeaf (.keyword .CASE) then
      match _h : splitAtEnd 1 ps with
      | some (body, last, rest) =>
        .ofMembers .caseExpression (p :: applyRules (foldCases body) ++ [last]) :: foldCases rest
      | none => p :: foldCases ps
    else p :: foldCases ps
termination_by ps => ps.length
decreasing_by
  all_goals first
    | simp only [List.length_cons]; omega
    | rw [splitAtEnd_append _h]; simp only [List.length_append, List.length_cons]; omega

/-- All rules on the pieces of one nesting level. -/
def groupLevel (ps : List Piece) : List Piece := applyRules (foldCases ps)

end SqlOutline.Rules
