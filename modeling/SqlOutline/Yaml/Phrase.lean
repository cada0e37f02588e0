import SqlOutline.Yaml.Lexeme.Basic

/-!
# Phrases of YAML

Lexemes that belong together are joined into phrases before the structure of a document is read: a header with
its block, a mark with its name, a key with its colon and with a value in the same line.

* `Yaml.Phrase` : a lexeme, or several of them;
* `Yaml.Phrase.ofLexemes?` : the phrases of a text;
* `Yaml.Phrase.documents?` : the phrases of each document.
-/

namespace SqlOutline.Yaml

/-- A lexeme, or several that belong together. -/
inductive Phrase where
  /-- A single lexeme. -/
  | lexeme (x : Lexeme)
  /-- A header and the text of the block. -/
  | block (header : Lexeme) (text : Option Lexeme)
  /-- The name of an anchor. -/
  | anchorName (mark : Lexeme) (name : Phrase)
  /-- An anchor with its scalar. -/
  | anchored (mark : Lexeme) (name value : Phrase)
  /-- A reference to an anchor. -/
  | reference (mark : Lexeme) (name : Phrase)
  /-- A tag with its scalar. -/
  | tagged (tag : Lexeme) (value : Phrase)
  /-- A key with its colon. -/
  | key (name : Phrase) (colon : Lexeme)
  /-- A key behind a question mark. -/
  | askedKey (mark : Lexeme) (name : Phrase)
  /-- A key with a value in its line. -/
  | member (key value : Phrase)
  /-- A directive with its values. -/
  | directive (mark : Lexeme) (name : Phrase) (values : List Phrase)

namespace Phrase

/-- The first lexeme of a phrase. -/
def first : Phrase → Lexeme
  | lexeme x => x
  | block header _ => header
  | anchorName mark _ => mark
  | anchored mark _ _ => mark
  | reference mark _ => mark
  | tagged tag _ => tag
  | key name _ => name.first
  | askedKey mark _ => mark
  | member k _ => k.first
  | directive mark _ _ => mark

/-- The kind of the first lexeme. -/
def kind (p : Phrase) : LexemeKind := p.first.kind

/-- The line that a phrase starts in. -/
def line (p : Phrase) : Nat := p.first.line

/-- The column that a phrase starts at. -/
def column (p : Phrase) : Nat := p.first.column

/-- Whether a phrase starts a member of a mapping. -/
def isKey : Phrase → Bool
  | key _ _ => true
  | askedKey _ _ => true
  | member _ _ => true
  | _ => false

/-- Whether a phrase is the name of an anchor. -/
def isAnchorName : Phrase → Bool
  | anchorName _ _ => true
  | _ => false

/-- Whether a phrase is a tag without a value. -/
def isTag : Phrase → Bool
  | lexeme x => x.kind == .tag
  | _ => false

/-- Whether a phrase can stand where a scalar is expected. -/
def isScalar (p : Phrase) : Bool := !p.isKey && p.first.isScalar

/-- Whether a phrase belongs to a mapping. -/
def isMap : Phrase → Bool
  | lexeme x => x.kind == .openMap || x.kind == .closeMap
  | p => p.isKey

/-! ### Joining lexemes -/

/-- Joins headers and blocks. -/
def joinBlocks : List Lexeme → List Phrase
  | [] => []
  | [x] => [if x.kind == .block then block x none else lexeme x]
  | x :: y :: rest =>
    if x.kind == .block then block x (some y) :: joinBlocks rest else lexeme x :: joinBlocks (y :: rest)

/-- Joins the marks of anchors and references with their names, and anchors with a scalar in their line. -/
def joinNames : List Phrase → Option (List Phrase)
  | [] => some []
  | [p] => if p.kind == .anchor || p.kind == .reference then none else some [p]
  | [p, q] =>
    if p.kind == .anchor then none
    else if p.kind == .reference then some [reference p.first q]
    else (joinNames [q]).map (p :: ·)
  | p :: q :: r :: rest =>
    if p.kind == .anchor then
      if p.line == r.line && r.kind == .item then none
      else if p.line == r.line && r.isScalar then (joinNames rest).map (anchored p.first q r :: ·)
      else (joinNames (r :: rest)).map (anchorName p.first q :: ·)
    else if p.kind == .reference then (joinNames (r :: rest)).map (reference p.first q :: ·)
    else (joinNames (q :: r :: rest)).map (p :: ·)

/-- The tags of scalars. -/
def scalarTags : List String :=
  ["!!int", "!!float", "!!str", "!!binary", "!!timestamp", "!!bool", "!!null"]

/-- Whether a tag is joined with the phrase behind it; `none` if it must not stand there. -/
def takesTag? (tag : Lexeme) (p : Phrase) : Option Bool :=
  if tag.line != p.line || p.isAnchorName then some false
  else if scalarTags.contains tag.text then some p.isScalar
  else if tag.text == "!!merge" then if p.kind == .merge then some true else none
  else if tag.text.startsWith "!!" then some false
  else some (!([.openMap, .closeMap, .openSeq, .item].contains p.kind))

/-- Joins tags with the scalars in their line. -/
def joinTags : List Phrase → Option (List Phrase)
  | [] => some []
  | [p] => some [p]
  | p :: q :: rest =>
    if p.isTag then
      match takesTag? p.first q with
      | none => none
      | some true => (joinTags rest).map (tagged p.first q :: ·)
      | some false => (joinTags (q :: rest)).map (p :: ·)
    else (joinTags (q :: rest)).map (p :: ·)

/-- Joins anchors with the tagged scalars in their line. -/
def joinTagged : List Phrase → Option (List Phrase)
  | [] => some []
  | [p] => if p.isAnchorName then none else some [p]
  | p :: q :: rest =>
    match p, q with
    | anchorName mark name, tagged tag value =>
      if mark.line == tag.line then (joinTagged rest).map (anchored mark name (tagged tag value) :: ·)
      else (joinTagged (q :: rest)).map (p :: ·)
    | _, _ => (joinTagged (q :: rest)).map (p :: ·)

/-- Joins question marks with their keys. -/
def joinAsked : List Phrase → Option (List Phrase)
  | [] => some []
  | [p] => if p.kind == .question then none else some [p]
  | p :: q :: rest =>
    if p.kind == .question then (joinAsked rest).map (askedKey p.first q :: ·)
    else (joinAsked (q :: rest)).map (p :: ·)

/-- The kinds of lexemes that no key starts with. -/
def notKeys : List LexemeKind :=
  [.directive, .documentStart, .documentEnd, .comma, .openMap, .colon, .closeMap, .openSeq, .item, .closeSeq]

/-- Joins keys with their colons; a colon without a key is an error. -/
def joinKeys : List Phrase → Option (List Phrase)
  | [] => some []
  | [p] => if p.kind == .colon then none else some [p]
  | p :: q :: rest =>
    if p.kind == .colon then none
    else if q.kind == .colon then
      if notKeys.contains p.kind then none
      else
        match p with
        | askedKey _ _ => (joinKeys rest).map (p :: ·)
        | _ => (joinKeys rest).map (key p q.first :: ·)
    else (joinKeys (q :: rest)).map (p :: ·)

/-- Whether a value is joined with a key in the same line. -/
def isJoined (k value : Phrase) : Bool :=
  k.line == value.line && !value.isAnchorName && !value.isTag && (value.isScalar || value.kind == .tag)

/-- Joins keys with the values in their lines. -/
def joinMembers : List Phrase → List Phrase
  | [] => []
  | [p] => [p]
  | p :: q :: rest =>
    if p.isKey && isJoined p q then member p q :: joinMembers rest else p :: joinMembers (q :: rest)

/-- Joins directives with their values.  A document must start behind a directive. -/
def joinDirectives : List Phrase → Option (List Phrase)
  | [] => some []
  | [p] => if p.kind == .directive then none else some [p]
  | p :: q :: rest =>
    if p.kind == .directive then
      let values := rest.takeWhile (·.line == p.line)
      let after := rest.dropWhile (·.line == p.line)
      if after.head?.any (·.kind == .documentStart) then
        (joinDirectives after).map (directive p.first q values :: ·)
      else none
    else (joinDirectives (q :: rest)).map (p :: ·)
termination_by ps => ps.length
decreasing_by
  · have := (List.dropWhile_sublist (fun x : Phrase => x.line == p.line) (l := rest)).length_le
    simp only [List.length_cons]; omega
  · simp only [List.length_cons]; omega

/-- The phrases of a text. -/
def ofLexemes? (xs : List Lexeme) : Option (List Phrase) := do
  let ps ← joinNames (joinBlocks xs)
  let ps ← joinTags ps
  let ps ← joinTagged ps
  let ps ← joinAsked ps
  let ps ← joinKeys ps
  joinDirectives (joinMembers ps)

/-! ### Documents -/

/-- Whether a phrase divides documents. -/
def isMarker (p : Phrase) : Bool := p.kind == .documentStart || p.kind == .documentEnd

/-- The phrases of each document, with the markers at its start and end.  Behind a start without a document
nothing more is read. -/
def documents? (ps : List Phrase) : Option (List (List Phrase)) :=
  let head := ps.takeWhile (!·.isMarker)
  match _h : ps.dropWhile (!·.isMarker) with
  | [] => some [ps]
  | [m] =>
    if m.kind == .documentStart then some ((if head.isEmpty then [] else [head]) ++ [[m]])
    else some (if head.isEmpty then [] else [head ++ [m]])
  | m :: p :: rest =>
    if m.kind == .documentStart then
      let before := if head.isEmpty then [] else [head]
      if p.kind == .documentStart then some (before ++ [[m]])
      else if m.line == p.line && (p.isKey || p.kind == .item) then none
      else
        match documents? (p :: rest) with
        | none => none
        | some [] => some (before ++ [[m]])
        | some (d :: ds) => some (before ++ (m :: d) :: ds)
    else if p.isScalar then none
    else (documents? (p :: rest)).map ((if head.isEmpty then [] else [head ++ [m]]) ++ ·)
termination_by ps.length
decreasing_by
  all_goals
    have := (List.dropWhile_sublist (fun x : Phrase => !x.isMarker) (l := ps)).length_le
    rw [_h] at this
    simp only [List.length_cons] at this ⊢; omega

end Phrase

end SqlOutline.Yaml
