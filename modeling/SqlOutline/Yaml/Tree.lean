import SqlOutline.Yaml.Lexeme.Lexer
import SqlOutline.Yaml.Phrase

/-!
# The structure of YAML documents

The columns of phrases decide what belongs to what: the members of a mapping and the items of a sequence stand
in one column, and a value stands behind its key or in its line.

* `Yaml.Tree` : scalars, sequences and mappings as they are written, with anchors, references and tags;
* `Yaml.Tree.value?` : reads a value from phrases;
* `Yaml.Tree.ofText?` : the trees of the documents of a text.
-/

namespace SqlOutline.Yaml

/-- What a document holds, as it is written. -/
inductive Tree where
  /-- A scalar. -/
  | scalar (s : Scalar)
  /-- The items of a sequence. -/
  | sequence (items : List Tree)
  /-- The members of a mapping, in order. -/
  | mapping (members : List (Tree × Tree))
  /-- The key whose value is merged into the mapping. -/
  | merge
  /-- A value with a name. -/
  | anchor (line : Nat) (name : String) (value : Tree)
  /-- The value with a name. -/
  | reference (name : String)
  /-- A value with a tag. -/
  | tag (mark : Lexeme) (value : Tree)
  /-- A directive. -/
  | directive

namespace Tree

/-- The missing value. -/
def null : Tree := scalar .null

/-- Whether a tree is an anchor. -/
def isAnchor : Tree → Bool
  | anchor _ _ _ => true
  | _ => false

/-- A member of a mapping, with the text of its key if that must be the only one. -/
structure Member where
  /-- The text of the key. -/
  text : Option String
  /-- The key. -/
  key : Tree
  /-- The value. -/
  value : Tree

/-- The mapping with the given members, if no key comes twice. -/
def ofMembers? (members : List Member) : Option Tree :=
  if (members.filterMap (·.text)).Nodup then some (mapping (members.map fun m => (m.key, m.value))) else none

/-! ### Scalars and keys -/

/-- The scalar that a tag of scalars stands for without a value. -/
def tagDefault (tag : String) : Scalar :=
  if tag == "!!int" then .int 0
  else if tag == "!!float" then .float 0
  else if tag == "!!bool" then .bool false
  else if tag == "!!null" then .null
  else .text ""

/-- The text of a block. -/
def blockText? : Option Lexeme → Option Tree
  | none => some (scalar (.text ""))
  | some x => if x.isBareText || x.kind == .quoted then some (scalar (.text x.text)) else none

/-- The scalar that a phrase writes. -/
def scalar? : Phrase → Option Tree
  | .lexeme x =>
    match x.scalar? with
    | some s => some (scalar s)
    | none =>
      if x.kind == .merge then some merge
      else if x.kind == .tag && Phrase.scalarTags.contains x.text then some (tag x (scalar (tagDefault x.text)))
      else none
  | .block _ text => blockText? text
  | .anchorName mark name => (scalar? name).map fun _ => anchor mark.line name.first.text null
  | .anchored mark name value => do
    let _ ← scalar? name
    let value ← scalar? value
    if value.isAnchor then none else some (anchor mark.line name.first.text value)
  | .reference _ name => (scalar? name).map fun _ => reference name.first.text
  | .tagged mark value => (scalar? value).map (tag mark)
  | _ => none

/-- The text that a key is known by. -/
def keyText : Phrase → String
  | .lexeme x => x.text
  | .block header _ => header.text
  | .anchored _ _ value => keyText value
  | .tagged _ value => keyText value
  | _ => ""

/-- Whether a key is written over several lines. -/
def breaksLine (flow : Bool) (x colon : Lexeme) : Bool :=
  let isGap := fun c => c == ' ' || isBreak c
  let raw := x.raw.dropWhile isGap
  if flow then
    let raw := if x.isBareText then Text.dropEndWhile isGap raw else raw
    decide (x.line < colon.line) && raw.any isBreak
  else (x.isBareText || x.kind == .quoted) && raw.any isBreak

/-- The key that a phrase writes, and the text it is known by. -/
def key? (flow : Bool) : Phrase → Option (Tree × String)
  | .key name colon => do
    let tree ← scalar? name
    if breaksLine flow name.first colon then none else some (tree, keyText name)
  | .askedKey _ name => (scalar? name).map fun tree => (tree, keyText name)
  | _ => none

/-! ### Directives -/

/-- The versions of the language. -/
def versions : List String := ["1.0", "1.1", "1.2", "1.3"]

/-- Whether a directive is written as it must be. -/
def isDirective (name : Phrase) (values : List Phrase) : Bool :=
  if name.first.text == "YAML" && !values.isEmpty then
    match values with
    | [v] => versions.contains v.first.text
    | _ => false
  else if name.first.text == "TAG" && !values.isEmpty then values.length == 2
  else true

/-! ### Collections -/

/-- Whether a phrase ends a member of a mapping in braces. -/
def endsMember (p : Phrase) : Bool := p.kind == .closeMap || p.kind == .comma

/-- Whether a tag behind an anchor may stand where it does, for a value of a key or item in a column. -/
def isTagPlaced (column : Nat) : Tree → Bool
  | anchor line _ (tag mark _) => line == mark.line || column < mark.column
  | _ => true

/-- Whether a phrase must not stand as the value of a key or item in a column. -/
def isMisplaced (column : Nat) (p : Phrase) : Bool :=
  decide (p.column ≤ column) && (p.isAnchorName || p.kind == .tag)

mutual

/-- Reads a value, and returns the phrases behind it. -/
def value? : (fuel : Nat) → (flow : Bool) → List Phrase → Option (Tree × List Phrase)
  | 0, _, _ => none
  | _, _, [] => none
  | fuel + 1, flow, p :: rest =>
    match p with
    | .key _ _ => mapping? fuel flow (p :: rest)
    | .askedKey _ _ => mapping? fuel flow (p :: rest)
    | .member _ _ => mapping? fuel flow (p :: rest)
    | .directive _ name values => if isDirective name values then some (directive, rest) else none
    | .anchorName mark name => do
      let _ ← scalar? name
      let (value, rest) ← value? fuel flow rest
      if value.isAnchor then none else some (anchor mark.line name.first.text value, rest)
    | .anchored mark name value => do
      let _ ← scalar? name
      let (value, _) ← value? fuel flow [value]
      if value.isAnchor then none else some (anchor mark.line name.first.text value, rest)
    | .tagged mark value => (tagged? fuel flow mark [value]).map fun (tree, _) => (tree, rest)
    | .reference _ _ => (scalar? p).map (·, rest)
    | .block _ _ => (scalar? p).map (·, rest)
    | .lexeme x =>
      match x.kind with
      | .tag => tagged? fuel flow x rest
      | .openMap => do
        let (members, rest) ← flowMembers? fuel true rest
        return (← ofMembers? members, rest)
      | .openSeq => do
        let (items, rest) ← flowItems? fuel true rest
        return (sequence items, rest)
      | .item => do
        let (items, rest) ← items? fuel flow x (p :: rest)
        return (sequence items, rest)
      | _ => (scalar? p).map (·, rest)

/-- Reads the value of a tag. -/
def tagged? : (fuel : Nat) → (flow : Bool) → Lexeme → List Phrase → Option (Tree × List Phrase)
  | 0, _, _, _ => none
  | _, _, mark, [] => some (tag mark null, [])
  | fuel + 1, flow, mark, p :: rest =>
    let wrap := fun (r : Tree × List Phrase) => (tag mark r.1, r.2)
    if mark.text == "!!map" || mark.text == "!!set" then
      if p.isMap then (value? fuel flow (p :: rest)).map wrap else none
    else if Phrase.scalarTags.contains mark.text then
      if p.kind == .comma || p.kind == .colon then
        some (tag mark (scalar (tagDefault mark.text)), p :: rest)
      else
        match p with
        | .block _ text => (blockText? text).map fun tree => (tag mark tree, p :: rest)
        | _ => (scalar? p).map fun tree => (tag mark tree, rest)
    else if mark.text == "!!seq" || mark.text == "!!omap" then
      if p.kind == .openSeq then (value? fuel flow (p :: rest)).map wrap
      else (items? fuel flow p.first (p :: rest)).map fun (items, rest) => (tag mark (sequence items), rest)
    else (value? fuel flow (p :: rest)).map wrap

/-- Reads a mapping whose keys stand in one column. -/
def mapping? : (fuel : Nat) → (flow : Bool) → List Phrase → Option (Tree × List Phrase)
  | 0, _, _ => none
  | fuel + 1, flow, ps => do
    let (members, rest) ← members? fuel flow ps
    return (← ofMembers? members, rest)

/-- Reads a member of a mapping and those behind it. -/
def members? : (fuel : Nat) → (flow : Bool) → List Phrase → Option (List Member × List Phrase)
  | 0, _, _ => none
  | _, _, [] => none
  | fuel + 1, flow, p :: rest => do
    let (m, rest) ←
      match p with
      | .member k v => do
        let (key, text) ← key? flow k
        let (value, _) ← value? fuel flow [v]
        let fits := rest.head?.all fun q =>
          decide (q.column ≤ p.column) || (flow && (q.kind == .comma || q.kind == .closeSeq))
        if fits then some (⟨some text, key, value⟩, rest) else none
      | _ => do
        let (key, text) ← key? flow p
        if rest.head?.any fun q => q.line == p.line && q.kind == .item then none
        else
          let (value, rest) ← memberValue? fuel flow p rest
          some ((⟨some text, key, value⟩ : Member), rest)
    let (ms, rest) ← moreMembers? fuel flow p.column rest
    return (m :: ms, rest)

/-- Reads the members that follow in a column. -/
def moreMembers? : (fuel : Nat) → (flow : Bool) → (column : Nat) → List Phrase →
    Option (List Member × List Phrase)
  | 0, _, _, _ => none
  | _, _, _, [] => some ([], [])
  | fuel + 1, flow, column, p :: rest =>
    if p.column != column || (flow && p.kind == .closeSeq) then some ([], p :: rest)
    else if !p.isMap then none
    else if p.kind == .closeMap then some ([], rest)
    else do
      let (ms, rest) ← members? fuel flow (p :: rest)
      let (more, rest) ← moreMembers? fuel flow column rest
      return (ms ++ more, rest)

/-- Reads the value of a key.  Where another key follows in its column, or something before its column, the
value is missing. -/
def memberValue? : (fuel : Nat) → (flow : Bool) → (key : Phrase) → List Phrase →
    Option (Tree × List Phrase)
  | 0, _, _, _ => none
  | _, _, _, [] => some (null, [])
  | fuel + 1, flow, key, p :: rest =>
    if p.column != key.column && p.line == key.line && p.isKey then none
    else if p.column == key.column && p.isMap then some (null, p :: rest)
    else if p.line == key.line && p.isAnchorName
        && rest.head?.any (fun q => q.column == key.column && q.isMap) then
      (scalar? p).map (·, rest)
    else if isMisplaced key.column p then none
    else if p.column < key.column then some (null, p :: rest)
    else do
      let (value, rest) ← value? fuel flow (p :: rest)
      if isTagPlaced key.column value then some (value, rest) else none

/-- Reads the items of a sequence whose dashes stand in one column. -/
def items? : (fuel : Nat) → (flow : Bool) → (dash : Lexeme) → List Phrase → Option (List Tree × List Phrase)
  | 0, _, _, _ => none
  | _, _, _, [] => some ([], [])
  | fuel + 1, flow, dash, p :: rest =>
    if p.kind == .item && p.column == dash.column then do
      let (v, rest) ← itemValue? fuel flow dash rest
      let (vs, rest) ← items? fuel flow dash rest
      return (v :: vs, rest)
    else some ([], p :: rest)

/-- Reads the value of an item.  Where another dash follows in its column, or something before its column, the
value is missing. -/
def itemValue? : (fuel : Nat) → (flow : Bool) → (dash : Lexeme) → List Phrase →
    Option (Tree × List Phrase)
  | 0, _, _, _ => none
  | _, _, _, [] => some (null, [])
  | fuel + 1, flow, dash, p :: rest =>
    if p.column == dash.column && p.kind == .item then some (null, p :: rest)
    else if p.line == dash.line && p.isAnchorName
        && rest.head?.any (fun q => q.column == dash.column && q.kind == .item) then
      (scalar? p).map (·, rest)
    else if isMisplaced dash.column p then none
    else if p.column < dash.column then some (null, p :: rest)
    else do
      let (value, rest) ← value? fuel flow (p :: rest)
      if isTagPlaced dash.column value then some (value, rest) else none

/-- Reads the members of a mapping up to its closing brace. -/
def flowMembers? : (fuel : Nat) → (isFirst : Bool) → List Phrase → Option (List Member × List Phrase)
  | 0, _, _ => none
  | _, _, [] => none
  | fuel + 1, isFirst, p :: rest =>
    if p.kind == .closeMap then some ([], rest)
    else if p.kind != .comma && !isFirst then none
    else
      match (if p.kind == .comma then rest else p :: rest) with
      | [] => none
      | k :: rest =>
        if k.kind == .closeMap then some ([], rest)
        else do
          let (m, rest) ←
            match k with
            | .member name v => do
              let (key, text) ← key? true name
              let (value, _) ← value? fuel true [v]
              some (⟨some text, key, value⟩, rest)
            | _ =>
              if k.isKey then do
                let (key, text) ← key? true k
                if rest.head?.any endsMember then some (⟨some text, key, null⟩, rest)
                else
                  let (value, rest) ← value? fuel true rest
                  some ((⟨some text, key, value⟩ : Member), rest)
              else if rest.head?.any endsMember then
                (scalar? k).map fun key => ((⟨none, key, null⟩ : Member), rest)
              else none
          let (ms, rest) ← flowMembers? fuel false rest
          return (m :: ms, rest)

/-- Reads the items of a sequence up to its closing bracket. -/
def flowItems? : (fuel : Nat) → (isFirst : Bool) → List Phrase → Option (List Tree × List Phrase)
  | 0, _, _ => none
  | _, _, [] => none
  | fuel + 1, isFirst, p :: rest =>
    if p.kind == .closeSeq then some ([], rest)
    else if (p.kind == .comma) == isFirst then none
    else
      match (if p.kind == .comma then rest else p :: rest) with
      | [] => none
      | q :: rest =>
        if q.kind == .closeSeq then some ([], rest)
        else do
          let (v, rest) ← value? fuel true (q :: rest)
          let (vs, rest) ← flowItems? fuel false rest
          return (v :: vs, rest)

end

/-! ### Documents -/

/-- A document: nothing, or the tree that it holds. -/
def document? (size : Nat) (ps : List Phrase) : Option (Option Tree) :=
  let body := if ps.head?.any (·.kind == .documentStart) then ps.drop 1 else ps
  let body := if body.getLast?.any (·.kind == .documentEnd) then body.dropLast else body
  if body.isEmpty then some none
  else
    match value? (6 * size + 12) false body with
    | some (tree, []) => some (some tree)
    | _ => none

/-- Whether a document is the directive that names the version. -/
def namesVersion : List Phrase → Bool
  | [.directive _ name (_ :: _)] => name.first.text == "YAML"
  | _ => false

/-- Whether no version is named again before the end of a document. -/
def versionsFit : (named : Bool) → List (List Phrase) → Bool
  | _, [] => true
  | named, d :: ds =>
    if namesVersion d then !named && versionsFit true ds
    else versionsFit (named && !(d.getLast?.any (·.kind == .documentEnd))) ds

/-- The trees of the documents of a text. -/
def ofText? (s : String) : Option (List (Option Tree)) := do
  let lexemes ← Lexeme.scan s
  let documents ← Phrase.documents? (← Phrase.ofLexemes? lexemes)
  if versionsFit false documents then documents.mapM (document? lexemes.length) else none

end Tree

end SqlOutline.Yaml
