import SqlOutline.Markdown.Line
import SqlOutline.Text.CaseFold
import SqlOutline.Text.Punctuation

/-!
# Links and their definitions

* `Link.destination?`, `Link.title?`, `Link.label?` : the parts of a link, each with what follows it;
* `Link.target?` : what follows a target in parentheses;
* `Label` : a label without regard to letter case and the amount of white space;
* `Definition`, `Definition.at?` : the definition of a link label, and the one at a place;
* `Definition.split` : the labels that are defined at the start of a paragraph, and its other lines.
-/

namespace SqlOutline.Markdown

/-- A link label in the form in which labels are compared. -/
structure Label where
  /-- The characters, folded. -/
  chars : List Char
deriving DecidableEq, Repr

/-- The comparable form of a label. -/
def Label.ofChars (cs : List Char) : Label :=
  let runs := (Text.caseFold (trimStart (trimEnd cs))).splitBy fun a b => isSpace a == isSpace b
  ⟨runs.flatMap fun run => if run.head?.any isSpace then [' '] else run⟩

/-- The number of bytes of a label beyond which it is none. -/
def Label.limit : Nat := 999

namespace Link

/-- Whether a backslash before the text takes the meaning of its first character away. -/
def isEscapable (cs : List Char) : Bool := cs.head?.any Text.isAsciiPunctuation

/-- The number of characters before the first mark that no backslash hides. -/
def extent (isMark : Char → Bool) : (escaped : Bool) → List Char → Nat
  | _, [] => 0
  | true, _ :: cs => extent isMark false cs + 1
  | false, c :: cs =>
    if c = '\\' ∧ isEscapable cs then extent isMark true cs + 1
    else if isMark c then 0
    else extent isMark false cs + 1

/-- The number of characters before the first opening or closing character that no backslash hides. -/
def enclosedLength (opening closing : Char) (cs : List Char) : Nat :=
  extent (fun c => c == opening || c == closing) false cs

/-- The text up to a closing character and what follows it.  The opening character must not come again. -/
def enclosed? (opening closing : Char) (cs : List Char) : Option (List Char × List Char) :=
  let n := enclosedLength opening closing cs
  match cs.drop n with
  | c :: rest => if c = closing then some (cs.take n, rest) else none
  | [] => none

/-- A label after its opening bracket. -/
def label? (cs : List Char) : Option (List Char × List Char) := enclosed? '[' ']' cs

/-- What follows a destination in angle brackets, which stays on its line. -/
def angled? (cs : List Char) : Option (List Char) :=
  match cs.drop (extent (fun c => c == '>' || c == '\n') false cs) with
  | '>' :: rest => some rest
  | _ => none

/-- What follows a destination without brackets.  It ends before white space and before a parenthesis that it
does not open. -/
def bare : (depth : Nat) → (escaped : Bool) → List Char → List Char
  | _, _, [] => []
  | depth, true, _ :: cs => bare depth false cs
  | depth, false, c :: cs =>
    if c = '\\' ∧ isEscapable cs then bare depth true cs
    else if c = '(' then bare (depth + 1) false cs
    else if c = ')' then if depth = 0 then c :: cs else bare (depth - 1) false cs
    else if isSpace c then c :: cs
    else bare depth false cs

/-- What follows a destination. -/
def destination? (cs : List Char) : Option (List Char) :=
  match cs with
  | '<' :: rest => angled? rest
  | _ =>
    let rest := bare 0 false cs
    if rest.length < cs.length then some rest else none

/-- The character that closes a title which the given one opens. -/
def titleEnd? (opening : Char) : Option Char :=
  if opening = '(' then some ')'
  else if opening = '"' ∨ opening = '\'' then some opening
  else none

/-- What follows a title. -/
def title? (cs : List Char) : Option (List Char) :=
  match cs with
  | c :: rest => (titleEnd? c).bind fun closing => (enclosed? c closing rest).map (·.2)
  | [] => none

/-- What follows a target after its opening parenthesis. -/
def target? (cs : List Char) : Option (List Char) :=
  match trimStart cs with
  | ')' :: rest => some rest
  | start => do
    let rest ← destination? start
    match trimStart rest with
    | ')' :: rest => some rest
    | rest => do
      let rest ← title? rest
      match trimStart rest with
      | ')' :: rest => some rest
      | _ => none

end Link

/-! ### Definitions -/

/-- The definition of a link label. -/
structure Definition where
  /-- The label. -/
  label : Label
  /-- The number of its first line. -/
  first : Nat
  /-- The number of the line after its last one. -/
  stop : Nat
  /-- The place where another definition may start. -/
  next : Cursor

namespace Definition

/-- The label of a definition, with its brackets and its colon, and the place after it. -/
def label? (c : Cursor) : Option (Label × Cursor) := do
  if c.rest.head? != some '[' then none
  let inside := c.advance 1
  let (label, rest) ← Link.label? inside.text
  if isBlank label || rest.head? != some ':' then none
  some (Label.ofChars label, inside.advance (label.length + 2))

/-- The definition at a place.  It ends with the line of its destination, or with a title that ends a line.  A
title that is not closed belongs to the text, and behind one that more text follows there may be another
definition. -/
def at? (c : Cursor) : Option Definition := do
  let start := c.skipSpace
  let (label, afterLabel) ← label? start
  let target := afterLabel.skipSpace
  let rest ← Link.destination? target.rest
  let place := target.advance (target.rest.length - rest.length)
  let endsLine := isBlank place.rest
  let plain := fun (stop : Nat) (next : Cursor) =>
    if endsLine then some ⟨label, start.line, max stop (start.line + 1), next⟩ else none
  let title := place.skipSpace
  match title.rest with
  | [] => plain (place.line + 1) title
  | opening :: _ =>
    match Link.titleEnd? opening with
    | none => plain (place.line + 1) title
    | some closing =>
      if title.text.length = place.text.length then none
      else
        let inside := title.advance 1
        let n := Link.enclosedLength opening closing inside.text
        let last := inside.advance n
        if last.rest.head? != some closing then plain (place.line + 1) last.nextLine
        else
          let next := last.advance 1
          if isBlank next.rest then some ⟨label, start.line, next.line + 1, next⟩ else plain place.line next

/-- The definitions from a place on. -/
def allFrom : (fuel : Nat) → Cursor → List Definition
  | 0, _ => []
  | fuel + 1, c =>
    match at? c with
    | some d => d :: allFrom fuel d.next
    | none => []

/-- The lines that are left without those of definitions, which are counted from the number `first` on. -/
def remove {α : Type} : (first : Nat) → List Definition → List α → List α
  | _, [], lines => lines
  | first, d :: ds, lines => remove d.stop ds (lines.take (d.first - first) ++ lines.drop (d.stop - first))

/-- The labels that are defined at the start of a paragraph, and its other lines. -/
def split (lines : List TextLine) : List Label × List TextLine :=
  let start := Cursor.ofLines (lines.map (·.chars))
  let found := allFrom start.text.length start
  (found.map (·.label), remove 1 found lines)

end Definition

end SqlOutline.Markdown
