import SqlOutline.Piece.Basic

/-!
# Patterns over pieces

A grouping rule is a pattern that is matched at every place of a list of pieces.

* `Pattern` : patterns, built from classes of leaves and kinds of groups;
* `Pattern.width?` : how many leading pieces a pattern takes.  A choice takes its first alternative that
  matches, a repetition takes as much as it can, and nothing is ever taken back;
* `Pattern.replaceAll` : replaces every match, from left to right.
-/

namespace SqlOutline

/-- A pattern over a list of pieces. -/
inductive Pattern where
  /-- A leaf of one of the classes. -/
  | leafOf (classes : List LexClass)
  /-- A group of one of the kinds. -/
  | groupOf (kinds : List GroupKind)
  /-- An identifier or reserved word that is, up to letter case, one of the lower case words. -/
  | wordOf (words : List String)
  /-- One pattern after the other. -/
  | seq (first second : Pattern)
  /-- The first pattern, or the second one where the first does not match. -/
  | either (first second : Pattern)
  /-- As many repetitions as there are. -/
  | many (item : Pattern)
  /-- The pattern or nothing. -/
  | optional (item : Pattern)

namespace Pattern

instance : Append Pattern := ⟨seq⟩
instance : OrElse Pattern := ⟨fun p q => either p (q ())⟩

/-- The number of pieces that repeated steps take. -/
def repeatWidth (step : List Piece → Option Nat) : (fuel : Nat) → List Piece → Nat
  | 0, _ => 0
  | fuel + 1, ps =>
    match step ps with
    | some (n + 1) => (n + 1) + repeatWidth step fuel (ps.drop (n + 1))
    | _ => 0

/-- The number of leading pieces that a pattern takes, if it matches. -/
def width? : Pattern → List Piece → Option Nat
  | leafOf _, [] => none
  | leafOf classes, p :: _ => if p.isLeafOf classes then some 1 else none
  | groupOf _, [] => none
  | groupOf kinds, p :: _ =>
    match p.kind? with
    | some kind => if kinds.contains kind then some 1 else none
    | none => none
  | wordOf _, [] => none
  | wordOf words, p :: _ =>
    if p.isLeafOf [.identifier, .reservedWord] && words.any (Text.foldsTo p.text) then some 1
    else none
  | seq first second, ps => do
    let n ← first.width? ps
    let m ← second.width? (ps.drop n)
    return n + m
  | either first second, ps =>
    match first.width? ps with
    | some n => some n
    | none => second.width? ps
  | many item, ps => some (repeatWidth (fun qs => item.width? qs) ps.length ps)
  | optional item, ps =>
    match item.width? ps with
    | some n => some n
    | none => some 0

/-- Replaces every match of the pattern by the piece built from the matched pieces. -/
def replaceAll (pattern : Pattern) (build : List Piece → Piece) : List Piece → List Piece
  | [] => []
  | p :: ps =>
    match pattern.width? (p :: ps) with
    | some (n + 1) => build (p :: ps.take n) :: replaceAll pattern build (ps.drop n)
    | _ => p :: replaceAll pattern build ps
termination_by ps => ps.length
decreasing_by all_goals simp; try omega

end Pattern

end SqlOutline
