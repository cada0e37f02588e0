/-!
# White space

The white space characters of Unicode, and trimming by them.
-/

namespace SqlOutline.Text

/-- Whether a character is white space. -/
def isSpace (c : Char) : Bool :=
  let n := c.toNat
  decide (9 ≤ n ∧ n ≤ 13) || n == 0x20 || n == 0x85 || n == 0xA0 || n == 0x1680
    || decide (0x2000 ≤ n ∧ n ≤ 0x200A) || n == 0x2028 || n == 0x2029 || n == 0x202F
    || n == 0x205F || n == 0x3000

/-- Drops the characters of a class from the end of a list. -/
def dropEndWhile (p : Char → Bool) (cs : List Char) : List Char :=
  (cs.reverse.dropWhile p).reverse

/-- A list of characters without white space at either end. -/
def trimList (cs : List Char) : List Char := dropEndWhile isSpace (cs.dropWhile isSpace)

/-- A text without white space at either end. -/
def trim (s : String) : String := String.ofList (trimList s.toList)

/-- Whether a text consists of white space only. -/
def isBlank (s : String) : Bool := s.toList.all isSpace

/-- The maximal runs of characters that are not white space, in order. -/
def words (s : String) : List String :=
  (s.toList.splitBy fun a b => isSpace a == isSpace b).filterMap fun run =>
    match run with
    | [] => none
    | c :: _ => if isSpace c then none else some (String.ofList run)

end SqlOutline.Text
