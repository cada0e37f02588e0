/-!
# Environments

The variables of an environment, and the references to them inside a text.

* `Environment` : variables with their values;
* `Environment.value` : the value of a variable, empty when it is not set;
* `Environment.expand` : replaces the references in a text.  References in braces are replaced first; what
  they bring in may hold references without braces, which are replaced afterwards.
-/

namespace SqlOutline

/-- Variables with their values; the first entry of a name counts. -/
structure Environment where
  /-- The entries. -/
  entries : List (String × String) := []
deriving DecidableEq, Repr

namespace Environment

/-- The value of a variable that is set. -/
def get? (env : Environment) (name : String) : Option String := env.entries.lookup name

/-- The value of a variable, empty when it is not set. -/
def value (env : Environment) (name : String) : String := (env.get? name).getD ""

/-- Sets a variable unless it is set already. -/
def setDefault (env : Environment) (name value : String) : Environment :=
  match env.get? name with
  | some _ => env
  | none => ⟨(name, value) :: env.entries⟩

/-! ### References -/

/-- Whether a character may start the name of a reference without braces. -/
def isNameStart (c : Char) : Bool := c.isAlpha || c == '_'

/-- Whether a character may stand in the name of a reference without braces. -/
def isNameChar (c : Char) : Bool := isNameStart c || c.isDigit

/-- Replaces the references in braces.  The name is everything up to the closing brace and must not be
empty; without a closing brace there is no reference. -/
def expandBraced (lookup : List Char → List Char) : List Char → List Char
  | [] => []
  | [c] => [c]
  | c :: d :: cs =>
    if c = '$' ∧ d = '\x7b' then
      let name := cs.takeWhile (· != '\x7d')
      match h : cs.dropWhile (· != '\x7d') with
      | [] => c :: expandBraced lookup (d :: cs)
      | _ :: rest =>
        have hle := (List.dropWhile_suffix (l := cs) (· != '\x7d')).length_le
        have hlt : rest.length < cs.length := by
          rw [h] at hle
          exact hle
        if name = [] then c :: expandBraced lookup (d :: cs)
        else lookup name ++ expandBraced lookup rest
    else c :: expandBraced lookup (d :: cs)
termination_by cs => cs.length

/-- Replaces the references without braces.  The name is the longest run of letters, digits and underscores
that does not start with a digit. -/
def expandPlain (lookup : List Char → List Char) : List Char → List Char
  | [] => []
  | [c] => [c]
  | c :: d :: cs =>
    if c = '$' ∧ isNameStart d then
      lookup (d :: cs.takeWhile isNameChar) ++ expandPlain lookup (cs.dropWhile isNameChar)
    else c :: expandPlain lookup (d :: cs)
termination_by cs => cs.length
decreasing_by
  · have := (List.dropWhile_suffix (l := cs) isNameChar).length_le
    simp only [List.length_cons]
    omega
  · simp

/-- The value of a variable as characters. -/
def chars (env : Environment) (name : List Char) : List Char := (env.value (String.ofList name)).toList

/-- Replaces the references in a text, those in braces first. -/
def expand (env : Environment) (text : String) : String :=
  String.ofList (expandPlain env.chars (expandBraced env.chars text.toList))

end Environment

end SqlOutline
