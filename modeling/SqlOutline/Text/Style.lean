/-!
# Coloured text

The styles in which a terminal shows parts of a report, and the control sequences that switch them on and
off.
-/

namespace SqlOutline.Text

/-- A style of printed text. -/
inductive Style where
  /-- Titles and labels. -/
  | label
  /-- What went well. -/
  | good
  /-- What went wrong. -/
  | bad
  /-- The kinds of outline nodes. -/
  | kind
deriving DecidableEq, Repr

/-- The sequences that switch a style on and off. -/
def Style.codes : Style → String × String
  | label => ("\x1b[34;1m", "\x1b[0;22m")
  | good => ("\x1b[32m", "\x1b[0m")
  | bad => ("\x1b[31m", "\x1b[0m")
  | kind => ("\x1b[36m", "\x1b[0m")

/-- A text in a style, or the bare text when colours are off. -/
def paint (color : Bool) (style : Style) (text : String) : String :=
  if color then style.codes.1 ++ text ++ style.codes.2 else text

/-- A text with spaces after it up to the given number of characters. -/
def padEnd (width : Nat) (text : String) : String :=
  text ++ String.ofList (List.replicate (width - text.length) ' ')

end SqlOutline.Text
