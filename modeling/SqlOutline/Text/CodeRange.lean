/-!
# Ranges of code points

Character classes beyond ASCII are given by tables of closed ranges of code points.  `inRanges` decides
membership in such a table.
-/

namespace SqlOutline.Text

/-- Whether a code point lies in one of the closed ranges of a table. -/
def inRanges (table : List (Nat × Nat)) (n : Nat) : Bool :=
  table.any fun r => decide (r.1 ≤ n) && decide (n ≤ r.2)

end SqlOutline.Text
