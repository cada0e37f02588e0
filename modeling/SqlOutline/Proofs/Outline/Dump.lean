import Mathlib.Data.List.Basic
import SqlOutline.Proofs.Outline.Views
import SqlOutline.Proofs.Text.Cut
import SqlOutline.Proofs.Text.Quoted

/-!
# A dump determines its outline

A dump has a line for every node, which begins with an indentation that tells the level of the node and ends
with its label.  A label stands on one line, so the lines can be cut apart again, and the levels say which
node is below which.

* `rowsOf` : the levels and labels of some trees in pre-order; `rowsOf_append_inj` : they determine the trees;
* `rowText` : the line of a level and a label; `rowText_inj` : it determines both;
* `toList_dump` : a dump is the lines of its rows;
* `dump_determines_outline` : the main result.
-/

namespace SqlOutline.Outline

/-! ### Rows -/

/-- A row of a dump: a level and the label of a node. -/
abbrev Row := Nat × Option Label

/-- The levels and labels of some trees in pre-order, of which the roots are on the given level. -/
def rowsOf (level : Nat) (os : List Outline) : List Row := (walkAll level os).map fun x => (x.1, x.2.label)

theorem rowsOf_cons (level : Nat) (label : Option Label) (children os : List Outline) :
    rowsOf level (node label children :: os) =
      (level, label) :: (rowsOf (level + 1) children ++ rowsOf level os) := by
  simp only [rowsOf, walkAll, walk, List.cons_append, List.map_cons, List.map_append, Outline.label]

/-- What follows the rows of some trees is not below their roots. -/
def Closes (level : Nat) (rest : List Row) : Prop := ∀ r ∈ rest.head?, r.1 < level

theorem closes_rowsOf_append {level : Nat} {rest : List Row} (h : Closes level rest) (os : List Outline) :
    Closes (level + 1) (rowsOf level os ++ rest) := by
  cases os with
  | nil => exact fun r hr => Nat.lt_succ_of_lt (h r hr)
  | cons o os =>
    obtain ⟨label, children⟩ := o
    rw [rowsOf_cons]
    intro r hr
    obtain rfl : (level, label) = r := Option.some.inj hr
    exact Nat.lt_succ_self level

/-- Rows that are not below a level do not begin with the rows of a tree on that level. -/
theorem rowsOf_cons_append_ne {level : Nat} {rest rest' : List Row} (h : Closes level rest)
    (label : Option Label) (children os : List Outline) :
    rest ≠ rowsOf level (node label children :: os) ++ rest' := by
  rintro rfl
  rw [rowsOf_cons] at h
  exact Nat.lt_irrefl level (h _ rfl)

/-- The rows of some trees determine the trees and where their rows end. -/
theorem rowsOf_append_inj {level : Nat} {rest rest' : List Row} (hrest : Closes level rest)
    (hrest' : Closes level rest') : (os os' : List Outline) →
    rowsOf level os ++ rest = rowsOf level os' ++ rest' → os = os' ∧ rest = rest'
  | [], [], h => ⟨rfl, h⟩
  | [], .node label children :: os', h => absurd h (rowsOf_cons_append_ne hrest label children os')
  | .node label children :: os, [], h => absurd h.symm (rowsOf_cons_append_ne hrest' label children os)
  | .node label children :: os, .node label' children' :: os', h => by
    simp only [rowsOf_cons, List.cons_append, List.append_assoc, List.cons.injEq, Prod.mk.injEq,
      true_and] at h
    obtain ⟨rfl, hbelow⟩ := h
    -- the children of the first tree end where a row is no longer below it
    obtain ⟨rfl, hafter⟩ := rowsOf_append_inj (closes_rowsOf_append hrest os)
      (closes_rowsOf_append hrest' os') children children' hbelow
    obtain ⟨rfl, hsame⟩ := rowsOf_append_inj hrest hrest' os os' hafter
    exact ⟨rfl, hsame⟩

/-! ### Lines -/

/-- A tag is one word. -/
theorem tag_facts (k : Kind) : (∀ c ∈ k.tag.toList, (c != ' ') = true) ∧ '\n' ∉ k.tag.toList ∧
    ∃ c cs, k.tag.toList = c :: cs ∧ c ≠ '<' := by
  have hall : ∀ k ∈ Kind.all, (∀ c ∈ k.tag.toList, (c != ' ') = true) ∧ '\n' ∉ k.tag.toList ∧
      k.tag.toList.head? ≠ none ∧ k.tag.toList.head? ≠ some '<' := by decide +kernel
  obtain ⟨hblank, hnewline, hnone, hmark⟩ := hall k (Kind.mem_all k)
  refine ⟨hblank, hnewline, ?_⟩
  obtain ⟨c, hc⟩ := Option.ne_none_iff_exists'.mp hnone
  obtain ⟨cs, hcs⟩ := List.head?_eq_some_iff.mp hc
  exact ⟨c, cs, hcs, fun h => hmark (by rw [hc, h])⟩

theorem showLabel_some (l : Label) :
    (showLabel (some l)).toList = l.kind.tag.toList ++ ' ' :: (Text.quote l.text).toList := by
  simp [showLabel]

theorem showLabel_some_ne_none (l : Label) : (showLabel (some l)).toList ≠ (showLabel none).toList := by
  obtain ⟨-, -, c, cs, htag, hc⟩ := tag_facts l.kind
  rw [showLabel_some, htag]
  intro h
  exact hc (List.head_eq_of_cons_eq h)

/-- The text of a label determines the label. -/
theorem showLabel_inj {label label' : Option Label}
    (h : (showLabel label).toList = (showLabel label').toList) : label = label' := by
  cases label with
  | none =>
    cases label' with
    | none => rfl
    | some l' => exact absurd h.symm (showLabel_some_ne_none l')
  | some l =>
    cases label' with
    | none => exact absurd h (showLabel_some_ne_none l)
    | some l' =>
      obtain ⟨kind, text⟩ := l
      obtain ⟨kind', text'⟩ := l'
      rw [showLabel_some, showLabel_some] at h
      obtain ⟨htag, hquote⟩ := Text.append_inj_of_class (tag_facts kind).1 (tag_facts kind').1
        (by simp) (by simp) h
      obtain rfl : kind = kind' := Kind.tag_inj (String.toList_inj.mp htag)
      obtain rfl : text = text' :=
        Text.quote_inj (String.toList_inj.mp (List.tail_eq_of_cons_eq hquote))
      rfl

/-- No label begins with a blank. -/
theorem showLabel_head (label : Option Label) : (showLabel label).toList.head?.any (· == ' ') = false := by
  cases label with
  | none => decide
  | some l =>
    obtain ⟨hblank, -, c, cs, htag, -⟩ := tag_facts l.kind
    rw [showLabel_some, htag]
    rw [htag] at hblank
    simpa using hblank c List.mem_cons_self

theorem newline_not_mem_showLabel (label : Option Label) : '\n' ∉ (showLabel label).toList := by
  cases label with
  | none => decide
  | some l =>
    rw [showLabel_some]
    simp [(tag_facts l.kind).2.1, Text.newline_not_mem_quote]

/-- The line of a row, without its end. -/
def rowText (r : Row) : List Char := List.replicate (2 * r.1) ' ' ++ (showLabel r.2).toList

theorem newline_not_mem_rowText (r : Row) : '\n' ∉ rowText r := by
  simp [rowText, newline_not_mem_showLabel]

/-- A line tells the level and the label. -/
theorem rowText_inj {r r' : Row} (h : rowText r = rowText r') : r = r' := by
  have hblank : ∀ n, ∀ c ∈ List.replicate n ' ', (c == ' ') = true := by
    intro n c hc
    rw [List.eq_of_mem_replicate hc]
    rfl
  obtain ⟨level, label⟩ := r
  obtain ⟨level', label'⟩ := r'
  obtain ⟨hindent, hlabel⟩ := Text.append_inj_of_class (hblank _) (hblank _) (showLabel_head label)
    (showLabel_head label') h
  have hlen := congrArg List.length hindent
  rw [List.length_replicate, List.length_replicate] at hlen
  obtain rfl : level = level' := by omega
  rw [showLabel_inj hlabel]

/-! ### Dumps -/

/-- Lines determine the rows that they show. -/
theorem rowTexts_inj {rs rs' : List Row}
    (h : rs.flatMap (rowText · ++ ['\n']) = rs'.flatMap (rowText · ++ ['\n'])) : rs = rs' := by
  induction rs generalizing rs' with
  | nil =>
    cases rs' with
    | nil => rfl
    | cons r' rs' => simp at h
  | cons r rs ih =>
    cases rs' with
    | nil => simp at h
    | cons r' rs' =>
      simp only [List.flatMap_cons, List.append_assoc, List.singleton_append] at h
      have hline : ∀ r, ∀ c ∈ rowText r, (c != '\n') = true := by
        intro r c hc
        have hne : c ≠ '\n' := fun heq => newline_not_mem_rowText r (heq ▸ hc)
        simpa using hne
      obtain ⟨htext, htail⟩ := Text.append_inj_of_class (hline r) (hline r') (by simp) (by simp) h
      rw [rowText_inj htext, ih (List.tail_eq_of_cons_eq htail)]

/-- A dump is the lines of its rows. -/
theorem toList_dump (o : Outline) : o.dump.toList = (rowsOf 0 [o]).flatMap (rowText · ++ ['\n']) := by
  have hrows : rowsOf 0 [o] = (o.walk 0).map fun x => (x.1, x.2.label) := by
    simp [rowsOf, walkAll]
  rw [hrows, dump, String.toList_join, List.flatMap_map, List.flatMap_map]
  congr 1
  funext x
  simp [rowText, indent]

/-- **A dump determines its outline.**  Two outlines with the same dump are the same: they have the same
shape, and at every node the same kind and text or no label in both.  A dump is as many lines, each ended by
a line feed, as the outline has nodes. -/
theorem dump_determines_outline (o o' : Outline) :
    (o.dump = o'.dump ↔ o = o') ∧
      ∃ lines : List (List Char), lines.length = o.count ∧ (∀ line ∈ lines, '\n' ∉ line) ∧
        o.dump.toList = lines.flatMap (· ++ ['\n']) := by
  refine ⟨⟨fun h => ?_, congrArg dump⟩, (rowsOf 0 [o]).map rowText, ?_, ?_, ?_⟩
  · rw [← String.toList_inj, toList_dump, toList_dump] at h
    have hrows : rowsOf 0 [o] ++ [] = rowsOf 0 [o'] ++ [] := congrArg (· ++ []) (rowTexts_inj h)
    have hend : Closes 0 [] := nofun
    exact List.head_eq_of_cons_eq (rowsOf_append_inj hend hend [o] [o'] hrows).1
  · rw [List.length_map, rowsOf, List.length_map, length_walkAll, countOf, countOf, Nat.add_zero]
  · intro line hline
    obtain ⟨r, -, rfl⟩ := List.mem_map.mp hline
    exact newline_not_mem_rowText r
  · rw [toList_dump, List.flatMap_map]

/-- A text with a quote, a backslash and a line feed stays on one line and is told from the text that looks
like its escaped form. -/
theorem dump_determines_outline_escaped :
    (node none [node (some ⟨.string, "'\"\\\n'"⟩) [], node (some ⟨.name, " a"⟩) []]).dump =
        "<group>\n  String \"'\\\"\\\\\\n'\"\n  Name \" a\"\n" ∧
      (node none [node (some ⟨.string, "'\"\\\n'"⟩) []]).dump ≠
        (node none [node (some ⟨.string, "'\\\"\\\\\\n'"⟩) []]).dump := by
  refine ⟨by decide +kernel, fun h => ?_⟩
  have hsame := (dump_determines_outline _ _).1.mp h
  simp at hsame

end SqlOutline.Outline
