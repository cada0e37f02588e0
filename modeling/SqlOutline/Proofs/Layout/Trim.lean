import Mathlib.Data.List.DropRight
import SqlOutline.Proofs.Layout.Arrangement

/-!
# Trimming a layout

A layout is trimmed at both ends.  It never starts with white space, and it ends with white space only
when its last token is a line comment that does, so that trimming the text is trimming that comment.

* `trimLast` : the tokens with a line comment at the end trimmed;
* `lexed_trimLast` : they still scan as they are;
* `trimList_layoutFrom` : their layout is the trimmed layout.
-/

namespace SqlOutline.Layout

open Scan Token

variable {o : Options} {s : State} {t : Token}

/-! ### Dropping white space at the end of a text -/

/-- What is dropped at the end does not reach beyond a character that stays. -/
theorem dropEndWhile_append {p : Char → Bool} {a b : List Char} (h : ∃ c ∈ b, p c = false) :
    Text.dropEndWhile p (a ++ b) = a ++ Text.dropEndWhile p b := by
  have hne : b.reverse.dropWhile p ≠ [] := by
    intro hnil
    obtain ⟨c, hc, hp⟩ := h
    rw [List.dropWhile_eq_nil_iff] at hnil
    rw [hnil c (List.mem_reverse.mpr hc)] at hp
    cases hp
  unfold Text.dropEndWhile
  rw [List.reverse_append, List.dropWhile_append, if_neg (by simpa using hne), List.reverse_append,
    List.reverse_reverse]

theorem dropEndWhile_concat {p : Char → Bool} {c : Char} (a : List Char) (hc : p c = false) :
    Text.dropEndWhile p (a ++ [c]) = a ++ [c] :=
  List.rdropWhile_concat_neg p a c (by simp [hc])

theorem dropEndWhile_cons {p : Char → Bool} {c : Char} (hc : p c = false) (w : List Char) :
    Text.dropEndWhile p (c :: w) = c :: Text.dropEndWhile p w := by
  unfold Text.dropEndWhile
  rw [List.reverse_cons, List.dropWhile_append]
  by_cases hall : w.reverse.dropWhile p = []
  · simp [hall, hc]
  · simp [hall]

/-! ### Trimming the last token -/

/-- A line comment without white space at its end; any other token as it is. -/
def trimComment (t : Token) : Token :=
  if t.lexClass = .lineComment then
    { t with text := String.ofList (Text.dropEndWhile Text.isSpace t.text.toList) }
  else t

/-- The tokens with the last one that is no white space trimmed. -/
def trimLast : List Token → List Token
  | [] => []
  | t :: ts =>
    if ts.all (·.lexClass == .whitespace) then trimComment t :: ts else t :: trimLast ts

@[simp] theorem trimComment_lexClass (t : Token) : (trimComment t).lexClass = t.lexClass := by
  unfold trimComment
  split <;> rfl

theorem trimComment_of_ne (h : t.lexClass ≠ .lineComment) : trimComment t = t := if_neg h

/-- A trimmed comment is a comment. -/
theorem shape_trimComment (h : Shape t.lexClass t.text.toList) :
    Shape t.lexClass (trimComment t).text.toList := by
  by_cases hk : t.lexClass = .lineComment
  · unfold trimComment
    rw [if_pos hk]
    simp only [hk] at h ⊢
    obtain ⟨w, hw, hline⟩ := h.lineComment_text
    have hdash : Text.isSpace '-' = false := by decide
    rw [String.toList_ofList, hw, dropEndWhile_cons hdash, dropEndWhile_cons hdash]
    exact .lineComment fun x hx => hline x ((List.rdropWhile_prefix Text.isSpace w).subset hx)
  · rwa [trimComment_of_ne hk]

theorem startsWith_trimComment (h : Shape t.lexClass t.text.toList) (p : Char → Bool) :
    startsWith p (trimComment t).text.toList = startsWith p t.text.toList := by
  by_cases hk : t.lexClass = .lineComment
  · rw [hk] at h
    obtain ⟨w, hw, -⟩ := h.lineComment_text
    unfold trimComment
    rw [if_pos hk]
    simp only [String.toList_ofList]
    rw [hw, dropEndWhile_cons (by decide)]
    rfl
  · rw [trimComment_of_ne hk]

/-- Numbers are not trimmed: a test of the first character of a number gives the same. -/
theorem number_trimComment (t : Token) (p : Char → Bool) :
    ((trimComment t).lexClass == .number && startsWith p (trimComment t).text.toList) =
      (t.lexClass == .number && startsWith p t.text.toList) := by
  by_cases hk : t.lexClass = .lineComment
  · have hne : (t.lexClass == .number) = false := by rw [hk]; rfl
    rw [trimComment_lexClass, hne]
    rfl
  · rw [trimComment_of_ne hk]

theorem startsWithPoint_trimComment (t : Token) : startsWithPoint (trimComment t) = startsWithPoint t :=
  number_trimComment t _

theorem startsWithDigit_trimComment (t : Token) : startsWithDigit (trimComment t) = startsWithDigit t :=
  number_trimComment t _

/-- Trimming keeps the class and the start of the first token. -/
theorem trimLast_cons (t : Token) (ts : List Token) :
    ∃ us, trimLast (t :: ts) = t :: us ∨ trimLast (t :: ts) = trimComment t :: us := by
  unfold trimLast
  split
  · exact ⟨ts, .inr rfl⟩
  · exact ⟨trimLast ts, .inl rfl⟩

/-- A token that ends before a list also ends before the trimmed list. -/
theorem endsBefore_trimLast {k : LexClass} {w : List Char} {ts : List Token} (hts : Lexed ts)
    (htrim : Lexed (trimLast ts)) (h : endsBefore k w (spell ts) = true) :
    endsBefore k w (spell (trimLast ts)) = true := by
  cases ts with
  | nil => exact h
  | cons n ts =>
    have hn := shape_of_lexed hts n (by simp)
    have hhead := (endsBefore_spell_cons hts k w).mp h
    obtain ⟨us, heq | heq⟩ := trimLast_cons n ts
    · rw [heq] at htrim ⊢
      exact (endsBefore_spell_cons htrim k w).mpr hhead
    · rw [heq] at htrim ⊢
      refine (endsBefore_spell_cons htrim k w).mpr ⟨?_, ?_⟩
      · rw [startsWith_trimComment hn]
        exact hhead.1
      · rw [startsWithPoint_trimComment]
        exact hhead.2

/-- A trimmed comment still ends where it ended, before a line break or at the end. -/
theorem endsBefore_trimComment (r : List Char) :
    endsBefore t.lexClass (trimComment t).text.toList r = endsBefore t.lexClass t.text.toList r := by
  by_cases hk : t.lexClass = .lineComment
  · rw [hk, endsBefore_of_ne_number (by simp), endsBefore_of_ne_number (by simp)]
    rfl
  · rw [trimComment_of_ne hk]

theorem lexed_trimLast {ts : List Token} (h : Lexed ts) : Lexed (trimLast ts) := by
  induction h with
  | nil => exact .nil
  | @cons t ts hshape hends hts ih =>
    unfold trimLast
    split
    · refine .cons ?_ ?_ hts
      · simpa using shape_trimComment hshape
      · rw [trimComment_lexClass, endsBefore_trimComment]
        exact hends
    · exact .cons hshape (endsBefore_trimLast hts ih hends) ih

/-! ### The trimmed layout -/

theorem layoutFrom_of_all_space {ts : List Token} (h : ts.all (·.lexClass == .whitespace) = true) :
    layoutFrom o s ts = [] := by
  induction ts generalizing s with
  | nil => rfl
  | cons t ts ih =>
    have h' : t.lexClass = .whitespace ∧ ts.all (·.lexClass == .whitespace) = true := by simpa using h
    rw [layoutFrom, if_pos h'.1]
    exact ih h'.2

theorem isSpace_textOf_head (hshape : Shape t.lexClass t.text.toList) (hspace : t.lexClass ≠ .whitespace) :
    ∃ c w, (o.textOf t).toList = c :: w ∧ Text.isSpace c = false := by
  have hwritten := shape_textOf o hshape
  obtain ⟨c, w, hw⟩ := List.exists_cons_of_ne_nil hwritten.ne_nil
  rw [hw] at hwritten
  exact ⟨c, w, hw, by simpa using hwritten.isSpace_head_iff.not.mpr hspace⟩

/-- The layout of a token that is no white space shows. -/
theorem exists_mem_layoutFrom {ts : List Token} (hts : ∀ t ∈ ts, Shape t.lexClass t.text.toList)
    (h : ts.all (·.lexClass == .whitespace) = false) :
    ∃ c ∈ layoutFrom o s ts, Text.isSpace c = false := by
  induction ts generalizing s with
  | nil => cases h
  | cons t ts ih =>
    unfold layoutFrom
    split
    · rename_i hspace
      exact ih (fun u hu => hts u (by simp [hu])) (by simpa [hspace] using h)
    · rename_i hspace
      obtain ⟨c, w, hw, hc⟩ := isSpace_textOf_head (o := o) (hts t (by simp)) hspace
      exact ⟨c, by simp [hw], hc⟩

theorem dropEndWhile_textOf (hshape : Shape t.lexClass t.text.toList) (hspace : t.lexClass ≠ .whitespace) :
    Text.dropEndWhile Text.isSpace (o.textOf t).toList = (o.textOf (trimComment t)).toList := by
  by_cases hk : t.lexClass = .lineComment
  · rw [textOf_of_not_keyword o (by simp [hk, LexClass.isKeyword]),
      textOf_of_not_keyword o (by simp [hk, LexClass.isKeyword])]
    unfold trimComment
    rw [if_pos hk, String.toList_ofList]
  · obtain ⟨a, c, ha, hc⟩ := (shape_textOf o hshape).last_not_isSpace hspace hk
    rw [trimComment_of_ne hk, ha]
    exact dropEndWhile_concat a hc

theorem layoutFrom_trimLast {ts : List Token} (hts : ∀ t ∈ ts, Shape t.lexClass t.text.toList) :
    layoutFrom o s (trimLast ts) = Text.dropEndWhile Text.isSpace (layoutFrom o s ts) := by
  induction ts generalizing s with
  | nil => rfl
  | cons t ts ih =>
    have ht := hts t (by simp)
    have hrest : ∀ u ∈ ts, Shape u.lexClass u.text.toList := fun u hu => hts u (by simp [hu])
    unfold trimLast
    by_cases hspace : t.lexClass = .whitespace
    · split
      · rename_i hall
        rw [layoutFrom, layoutFrom, trimComment_lexClass, if_pos hspace, if_pos hspace,
          layoutFrom_of_all_space hall]
        rfl
      · rw [layoutFrom, layoutFrom, if_pos hspace, if_pos hspace]
        exact ih hrest
    · split
      · rename_i hall
        obtain ⟨c, w, hw, hc⟩ := isSpace_textOf_head (o := o) ht hspace
        have halike : Alike (trimComment t) t := by
          refine ⟨trimComment_lexClass t, ?_⟩
          by_cases hk : t.lexClass = .lineComment
          · rw [isJoinModifier_of_ne (by simp [hk]), isJoinModifier_of_ne (by simp [hk])]
          · rw [trimComment_of_ne hk]
        rw [layoutFrom, layoutFrom, trimComment_lexClass, if_neg hspace, if_neg hspace,
          layoutFrom_of_all_space hall, layoutFrom_of_all_space hall, List.append_nil, List.append_nil,
          dropEndWhile_append ⟨c, by simp [hw], hc⟩, dropEndWhile_textOf ht hspace,
          separator_congr (.refl s) halike]
      · rename_i hall
        have hshow := exists_mem_layoutFrom (o := o) (s := s.after o t) hrest (by simpa using hall)
        rw [layoutFrom, layoutFrom, if_neg hspace, if_neg hspace, dropEndWhile_append hshow, ih hrest]

/-- A layout from the start does not begin with white space. -/
theorem startsWith_isSpace_layoutFrom {ts : List Token}
    (hts : ∀ t ∈ ts, Shape t.lexClass t.text.toList) (hlast : s.last = none) :
    startsWith Text.isSpace (layoutFrom o s ts) = false := by
  induction ts generalizing s with
  | nil => rfl
  | cons t ts ih =>
    unfold layoutFrom
    split
    · exact ih (fun u hu => hts u (by simp [hu])) hlast
    · rename_i hspace
      obtain ⟨c, w, hw, hc⟩ := isSpace_textOf_head (o := o) (hts t (by simp)) hspace
      rw [separator, hlast, hw]
      exact hc

theorem trimList_of_startsWith {cs : List Char} (h : startsWith Text.isSpace cs = false) :
    Text.trimList cs = Text.dropEndWhile Text.isSpace cs := by
  unfold Text.trimList
  congr 1
  cases cs with
  | nil => rfl
  | cons c cs => exact List.dropWhile_cons_of_neg (by simpa using h)

/-- Trimming a layout is trimming its last token. -/
theorem trimList_layoutFrom {ts : List Token} (hts : ∀ t ∈ ts, Shape t.lexClass t.text.toList) :
    Text.trimList (layoutFrom o {} ts) = layoutFrom o {} (trimLast ts) := by
  rw [trimList_of_startsWith (startsWith_isSpace_layoutFrom hts rfl), layoutFrom_trimLast hts]

end SqlOutline.Layout
