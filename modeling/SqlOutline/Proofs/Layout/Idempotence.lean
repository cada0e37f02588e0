import SqlOutline.Proofs.Layout.TokenPreservation
import SqlOutline.Proofs.Scan.Balance

/-!
# Formatting a formatted text

A formatted text is formatted again to itself, with one exception.  A comma is followed by a space unless
a point comes next; but a point and the number after it are scanned as one literal the second time, and
that literal is set off from the comma.

* `layoutFrom_fuseWith` : putting a point and a number together changes the layout only after a comma;
* `layoutFrom_arranged` : one step of the second layout;
* `layoutFrom_again`, `layoutFrom_again_differs` : the second layout as a whole;
* `format_idempotent_iff` : the main result.
-/

namespace SqlOutline.Layout

open Scan Token

variable {o : Options} {s s' : State} {t : Token} {ts : List Token}

/-! ### The layout of tokens put together -/

theorem layoutFrom_cons (hspace : t.lexClass ≠ .whitespace) :
    layoutFrom o s (t :: ts) =
      (separator o s t).toList ++ (o.textOf t).toList ++ layoutFrom o (s.after o t) ts := by
  rw [layoutFrom, if_neg hspace]

/-- All numbers are laid out alike. -/
theorem layoutFrom_number {n : Token} (hn : n.lexClass = .number) (ht : t.lexClass = .number) :
    layoutFrom o s (t :: ts) = (separator o s n).toList ++ t.text.toList ++ layoutFrom o (s.after o n) ts := by
  have halike : Alike t n := alike_of_number ht hn
  rw [layoutFrom_cons (by simp [ht]), separator_congr (.refl s) halike, textOf_number ht,
    layoutFrom_congr (after_congr (.refl s) halike)]

/-- A number after a point or number is written without white space, and any number could stand in its
place. -/
theorem layoutFrom_after_numeric {n m : Token} (hm : m.lexClass = .number) (ht : isNumeric t = true)
    (hn : n.lexClass = .number) :
    layoutFrom o (s.after o t) (n :: ts) = n.text.toList ++ layoutFrom o (s.after o m) ts := by
  rw [layoutFrom_cons (by simp [hn]), separator_after_numeric ht hn, textOf_number hn,
    layoutFrom_congr (after_after_numeric o s ht hn hm)]
  rfl

/-- Putting tokens together does not change the layout, if the resulting number is separated as the
point was. -/
theorem layoutFrom_fuseWith (hts : Lexed ts) (hshape : Shape t.lexClass t.text.toList)
    (hspace : t.lexClass ≠ .whitespace)
    (hsep : t.lexClass = .dot → ts.head?.any startsWithDigit = true →
      ∀ n : Token, n.lexClass = .number → separator o s n = separator o s t) :
    layoutFrom o s (fuseWith t ts) = layoutFrom o s (t :: ts) := by
  cases hts with
  | nil => rfl
  | @cons n ts hn hends hts =>
    rcases fuseWith_cases t n ts with ⟨hdot, hdigit, heq⟩ | ⟨hwhole, hpoint, heq⟩ | ⟨-, -, heq⟩
    · obtain ⟨hclass, d, f, e, htext, hnum, -⟩ := numeral_of_startsWithDigit hn hdigit
      have hsame := hsep hdot (by simpa using hdigit)
      have hnumeric : isNumeric t = true := by simp [isNumeric, hdot]
      have htextOf : o.textOf t = t.text :=
        textOf_of_not_keyword o (by simp [hdot, LexClass.isKeyword])
      rw [heq, layoutFrom_cons hspace, layoutFrom_after_numeric hclass hnumeric hclass, htextOf,
        dot_text hshape hdot, htext, takePoint_eq htext hnum]
      split
      · rename_i hf
        rw [List.singleton_append, layoutFrom_number hclass (by exact hclass), hsame n hclass, hf]
        simp
      · rw [List.cons_append, List.singleton_append, layoutFrom_number hclass (by exact hclass),
          hsame n hclass, layoutFrom_after_numeric hclass (by simp [isNumeric, hclass]) (by exact hclass)]
        simp
    · obtain ⟨hclass, -⟩ := numeral_of_startsWithPoint hn hpoint
      have ht : t.lexClass = .number := by
        simpa using (Bool.and_eq_true_iff.mp hwhole).1
      rw [heq, layoutFrom_cons hspace, layoutFrom_after_numeric ht (by simp [isNumeric, ht]) hclass,
        layoutFrom_number ht (by exact ht), textOf_number ht]
      simp
    · rw [heq]

/-! ### One step of the second layout -/

theorem layoutFrom_blank_append (hgap : s.gap = false) (sep : String) (ts : List Token) :
    layoutFrom o s (blank sep ++ ts) = layoutFrom o { s with gap := sep != "" } ts := by
  unfold blank
  split
  · rename_i h
    subst h
    have hsame : { s with gap := "" != "" } = s := by
      obtain ⟨last, gap, depth, inWhere, betweenOpen⟩ := s
      obtain rfl : gap = false := hgap
      rfl
    rw [List.nil_append, hsame]
  · rename_i h
    rw [List.cons_append, List.nil_append, layoutFrom, if_pos rfl]
    have hfull : (sep != "") = true := by simpa using h
    rw [hfull]

/-- Whether a list of tokens is laid out with a digit first. -/
def startsDigits (ts : List Token) : Bool := ts.head?.any startsWithDigit

theorem startsWith_isDigit_textOf (hshape : Shape t.lexClass t.text.toList) (r : List Char) :
    startsWith Char.isDigit ((o.textOf t).toList ++ r) = startsWithDigit t := by
  have hwritten := shape_textOf o hshape
  obtain ⟨c, w, hw⟩ := List.exists_cons_of_ne_nil hwritten.ne_nil
  rw [hw] at hwritten ⊢
  by_cases hclass : t.lexClass = .number
  · rw [textOf_number hclass] at hw
    simp [startsWithDigit, hclass, hw]
  · have hne : (t.lexClass == .number) = false := by simpa using hclass
    have hc : c.isDigit = false := by
      cases hc : c.isDigit with
      | false => rfl
      | true => exact absurd (hwritten.number_of_isDigit hc) hclass
    simp [startsWithDigit, hne, hc]

theorem startsWith_isDigit_spell (h : Lexed ts) :
    startsWith Char.isDigit (spell ts) = startsDigits ts := by
  cases h with
  | nil => rfl
  | @cons t ts hshape _ _ =>
    have htext := startsWith_isDigit_textOf (o := { keywordCase := .preserve }) hshape (spell ts)
    have hsame : ({ keywordCase := .preserve } : Options).textOf t = t.text := by
      simp [Options.textOf, KeywordCase.apply]
    rw [hsame] at htext
    exact htext

/-- After a point, a digit comes first exactly when the next significant token starts with one. -/
theorem startsWith_isDigit_layoutFrom {l : Token} (hts : ∀ t ∈ ts, Shape t.lexClass t.text.toList)
    (hlast : s.last = some l) (hl : l.lexClass = .dot) :
    startsWith Char.isDigit (layoutFrom o s ts) = startsDigits (significant ts) := by
  induction ts generalizing s with
  | nil => rfl
  | cons t ts ih =>
    rw [significant_cons]
    split
    · rename_i hspace
      rw [layoutFrom, if_pos hspace]
      exact ih (fun u hu => hts u (by simp [hu])) hlast
    · rename_i hspace
      have ht := hts t (by simp)
      rw [layoutFrom_cons hspace, List.append_assoc]
      by_cases hsep : separator o s t = ""
      · rw [hsep]
        exact startsWith_isDigit_textOf ht _
      · obtain ⟨c, cs, hcs⟩ := List.exists_cons_of_ne_nil (mt String.toList_eq_nil_iff.mp hsep)
        have hbreak : isBreakChar c = true := separator_mem (by rw [hcs]; simp)
        have hc : c = ' ' ∨ c = '\n' := by simpa [isBreakChar] using hbreak
        have hdigit : c.isDigit = false := by rcases hc with rfl | rfl <;> rfl
        have hnot : startsWithDigit t = false := by
          cases hd : startsWithDigit t with
          | false => rfl
          | true =>
            -- a number after a point is not separated from it
            have hclass : t.lexClass = .number := by
              simpa using (Bool.and_eq_true_iff.mp hd).1
            have hstay : breakBefore o s l t = .stay := by
              rw [breakBefore_numeric (by simp [isNumeric, hclass])]
              simp [hl]
            exact absurd (by simp [separator, hlast, hstay, inlineSeparator, hl, hclass]) hsep
        rw [hcs]
        simp [startsDigits, hdigit, hnot]

/-- Whether a comma, a point and a number that starts with a digit follow each other. -/
def straysFromComma (ts : List Token) : Bool :=
  hasRun (·.lexClass == .comma) (·.lexClass == .dot) startsWithDigit ts

theorem exists_takePoint {n : Token} (hshape : Shape n.lexClass n.text.toList)
    (hn : startsWithDigit n = true) : n.lexClass = .number ∧ ∃ m rest w, takePoint n = m :: rest ∧
      m.lexClass = .number ∧ m.text.toList = '.' :: w := by
  obtain ⟨hclass, d, f, e, htext, hnum, -⟩ := numeral_of_startsWithDigit hshape hn
  refine ⟨hclass, ?_⟩
  rw [takePoint_eq htext hnum]
  split
  · exact ⟨_, [], d ++ e, rfl, hclass, by simp⟩
  · exact ⟨_, _, d, rfl, hclass, by simp⟩

/-- One step of the second layout: the token is written as it was the first time, unless it is a point
between a comma and a number. -/
theorem layoutFrom_arranged (h : Lexed (t :: ts)) (hspace : t.lexClass ≠ .whitespace)
    (hs : s'.Alike { s with gap := false })
    (hstray : ∀ l, s.last = some l → l.lexClass = .comma → t.lexClass = .dot →
      startsDigits (significant ts) = false) :
    ∃ s₁ : State, s₁.Alike (s.after o t) ∧
      layoutFrom o s' (fuse (arrangeFrom o s (t :: ts))) =
        (separator o s t).toList ++ (o.textOf t).toList ++
          layoutFrom o s₁ (fuse (arrangeFrom o (s.after o t) ts)) := by
  cases h with
  | cons hshape hends hts =>
    obtain ⟨hrest, hspell⟩ := lexed_fuse_arrangeFrom hts o (s.after o t)
    have hwritten : Alike (o.written t) t := ⟨rfl, isJoinModifier_written o hshape⟩
    -- the separator that was written is the gap that is seen
    have hgap : State.Alike { s' with gap := separator o s t != "" }
        { s with gap := separator o s t != "" } := hs.withGap _
    have hsep : separator o { s' with gap := separator o s t != "" } (o.written t) = separator o s t := by
      rw [separator_congr hgap hwritten, separator_stable]
    have hnumber : (o.written t).lexClass = .dot →
        startsDigits (fuse (arrangeFrom o (s.after o t) ts)) = true → ∀ n : Token, n.lexClass = .number →
        separator o { s' with gap := separator o s t != "" } n =
          separator o { s' with gap := separator o s t != "" } (o.written t) := by
      intro hdot hdigits n hn
      refine separator_number_eq_dot hn hdot ?_
      rw [hsep]
      by_cases hempty : separator o s t = ""
      · refine .inr ⟨by simp [hempty], fun l hl hcomma => ?_⟩
        rw [← startsWith_isDigit_spell hrest, hspell,
          startsWith_isDigit_layoutFrom (shape_of_lexed hts) (show (s.after o t).last = some t from rfl)
            hdot] at hdigits
        obtain ⟨l', hl', halike⟩ := hs.exists_last hl
        rw [hstray l' hl' (halike.lexClass.symm.trans hcomma) hdot] at hdigits
        cases hdigits
      · exact .inl hempty
    refine ⟨State.after o { s' with gap := separator o s t != "" } (o.written t), ?_, ?_⟩
    · have hafter := after_congr (o := o) hgap hwritten
      exact hafter
    · rw [arrangeFrom, if_neg hspace, fuse_blank_append, fuse_cons, layoutFrom_blank_append hs.gap,
        layoutFrom_fuseWith (t := o.written t) hrest (shape_textOf o hshape) hspace hnumber,
        layoutFrom_cons (t := o.written t) hspace, hsep, textOf_written o hshape]

/-! ### The second layout -/

theorem straysFromComma_cons (t : Token) (ts : List Token) :
    straysFromComma (s.last.toList ++ t :: ts) = true ↔
      (∃ l, s.last = some l ∧ l.lexClass = .comma ∧ t.lexClass = .dot ∧ startsDigits ts = true) ∨
        straysFromComma (t :: ts) = true := by
  rcases Option.eq_none_or_eq_some s.last with hl | ⟨l, hl⟩
  · simp [hl]
  · rw [hl]
    have hstart : startsRun (·.lexClass == .comma) (·.lexClass == .dot) startsWithDigit (l :: t :: ts) =
        (l.lexClass == .comma && t.lexClass == .dot && startsDigits ts) := by
      cases ts <;> simp [startsRun, startsDigits]
    show (startsRun _ _ _ (l :: t :: ts) || straysFromComma (t :: ts)) = true ↔ _
    rw [hstart]
    simp [and_assoc]

/-- The second layout is the first one when no point strays from a comma. -/
theorem layoutFrom_again (h : Lexed ts) (hs : s'.Alike { s with gap := false })
    (hstray : straysFromComma (s.last.toList ++ significant ts) = false) :
    layoutFrom o s' (fuse (arrangeFrom o s ts)) = layoutFrom o s ts := by
  induction h generalizing s s' with
  | nil => rfl
  | @cons t ts hshape hends hts ih =>
    rw [significant_cons] at hstray
    by_cases hspace : t.lexClass = .whitespace
    · rw [if_pos hspace] at hstray
      rw [arrangeFrom, if_pos hspace, layoutFrom, if_pos hspace]
      exact ih (s := { s with gap := true }) hs hstray
    · rw [if_neg hspace] at hstray
      have hnot := mt (straysFromComma_cons (s := s) t (significant ts)).mpr (by simp [hstray])
      rw [not_or] at hnot
      have hfront : ∀ l, s.last = some l → l.lexClass = .comma → t.lexClass = .dot →
          startsDigits (significant ts) = false := by
        intro l hl hcomma hdot
        by_contra hdigits
        exact hnot.1 ⟨l, hl, hcomma, hdot, by simpa using hdigits⟩
      obtain ⟨s₁, hs₁, heq⟩ := layoutFrom_arranged (o := o) (.cons hshape hends hts) hspace hs hfront
      have hlater : straysFromComma (t :: significant ts) = false := by simpa using hnot.2
      rw [heq, layoutFrom_cons hspace, ih (s := s.after o t) hs₁ hlater]

/-- A point right after a comma is written without a space the first time and with a space the second
time, when it has become part of a number. -/
theorem layoutFrom_stray {l : Token} (h : Lexed (t :: ts)) (hs : s'.Alike { s with gap := false })
    (hl : s.last = some l) (hcomma : l.lexClass = .comma) (hdot : t.lexClass = .dot)
    (hdigits : startsDigits (significant ts) = true) :
    ∃ a b, layoutFrom o s' (fuse (arrangeFrom o s (t :: ts))) = ' ' :: '.' :: a ∧
      layoutFrom o s (t :: ts) = '.' :: b := by
  cases h with
  | cons hshape hends hts =>
    have hspace : t.lexClass ≠ .whitespace := by simp [hdot]
    obtain ⟨hrest, hspell⟩ := lexed_fuse_arrangeFrom hts o (s.after o t)
    rw [← startsWith_isDigit_layoutFrom (shape_of_lexed hts) (show (s.after o t).last = some t from rfl)
      hdot, ← hspell, startsWith_isDigit_spell hrest] at hdigits
    cases hfused : fuse (arrangeFrom o (s.after o t) ts) with
    | nil =>
      rw [hfused] at hdigits
      cases hdigits
    | cons n us =>
      rw [hfused] at hdigits hrest
      have hn : startsWithDigit n = true := by simpa [startsDigits] using hdigits
      obtain ⟨hclass, m, rest, w, hpoint, hm, hmtext⟩ :=
        exists_takePoint (shape_of_lexed hrest n (by simp)) hn
      obtain ⟨l', hl', halike⟩ := hs.symm.exists_last hl
      have hempty : separator o s t = "" := (separator_after_comma hl hcomma hclass hdot).2
      have hspaced : separator o s' m = " " :=
        (separator_after_comma hl' (halike.lexClass.symm.trans hcomma) hm hdot).1
      have htext : o.textOf t = t.text := textOf_of_not_keyword o (by simp [hdot, LexClass.isKeyword])
      refine ⟨w ++ layoutFrom o (s'.after o m) (rest ++ us), layoutFrom o (s.after o t) ts, ?_, ?_⟩
      · rw [arrangeFrom, if_neg hspace, hempty, fuse_blank_append, fuse_cons, hfused]
        rcases fuseWith_cases (o.written t) n us with ⟨-, -, heq⟩ | ⟨hwhole, -, -⟩ | ⟨hnot, -, -⟩
        · rw [heq, hpoint, show blank "" = [] from rfl, List.nil_append, List.cons_append,
            layoutFrom_cons (by simp [hm]), hspaced, textOf_number hm, hmtext]
          simp
        · simp [isWhole, hdot] at hwhole
        · rw [hnot hdot] at hn
          cases hn
      · rw [layoutFrom_cons hspace, hempty, htext, dot_text hshape hdot]
        simp

/-- Where a point strays from a comma, the second layout has a space that the first one has not. -/
theorem layoutFrom_again_differs (h : Lexed ts) (hs : s'.Alike { s with gap := false })
    (hstray : straysFromComma (s.last.toList ++ significant ts) = true) :
    ∃ p a b, layoutFrom o s' (fuse (arrangeFrom o s ts)) = p ++ ' ' :: '.' :: a ∧
      layoutFrom o s ts = p ++ '.' :: b := by
  induction h generalizing s s' with
  | nil =>
    cases hl : s.last <;> rw [hl] at hstray <;> cases hstray
  | @cons t ts hshape hends hts ih =>
    rw [significant_cons] at hstray
    by_cases hspace : t.lexClass = .whitespace
    · rw [if_pos hspace] at hstray
      rw [arrangeFrom, if_pos hspace, layoutFrom, if_pos hspace]
      exact ih (s := { s with gap := true }) hs hstray
    · rw [if_neg hspace] at hstray
      by_cases hfront : ∃ l, s.last = some l ∧ l.lexClass = .comma ∧ t.lexClass = .dot ∧
          startsDigits (significant ts) = true
      · obtain ⟨l, hl, hcomma, hdot, hdigits⟩ := hfront
        exact ⟨[], layoutFrom_stray (.cons hshape hends hts) hs hl hcomma hdot hdigits⟩
      · have hnot : ∀ l, s.last = some l → l.lexClass = .comma → t.lexClass = .dot →
            startsDigits (significant ts) = false := by
          intro l hl hcomma hdot
          by_contra hdigits
          exact hfront ⟨l, hl, hcomma, hdot, by simpa using hdigits⟩
        have hlater := ((straysFromComma_cons t (significant ts)).mp hstray).resolve_left hfront
        obtain ⟨s₁, hs₁, heq⟩ := layoutFrom_arranged (o := o) (.cons hshape hends hts) hspace hs hnot
        obtain ⟨p, a, b, hsecond, hfirst⟩ := ih (s := s.after o t) hs₁ hlater
        refine ⟨(separator o s t).toList ++ (o.textOf t).toList ++ p, a, b, ?_, ?_⟩
        · rw [heq, hsecond]
          simp
        · rw [layoutFrom_cons hspace, hfirst]
          simp

/-! ### Parentheses -/

theorem parens_append (ts us : List Token) : parens (ts ++ us) = parens ts ++ parens us := by
  simp [parens]

theorem parens_blank (sep : String) : parens (blank sep) = [] := by
  unfold blank
  split <;> rfl

theorem parens_takePoint {n : Token} (h : n.lexClass = .number) : parens (takePoint n) = [] := by
  unfold takePoint
  dsimp only
  split <;> simp [parens, h, isParen]

theorem parens_fuseWith (t : Token) (ts : List Token) : parens (fuseWith t ts) = parens (t :: ts) := by
  cases ts with
  | nil => rfl
  | cons n ts =>
    rcases fuseWith_cases t n ts with ⟨hdot, hn, heq⟩ | ⟨-, hn, heq⟩ | ⟨-, -, heq⟩
    · have hclass : n.lexClass = .number := by
        simpa using (Bool.and_eq_true_iff.mp hn).1
      rw [heq, parens_append, parens_takePoint hclass, parens_cons, parens_cons, hdot, hclass]
      rfl
    · have hclass : n.lexClass = .number := by
        simpa using (Bool.and_eq_true_iff.mp hn).1
      rw [heq, parens_cons, parens_cons, parens_cons, hclass]
      rfl
    · rw [heq]

theorem parens_fuse (ts : List Token) : parens (fuse ts) = parens ts := by
  induction ts with
  | nil => rfl
  | cons t ts ih => rw [fuse_cons, parens_fuseWith, parens_cons, parens_cons, ih]

theorem parens_arrangeFrom (o : Options) (s : State) (ts : List Token) :
    parens (arrangeFrom o s ts) = parens ts := by
  induction ts generalizing s with
  | nil => rfl
  | cons t ts ih =>
    unfold arrangeFrom
    split
    · rename_i hspace
      rw [ih, parens_cons, hspace]
      rfl
    · rw [parens_append, parens_blank, List.nil_append, parens_cons, parens_cons, ih]
      rfl

/-- Formatting keeps the parentheses. -/
theorem parens_formatted (o : Options) (ts : List Token) : parens (formatted o ts) = parens ts := by
  unfold formatted
  split
  · rw [parens_fuse, parens_arrangeFrom, parens, map_trimLast trimComment_lexClass]
    rfl
  · simp [parens, Function.comp_def]

theorem parens_placed (p : Position) (ts : List Token) : parens (placed p ts) = parens ts := by
  rw [parens, map_placed _ fun _ _ => rfl]
  rfl

/-! ### The main result -/

theorem trimList_trimmed (hts : Lexed ts) :
    Text.trimList (layoutFrom o {} (trimLast ts)) = layoutFrom o {} (trimLast ts) := by
  have hstart := startsWith_isSpace_layoutFrom (o := o) (s := {}) (shape_of_lexed (lexed_trimLast hts)) rfl
  rw [trimList_of_startsWith hstart, layoutFrom_trimLast (shape_of_lexed hts)]
  exact List.rdropWhile_idempotent Text.isSpace _

theorem straysFromComma_trimLast (ts : List Token) :
    straysFromComma (significant (trimLast ts)) = straysFromComma (significant ts) := by
  rw [significant_trimLast]
  apply hasRun_congr
  apply map_trimLast
  intro t
  simp [startsWithDigit_trimComment]

/-- A layout is laid out to itself unless a point strays from a comma. -/
theorem layout_again (hts : Lexed ts) :
    Text.trimList (layoutFrom o {} (fuse (arrangeFrom o {} (trimLast ts)))) =
      layoutFrom o {} (trimLast ts) ↔ straysFromComma (significant ts) = false := by
  have htrim := lexed_trimLast hts
  rw [← straysFromComma_trimLast]
  constructor
  · intro hsame
    by_contra hstray
    obtain ⟨p, a, b, hsecond, hfirst⟩ := layoutFrom_again_differs (o := o) (s := {}) htrim (.refl _)
      (by simpa using hstray)
    have hstart := startsWith_isSpace_layoutFrom (o := o) (s := {})
      (shape_of_lexed (lexed_fuse_arrangeFrom htrim o {}).1) rfl
    -- the space stands before a point, so trimming does not reach it
    rw [trimList_of_startsWith hstart, hsecond, hfirst,
      show p ++ ' ' :: '.' :: a = (p ++ [' ']) ++ '.' :: a by simp,
      dropEndWhile_append ⟨'.', by simp, by decide⟩, List.append_assoc] at hsame
    obtain ⟨hspace, -⟩ := List.cons.inj (List.append_cancel_left hsame)
    exact absurd hspace (by decide)
  · intro hstray
    rw [layoutFrom_again (s := {}) htrim (.refl _) hstray, trimList_trimmed hts]

theorem spell_map_written (o : Options) (ts : List Token) :
    spell (ts.map o.written) = (ts.map fun t => (o.textOf t).toList).flatten := by
  simp [spell, List.flatMap_def, Function.comp_def]

/-- Respelled keywords are respelled to themselves. -/
theorem recase_again (hts : Lexed ts) (p : Position) :
    spell ((placed p (ts.map o.written)).map o.written) = spell (ts.map o.written) := by
  rw [spell_map_written, spell_map_written, map_placed (fun t => (o.textOf t).toList) fun _ _ => rfl,
    List.map_map]
  congr 1
  refine List.map_congr_left fun t ht => ?_
  show (o.textOf (o.written t)).toList = (o.textOf t).toList
  rw [textOf_written o (shape_of_lexed hts t ht)]

/-- When a formatted text is formatted to itself. -/
theorem spell_formatted_again (hts : Lexed ts) (o : Options) :
    spell (formatted o (placed .start (formatted o ts))) = spell (formatted o ts) ↔
      ((o.reindent || o.stripWhitespace) && straysFromComma (significant ts)) = false := by
  rw [spell_formatted ((lexed_formatted hts o).placed _), spell_formatted hts]
  unfold formatted
  split
  · rename_i hlayout
    have hplaced : layoutFrom o {} (placed .start (fuse (arrangeFrom o {} (trimLast ts)))) =
        layoutFrom o {} (fuse (arrangeFrom o {} (trimLast ts))) := layoutFrom_placed (.refl _) _ _
    rw [layout, layout, String.toList_ofList, String.toList_ofList, hplaced,
      trimList_layoutFrom (shape_of_lexed hts), hlayout, Bool.true_and]
    exact layout_again hts
  · rename_i hlayout
    have hoff : (o.reindent || o.stripWhitespace) = false := by simpa using hlayout
    rw [toList_recase, toList_recase, recase_again hts, hoff]
    simp

/-- **Formatting is idempotent up to one case.**  A formatted text can be formatted again, and this changes
nothing unless the layout is chosen anew and the source has a comma, a point and a number that starts with
a digit next to each other. -/
theorem format_idempotent_iff (o : Options) (sql out : String) (h : format o sql = .ok out) :
    ∃ ts, tokenize sql = .ok ts ∧ (∃ again, format o out = .ok again) ∧
      (format o out = .ok out ↔
        ((o.reindent || o.stripWhitespace) && straysFromComma (significant ts)) = false) := by
  obtain ⟨ts, hts, hparens, hout⟩ := (format_eq_ok_iff o sql out).mp h
  have hlexed := (lexed_of_tokenize hts).1
  have htokens : tokenize out = .ok (placed .start (formatted o ts)) := by
    rw [hout]
    exact tokenize_spell_formatted hts o
  have hparens' : checkParens (placed .start (formatted o ts)) = .ok () :=
    (checkParens_congr (by rw [parens_placed, parens_formatted])).mpr hparens
  have hagain : format o out =
      .ok (String.ofList (spell (formatted o (placed .start (formatted o ts))))) :=
    (format_eq_ok_iff o out _).mpr ⟨_, htokens, hparens', rfl⟩
  refine ⟨ts, hts, ⟨_, hagain⟩, ?_⟩
  rw [hagain, hout, ← spell_formatted_again hlexed]
  constructor
  · intro hsame
    have hchars := congrArg String.toList (Except.ok.inj hsame)
    rw [String.toList_ofList, String.toList_ofList] at hchars
    exact hchars
  · intro hsame
    rw [hsame]

/-- The exception occurs: the second formatting sets off the number from the comma. -/
theorem format_idempotent_iff_stray :
    ∃ ts, format {} "select a, . 5 from t" = .ok "SELECT a,.5\nFROM t" ∧
      tokenize "select a, . 5 from t" = .ok ts ∧ straysFromComma (significant ts) = true ∧
      (∃ again, format {} "SELECT a,.5\nFROM t" = .ok again) ∧
      ¬ format {} "SELECT a,.5\nFROM t" = .ok "SELECT a,.5\nFROM t" := by
  have hformat : format {} "select a, . 5 from t" = .ok "SELECT a,.5\nFROM t" := by decide +kernel
  have hscan : tokenize "select a, . 5 from t" =
      .ok [⟨.keyword .SELECT, "select", ⟨1, 1, 0⟩⟩, ⟨.whitespace, " ", ⟨1, 7, 6⟩⟩,
        ⟨.identifier, "a", ⟨1, 8, 7⟩⟩, ⟨.comma, ",", ⟨1, 9, 8⟩⟩, ⟨.whitespace, " ", ⟨1, 10, 9⟩⟩,
        ⟨.dot, ".", ⟨1, 11, 10⟩⟩, ⟨.whitespace, " ", ⟨1, 12, 11⟩⟩, ⟨.number, "5", ⟨1, 13, 12⟩⟩,
        ⟨.whitespace, " ", ⟨1, 14, 13⟩⟩, ⟨.keyword .FROM, "from", ⟨1, 15, 14⟩⟩,
        ⟨.whitespace, " ", ⟨1, 19, 18⟩⟩, ⟨.identifier, "t", ⟨1, 20, 19⟩⟩] := by decide +kernel
  obtain ⟨ts, hts, hagain, hiff⟩ := format_idempotent_iff {} _ _ hformat
  obtain rfl := Except.ok.inj (hscan.symm.trans hts)
  refine ⟨_, hformat, hts, by decide +kernel, hagain, fun hsame => ?_⟩
  exact absurd (hiff.mp hsame) (by decide +kernel)

end SqlOutline.Layout
