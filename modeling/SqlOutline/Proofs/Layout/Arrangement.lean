import SqlOutline.Proofs.Layout.KeywordSpelling
import SqlOutline.Proofs.Layout.Separator

/-!
# The tokens of formatted text

The layout of a list of tokens is a text, and a text has tokens of its own.  They are the tokens that were
laid out, in their written form and with the separators between them, except that a point may have moved
up to a number: the two are then scanned as one literal.

* `arrangeFrom` : the tokens as the layout writes them;
* `fuse` : points and numbers that stand together are taken as the scanner takes them;
* `lexed_fuse_arrangeFrom` : the result scans as it is and spells the layout.
-/

namespace SqlOutline.Layout

open Scan Token

variable {o : Options} {s : State} {t : Token}

/-! ### Arranged tokens -/

/-- The tokens of a separator: one token of white space, or none. -/
def blank (sep : String) : List Token := if sep = "" then [] else [⟨.whitespace, sep, .start⟩]

/-- The tokens as the layout writes them from a state on. -/
def arrangeFrom (o : Options) : State → List Token → List Token
  | _, [] => []
  | s, t :: ts =>
    if t.lexClass = .whitespace then arrangeFrom o { s with gap := true } ts
    else blank (separator o s t) ++ o.written t :: arrangeFrom o (s.after o t) ts

@[simp] theorem spell_blank (sep : String) : spell (blank sep) = sep.toList := by
  unfold blank
  split
  · rename_i h
    simp [h]
  · simp

theorem isSpace_of_isBreakChar {c : Char} (h : isBreakChar c = true) : Text.isSpace c = true := by
  have h' : c = ' ' ∨ c = '\n' := by simpa [isBreakChar] using h
  rcases h' with rfl | rfl <;> decide

/-- White space before a token that is none scans as it is. -/
theorem lexed_space_append {sep : String} (hsep : ∀ c ∈ sep.toList, Text.isSpace c = true) {ts : List Token}
    (h : Lexed ts) (hstart : startsWith Text.isSpace (spell ts) = false) : Lexed (blank sep ++ ts) := by
  unfold blank
  split
  · exact h
  · rename_i hne
    obtain ⟨c, cs, hcs⟩ := List.exists_cons_of_ne_nil (mt String.toList_eq_nil_iff.mp hne)
    rw [hcs] at hsep
    refine .cons ?_ ?_ h
    · simp only [hcs]
      exact .space (hsep c (by simp)) fun x hx => hsep x (by simp [hx])
    · rw [endsBefore_of_ne_number (by simp)]
      show (!startsWith Text.isSpace (spell ts)) = true
      rw [hstart]
      rfl

/-- A separator before a token that is no white space scans as it is. -/
theorem lexed_blank_append {ts : List Token} (h : Lexed ts)
    (hstart : startsWith Text.isSpace (spell ts) = false) :
    Lexed (blank (separator o s t) ++ ts) :=
  lexed_space_append (fun _ hc => isSpace_of_isBreakChar (separator_mem hc)) h hstart

/-! ### Points and numbers that stand together -/

/-- A number that starts with a digit. -/
def startsWithDigit (t : Token) : Bool :=
  t.lexClass == .number && startsWith Char.isDigit t.text.toList

/-- A number without a fraction and an exponent. -/
def isWhole (t : Token) : Bool := t.lexClass == .number && t.text.toList.all Char.isDigit

/-- A number with a point put before it.  A number has one fraction, so the fraction that it had before is
left behind as a number of its own. -/
def takePoint (n : Token) : List Token :=
  let whole := n.text.toList.takeWhile Char.isDigit
  let rest := n.text.toList.dropWhile Char.isDigit
  if startsWith (· == '.') rest then
    [{ n with text := String.ofList ('.' :: whole) }, { n with text := String.ofList rest }]
  else [{ n with text := String.ofList ('.' :: n.text.toList) }]

/-- A token before a list, put together with the first token of the list when the scanner would do so. -/
def fuseWith (t : Token) : List Token → List Token
  | [] => [t]
  | n :: ts =>
    if t.lexClass == .dot && startsWithDigit n then takePoint n ++ ts
    else if isWhole t && startsWithPoint n then { t with text := t.text ++ n.text } :: ts
    else t :: n :: ts

/-- The tokens with points and numbers put together as the scanner does. -/
def fuse (ts : List Token) : List Token := ts.foldr fuseWith []

@[simp] theorem fuse_cons (t : Token) (ts : List Token) : fuse (t :: ts) = fuseWith t (fuse ts) := rfl

/-- What becomes of a token before a list. -/
theorem fuseWith_cases (t n : Token) (ts : List Token) :
    (t.lexClass = .dot ∧ startsWithDigit n = true ∧ fuseWith t (n :: ts) = takePoint n ++ ts) ∨
    (isWhole t = true ∧ startsWithPoint n = true ∧
      fuseWith t (n :: ts) = { t with text := t.text ++ n.text } :: ts) ∨
    ((t.lexClass = .dot → startsWithDigit n = false) ∧ (isWhole t = true → startsWithPoint n = false) ∧
      fuseWith t (n :: ts) = t :: n :: ts) := by
  by_cases hpoint : (t.lexClass == .dot && startsWithDigit n) = true
  · have hboth : t.lexClass = .dot ∧ startsWithDigit n = true := by simpa using hpoint
    exact .inl ⟨hboth.1, hboth.2, by simp [fuseWith, hboth]⟩
  · by_cases hfraction : (isWhole t && startsWithPoint n) = true
    · have hboth := Bool.and_eq_true_iff.mp hfraction
      refine .inr (.inl ⟨hboth.1, hboth.2, ?_⟩)
      rw [fuseWith, if_neg hpoint, if_pos hfraction]
    · refine .inr (.inr ⟨by simpa using hpoint, by simpa using hfraction, ?_⟩)
      rw [fuseWith, if_neg hpoint, if_neg hfraction]

theorem fuseWith_of_not_numeric (h : isNumeric t = false) (ts : List Token) :
    fuseWith t ts = t :: ts := by
  have h' : t.lexClass ≠ .dot ∧ t.lexClass ≠ .number := by simpa [isNumeric] using h
  cases ts with
  | nil => rfl
  | cons n ts => simp [fuseWith, isWhole, h']

theorem fuse_blank_append (sep : String) (ts : List Token) :
    fuse (blank sep ++ ts) = blank sep ++ fuse ts := by
  unfold blank
  split
  · rfl
  · exact fuseWith_of_not_numeric rfl _

/-- The text of a number that starts with a digit has whole digits. -/
theorem numeral_of_startsWithDigit {n : Token} (hshape : Shape n.lexClass n.text.toList)
    (h : startsWithDigit n = true) :
    n.lexClass = .number ∧ ∃ d f e, n.text.toList = d ++ f ++ e ∧ Numeral d f e ∧ d ≠ [] := by
  have h' : n.lexClass = .number ∧ startsWith Char.isDigit n.text.toList = true := by
    simpa [startsWithDigit] using h
  rw [h'.1] at hshape
  obtain ⟨d, f, e, heq, hnum, hne⟩ := hshape.numeral_of_number
  refine ⟨h'.1, d, f, e, heq, hnum, ?_⟩
  rintro rfl
  have hf : f ≠ [] := by simpa using hne
  have hstart := h'.2
  rw [heq, List.nil_append, hnum.fraction.not_startsWith_digit hf] at hstart
  cases hstart

theorem takePoint_eq {n : Token} {d f e : List Char} (htext : n.text.toList = d ++ f ++ e)
    (hnum : Numeral d f e) :
    takePoint n = if f = [] then [{ n with text := String.ofList ('.' :: d ++ e) }]
      else [{ n with text := String.ofList ('.' :: d) }, { n with text := String.ofList (f ++ e) }] := by
  have hrest : startsWith Char.isDigit (f ++ e) = false := by
    by_cases hf : f = []
    · by_cases he : e = []
      · simp [hf, he]
      · rw [hf, List.nil_append]
        simpa using hnum.exponent.not_startsWith_digit he []
    · exact hnum.fraction.not_startsWith_digit hf e
  have hrun := (run_append_eq_length_iff Char.isDigit d (f ++ e)).mpr ⟨hnum.whole, hrest⟩
  have htake : (d ++ (f ++ e)).takeWhile Char.isDigit = d := by
    have hsplit := List.takeWhile_append_dropWhile (p := Char.isDigit) (l := d ++ (f ++ e))
    exact (List.append_inj hsplit hrun).1
  have hdrop : (d ++ (f ++ e)).dropWhile Char.isDigit = f ++ e := by
    have hsplit := List.takeWhile_append_dropWhile (p := Char.isDigit) (l := d ++ (f ++ e))
    exact (List.append_inj hsplit hrun).2
  unfold takePoint
  rw [htext, List.append_assoc, htake, hdrop]
  by_cases hf : f = []
  · have hpoint : startsWith (· == '.') (f ++ e) = false := by
      rw [hf, List.nil_append]
      cases hnum.exponent with
      | absent => rfl
      | @present m _ _ hm _ _ _ =>
        have hm' : m = 'e' ∨ m = 'E' := by simpa [isExponentMark] using hm
        rcases hm' with rfl | rfl <;> rfl
    simp only [hpoint]
    simp [hf]
  · have hpoint : startsWith (· == '.') (f ++ e) = true := by
      cases hnum.fraction with
      | absent => exact absurd rfl hf
      | present _ _ => rfl
    simp [hpoint, hf]

/-- A number with a point put before it scans as it is. -/
theorem lexed_takePoint {n : Token} {ts : List Token} (h : Lexed (n :: ts))
    (hn : startsWithDigit n = true) : Lexed (takePoint n ++ ts) := by
  cases h with
  | cons hshape hends hts =>
    obtain ⟨hclass, d, f, e, htext, hnum, hd⟩ := numeral_of_startsWithDigit hshape hn
    have hpoint : IsFraction ('.' :: d) := .present hd hnum.whole
    rw [hclass, htext, hnum.endsBefore_iff] at hends
    rw [takePoint_eq htext hnum]
    split
    · rename_i hf
      have hnew : Numeral [] ('.' :: d) e := ⟨by simp, hpoint, hnum.exponent⟩
      refine .cons ?_ ?_ hts
      · simpa [hclass] using Shape.number hnew (by simp)
      · have hend : NumeralEnd ('.' :: d) e (spell ts) := ⟨hends.digit, hends.mark, fun h => by cases h⟩
        simpa [hclass] using (hnew.endsBefore_iff _).mpr hend
    · rename_i hf
      have hfirst : Numeral [] ('.' :: d) [] := ⟨by simp, hpoint, .absent⟩
      have hsecond : Numeral [] f e := ⟨by simp, hnum.fraction, hnum.exponent⟩
      refine .cons ?_ ?_ (.cons ?_ ?_ hts)
      · simpa [hclass] using Shape.number hfirst (by simp)
      · have hend : NumeralEnd ('.' :: d) [] (f ++ e ++ spell ts) := by
          cases hnum.fraction with
          | absent => exact absurd rfl hf
          | present _ _ => exact ⟨rfl, fun _ => rfl, fun h => by cases h⟩
        simpa [hclass] using (hfirst.endsBefore_iff _).mpr hend
      · simpa [hclass] using Shape.number hsecond (.inr hf)
      · simpa [hclass] using (hsecond.endsBefore_iff _).mpr hends

/-- A whole number with a fraction put behind it scans as it is. -/
theorem lexed_takeFraction {n : Token} {ts : List Token} (h : Lexed (n :: ts))
    (hn : startsWithPoint n = true) (ht : isWhole t = true) :
    Lexed ({ t with text := t.text ++ n.text } :: ts) := by
  cases h with
  | cons hshape hends hts =>
    obtain ⟨hclass, f, e, htext, hnum, hf⟩ := numeral_of_startsWithPoint hshape hn
    have ht' : t.lexClass = .number ∧ ∀ c ∈ t.text.toList, c.isDigit = true := by
      simpa [isWhole] using ht
    have hnew : Numeral t.text.toList f e := ⟨ht'.2, hnum.fraction, hnum.exponent⟩
    have htext' : (t.text ++ n.text).toList = t.text.toList ++ f ++ e := by
      rw [String.toList_append, htext, List.append_assoc]
    have hnum' : n.text.toList = [] ++ f ++ e := htext
    rw [hclass, hnum', hnum.endsBefore_iff] at hends
    refine .cons ?_ ?_ hts
    · simp only [ht'.1, htext']
      exact .number hnew (.inr hf)
    · simp only [ht'.1, htext']
      exact (hnew.endsBefore_iff _).mpr hends

theorem dot_text {k : LexClass} {w : List Char} (h : Shape k w) (hk : k = .dot) : w = ['.'] := by
  have hmem := h.mem_symbols (by simp [hk])
  have hall : ∀ p ∈ symbols, p.1 = LexClass.dot → p.2 = ['.'] := by decide
  exact hall _ hmem hk

/-- A point or number that the scanner leaves alone ends before the list after it. -/
theorem endsBefore_of_not_fused {n : Token} {ts : List Token} (hts : Lexed (n :: ts))
    (hpoint : t.lexClass = .dot → startsWithDigit n = false)
    (hfraction : isWhole t = true → startsWithPoint n = false)
    (hglue : t.lexClass ≠ .dot → startsWith (glues t.lexClass t.text.toList) n.text.toList = false) :
    endsBefore t.lexClass t.text.toList (spell (n :: ts)) = true := by
  refine (endsBefore_spell_cons hts _ _).mpr ⟨?_, ?_⟩
  · by_cases hdot : t.lexClass = .dot
    · -- a digit after the point would start a number
      have hn := shape_of_lexed hts n (by simp)
      obtain ⟨c, w, hw⟩ := List.exists_cons_of_ne_nil hn.ne_nil
      rw [hw] at hn
      rw [hdot, hw]
      cases hc : c.isDigit with
      | false => exact hc
      | true => simpa [startsWithDigit, hn.number_of_isDigit hc, hw, hc] using hpoint hdot
    · exact hglue hdot
  · intro hnumber hall
    exact hfraction (by simpa [isWhole, hnumber] using hall)

/-- A token before a list scans as it is when the list does and does not extend it, except that the
scanner may put points and numbers together. -/
theorem lexed_fuseWith {ts : List Token} (hshape : Shape t.lexClass t.text.toList) (hts : Lexed ts)
    (hglue : t.lexClass ≠ .dot → startsWith (glues t.lexClass t.text.toList) (spell ts) = false) :
    Lexed (fuseWith t ts) := by
  cases ts with
  | nil => exact .cons hshape (endsBefore_nil _ _) .nil
  | cons n ts =>
    rcases fuseWith_cases t n ts with ⟨-, hn, heq⟩ | ⟨ht, hn, heq⟩ | ⟨hpoint, hfraction, heq⟩
    · rw [heq]
      exact lexed_takePoint hts hn
    · rw [heq]
      exact lexed_takeFraction hts hn ht
    · rw [heq]
      refine .cons hshape (endsBefore_of_not_fused hts hpoint hfraction fun hdot => ?_) hts
      obtain ⟨c, w, hw⟩ := List.exists_cons_of_ne_nil (shape_of_lexed hts n (by simp)).ne_nil
      have hstart := hglue hdot
      rw [spell_cons, hw] at hstart
      rw [hw]
      exact hstart

theorem spell_takePoint {n : Token} (hshape : Shape n.lexClass n.text.toList)
    (hn : startsWithDigit n = true) : spell (takePoint n) = '.' :: n.text.toList := by
  obtain ⟨-, d, f, e, htext, hnum, -⟩ := numeral_of_startsWithDigit hshape hn
  rw [takePoint_eq htext hnum, htext]
  split
  · rename_i hf
    simp [hf]
  · simp

/-- Points and numbers are put together without a change of the text. -/
theorem spell_fuseWith {ts : List Token} (hshape : Shape t.lexClass t.text.toList) (hts : Lexed ts) :
    spell (fuseWith t ts) = t.text.toList ++ spell ts := by
  cases hts with
  | nil => simp [fuseWith]
  | @cons n ts hn _ _ =>
    rcases fuseWith_cases t n ts with ⟨hdot, hn', heq⟩ | ⟨-, -, heq⟩ | ⟨-, -, heq⟩
    · rw [heq, spell_append, spell_takePoint hn hn', dot_text hshape hdot]
      rfl
    · rw [heq]
      simp
    · rw [heq]
      simp

/-! ### The boundaries of a layout -/

/-- No token is extended by a separator or by a punctuation mark, line comments apart. -/
theorem glues_plain {k : LexClass} {w : List Char} {c : Char} (hshape : Shape k w)
    (hspace : k ≠ .whitespace) (hcomment : k ≠ .lineComment)
    (hc : c ∈ [' ', '\n', ',', ')', ';', '.']) : glues k w c = false := by
  have hall : ∀ x ∈ [' ', '\n', ',', ')', ';', '.'], isWordPart x = false ∧ isWordStart x = false ∧
      x.isDigit = false ∧ isExponentMark x = false ∧ x ∉ ['=', '>', '-', '*', '|', ':', '\'', '"', '\x60'] := by
    decide +kernel
  obtain ⟨hpart, hstart, hdigit, hmark, hne⟩ := hall c hc
  simp only [List.mem_cons, List.not_mem_nil, or_false, not_or] at hne
  cases k with
  | whitespace => exact absurd rfl hspace
  | lineComment => exact absurd rfl hcomment
  | string | quotedIdentifier =>
    obtain ⟨q, s, rfl⟩ := List.exists_cons_of_ne_nil hshape.ne_nil
    have hq : q = '\'' ∨ q = '"' ∨ q = '\x60' := hshape.quote_of_string (by simp)
    have hqc : q ≠ c := by
      rintro rfl
      simp [hne] at hq
    simp [glues, hqc]
  | other =>
    simp only [glues]
    split <;> simp [*]
  | _ => simp [glues, *]

theorem punctuation_text {k : LexClass} {w : List Char} (h : Shape k w)
    (hk : k ∈ [LexClass.comma, .closeParen, .semicolon, .dot]) :
    ∃ c, w = [c] ∧ c ∈ [' ', '\n', ',', ')', ';', '.'] := by
  have hmem := h.mem_symbols (List.mem_cons_of_mem _ (by simpa [or_left_comm] using hk))
  have hall : ∀ p ∈ symbols, p.1 ∈ [LexClass.comma, .closeParen, .semicolon, .dot] →
      ∃ c ∈ [' ', '\n', ',', ')', ';', '.'], p.2 = [c] := by decide
  obtain ⟨c, hc, hw⟩ := hall _ hmem hk
  exact ⟨c, hw, hc⟩

theorem isKeyword_of_punctuation {k : LexClass}
    (hk : k ∈ [LexClass.comma, .closeParen, .semicolon, .dot]) : k.isKeyword = false := by
  have hall : ∀ k ∈ [LexClass.comma, .closeParen, .semicolon, .dot], k.isKeyword = false := by decide
  exact hall k hk

/-- The layout after a token does not extend the token, if the tokens after it did not extend it either.
Points are an exception: a number after a point moves up to it. -/
theorem not_glues_layoutFrom {k : LexClass} {w : List Char} {l : Token} {ts : List Token}
    (hw : Shape k w) (hspace : k ≠ .whitespace) (hdot : k ≠ .dot) (hts : Lexed ts)
    (hlast : s.last = some l) (hl : l.lexClass = k)
    (hgap : s.gap = false → startsWith (glues k w) (spell ts) = false) :
    startsWith (glues k w) (layoutFrom o s ts) = false := by
  induction hts generalizing s with
  | nil => rfl
  | @cons u ts hu _ _ ih =>
    unfold layoutFrom
    split
    · exact ih hlast (by simp)
    · by_cases hsep : separator o s u = ""
      · -- nothing is written between the two tokens
        have hcomment : k ≠ .lineComment := by
          rintro rfl
          obtain ⟨cs, hcs⟩ := separator_lineComment (o := o) (t := u) hlast hl
          rw [hsep] at hcs
          simp at hcs
        rw [hsep]
        rcases separator_eq_empty hlast hsep with hadjacent | hpunctuation | hopen
        · have hsource := hgap hadjacent
          rw [spell_cons] at hsource
          rw [List.append_assoc]
          exact (startsWith_glues_written o hw hu _ _).trans hsource
        · obtain ⟨c, hc, hmem⟩ := punctuation_text hu hpunctuation
          rw [textOf_of_not_keyword o (isKeyword_of_punctuation hpunctuation), hc]
          exact glues_plain hw hspace hcomment hmem
        · have hk : k = .openParen := by
            rw [hl] at hopen
            simpa [hdot] using hopen
          subst hk
          rw [List.append_assoc]
          obtain ⟨c, v, hv⟩ := List.exists_cons_of_ne_nil (shape_textOf o hu).ne_nil
          simp [hv, glues]
      · obtain ⟨c, cs, hcs⟩ := List.exists_cons_of_ne_nil (mt String.toList_eq_nil_iff.mp hsep)
        rw [hcs]
        show glues k w c = false
        by_cases hcomment : k = .lineComment
        · obtain ⟨cs', hcs'⟩ := separator_lineComment (o := o) (t := u) hlast (hl.trans hcomment)
          rw [hcs] at hcs'
          obtain ⟨rfl, -⟩ := List.cons.inj hcs'
          subst hcomment
          rfl
        · have hbreak : isBreakChar c = true := separator_mem (by rw [hcs]; simp)
          have hc : c = ' ' ∨ c = '\n' := by simpa [isBreakChar] using hbreak
          apply glues_plain hw hspace hcomment
          rcases hc with rfl | rfl <;> simp

/-! ### The layout scans as it is -/

/-- **Arrangement theorem.**  The tokens of a text, arranged by the layout and with points and numbers put
together, scan as they are and spell the layout. -/
theorem lexed_fuse_arrangeFrom {ts : List Token} (h : Lexed ts) (o : Options) (s : State) :
    Lexed (fuse (arrangeFrom o s ts)) ∧ spell (fuse (arrangeFrom o s ts)) = layoutFrom o s ts := by
  induction h generalizing s with
  | nil => exact ⟨.nil, rfl⟩
  | @cons t ts hshape hends hts ih =>
    unfold arrangeFrom layoutFrom
    split
    · exact ih _
    · rename_i hspace
      obtain ⟨hrest, hspell⟩ := ih (s.after o t)
      have hwritten := shape_textOf o hshape
      have hglue : t.lexClass ≠ .dot →
          startsWith (glues t.lexClass (o.textOf t).toList) (layoutFrom o (s.after o t) ts) = false := by
        intro hdot
        refine not_glues_layoutFrom hwritten hspace hdot hts rfl rfl fun _ => ?_
        rw [← endsBefore_textOf o] at hends
        simpa using (Bool.and_eq_true_iff.mp hends).1
      have hfused : Lexed (fuseWith (o.written t) (fuse (arrangeFrom o (s.after o t) ts))) := by
        refine lexed_fuseWith hwritten hrest fun hdot => ?_
        rw [hspell]
        exact hglue hdot
      have htext : spell (fuseWith (o.written t) (fuse (arrangeFrom o (s.after o t) ts))) =
          (o.textOf t).toList ++ layoutFrom o (s.after o t) ts := by
        rw [spell_fuseWith hwritten hrest, hspell]
        rfl
      rw [fuse_blank_append, fuse_cons]
      constructor
      · apply lexed_blank_append hfused
        obtain ⟨c, v, hv⟩ := List.exists_cons_of_ne_nil hwritten.ne_nil
        rw [hv] at hwritten
        have hc := hwritten.isSpace_head_iff.not.mpr hspace
        rw [htext, hv]
        simpa using hc
      · rw [spell_append, htext, spell_blank, List.append_assoc]

end SqlOutline.Layout
