import SqlOutline.Layout.Basic
import SqlOutline.Proofs.Scan.Shape

/-!
# The spelling of keywords

A keyword is recognized by its upper case form, so changing the letter case of a keyword gives the same
keyword.  Two letters beyond ASCII have an ASCII upper case form, and a keyword may be written with them.

* `keywordChars` : the characters that keywords are written with;
* `mem_keywordChars_of_upperChar` : no other character has a capital letter as its upper case form;
* `ofWord_apply`, `apply_apply` : a respelled keyword is the same keyword, and respelling it again changes
  nothing;
* `shape_textOf` : the written form of a token has the shape of its class.
-/

namespace SqlOutline

open Scan

/-! ### The characters of keywords -/

/-- The characters of keywords in upper case. -/
def capitalChars : List Char :=
  ['A', 'B', 'C', 'D', 'E', 'F', 'G', 'H', 'I', 'J', 'K', 'L', 'M', 'N', 'O', 'P', 'Q', 'R', 'S', 'T', 'U',
    'V', 'W', 'X', 'Y', 'Z', '_']

/-- The characters that keywords are written with: the Latin letters, the underscore, the dotless i and
the long s. -/
def keywordChars : List Char :=
  capitalChars ++
    ['a', 'b', 'c', 'd', 'e', 'f', 'g', 'h', 'i', 'j', 'k', 'l', 'm', 'n', 'o', 'p', 'q', 'r', 's', 't', 'u',
      'v', 'w', 'x', 'y', 'z', 'ı', 'ſ']

theorem mem_capitalChars_lt {c : Char} (h : c ∈ capitalChars) : 0 < c.toNat ∧ c.toNat < 128 := by
  have hall : ∀ d ∈ capitalChars, 0 < d.toNat ∧ d.toNat < 128 := by decide +kernel
  exact hall c h

/-- A code beyond ASCII is no code of a capital. -/
theorem ofNat_not_mem_capitalChars {n : Nat} (h : 128 ≤ n) : Char.ofNat n ∉ capitalChars := by
  intro hmem
  have hlt := mem_capitalChars_lt hmem
  by_cases hvalid : n.isValidChar
  · have hn : (Char.ofNat n).toNat = n := by
      rw [Char.ofNat, dif_pos hvalid]
      rfl
    omega
  · have hzero : (Char.ofNat n).toNat = 0 := by
      rw [Char.ofNat, dif_neg hvalid]
      rfl
    omega

theorem shiftBy_upperRanges_mem {c : Char} (hc : 128 ≤ c.toNat)
    (h : Text.shiftBy Text.upperRanges c ∈ capitalChars) : c ∈ keywordChars := by
  have htable : ∀ r ∈ Text.upperRanges, 128 ≤ (r.first : Int) + r.shift ∨
      (r.first = 0x131 ∧ r.last = 0x131) ∨ (r.first = 0x17F ∧ r.last = 0x17F) := by decide +kernel
  unfold Text.shiftBy at h
  split at h
  · rename_i r hr
    have hholds := List.find?_some hr
    simp only [Text.CaseRange.holds, Bool.and_eq_true, decide_eq_true_eq] at hholds
    obtain ⟨⟨hfirst, hlast⟩, -⟩ := hholds
    rcases htable r (List.mem_of_find?_eq_some hr) with hbig | ⟨hf, hl⟩ | ⟨hf, hl⟩
    · exact absurd h (ofNat_not_mem_capitalChars (by omega))
    · have hcode : c.toNat = 0x131 := by omega
      rw [← Char.ofNat_toNat c, hcode]
      decide +kernel
    · have hcode : c.toNat = 0x17F := by omega
      rw [← Char.ofNat_toNat c, hcode]
      decide +kernel
  · have := (mem_capitalChars_lt h).2
    omega

/-- A character whose upper case form is a capital is a character of keywords. -/
theorem mem_keywordChars_of_upperChar {c : Char} (h : Text.upperChar c ∈ capitalChars) :
    c ∈ keywordChars := by
  by_cases hc : c.toNat < 128
  · have hall : ∀ n ∈ List.range 128, Text.upperChar (Char.ofNat n) ∈ capitalChars →
        Char.ofNat n ∈ keywordChars := by decide +kernel
    have hn := hall c.toNat (List.mem_range.mpr hc)
    rw [Char.ofNat_toNat] at hn
    exact hn h
  · unfold Text.upperChar at h
    rw [if_neg hc] at h
    exact shiftBy_upperRanges_mem (by omega) h

/-- The words with a class of their own are written in capitals. -/
theorem mem_capitalChars_of_ofWord {word : String} (h : (LexClass.ofWord word).isKeyword = true) :
    ∀ c ∈ (Text.upper word).toList, c ∈ capitalChars := by
  have hkeywords : ∀ k ∈ Keyword.all, ∀ c ∈ k.name.toList, c ∈ capitalChars := by decide +kernel
  have hreserved : ∀ w ∈ reservedWords, ∀ c ∈ w.toList, c ∈ capitalChars := by decide +kernel
  have htruth : ∀ w ∈ ["TRUE", "FALSE"], ∀ c ∈ w.toList, c ∈ capitalChars := by decide +kernel
  unfold LexClass.ofWord at h
  dsimp only at h
  split at h
  · rename_i k hk
    have hname : k.name = Text.upper word := by simpa using List.find?_some hk
    rw [← hname]
    exact hkeywords k (Keyword.mem_all k)
  · split at h
    · rename_i hw
      exact htruth _ (by simpa using hw)
    · split at h
      · rename_i hw
        exact hreserved _ (by simpa using hw)
      · cases h

theorem mem_keywordChars_of_ofWord {word : String} (h : (LexClass.ofWord word).isKeyword = true) :
    ∀ c ∈ word.toList, c ∈ keywordChars := by
  intro c hc
  apply mem_keywordChars_of_upperChar
  apply mem_capitalChars_of_ofWord h
  simp only [Text.upper, String.toList_ofList]
  exact List.mem_map_of_mem hc

/-! ### Respelling -/

namespace KeywordCase

/-- What a spelling does to the first character of a word. -/
def headChar : KeywordCase → Char → Char
  | preserve => id
  | upper | capitalize => Text.upperChar
  | lower => Text.lowerChar

/-- What a spelling does to the other characters of a word. -/
def tailChar : KeywordCase → Char → Char
  | preserve => id
  | upper => Text.upperChar
  | lower | capitalize => Text.lowerChar

theorem toList_apply {word : String} {c : Char} {s : List Char} (k : KeywordCase)
    (h : word.toList = c :: s) : (k.apply word).toList = k.headChar c :: s.map k.tailChar := by
  cases k with
  | preserve => simpa [apply, headChar, tailChar] using h
  | upper => simp [apply, headChar, tailChar, Text.upper, h]
  | lower => simp [apply, headChar, tailChar, Text.lower, h]
  | capitalize => simp [apply, headChar, tailChar, h]

end KeywordCase

/-- A map that respells characters of keywords: the result is a character of keywords with the same upper
case form, an exponent mark stays one, and respelling again changes nothing. -/
structure Respells (f : Char → Char) : Prop where
  mem : ∀ c ∈ keywordChars, f c ∈ keywordChars
  upper : ∀ c ∈ keywordChars, Text.upperChar (f c) = Text.upperChar c
  mark : ∀ c ∈ keywordChars, isExponentMark (f c) = isExponentMark c
  again : ∀ c ∈ keywordChars, f (f c) = f c

theorem respells_id : Respells id := ⟨fun _ h => h, fun _ _ => rfl, fun _ _ => rfl, fun _ _ => rfl⟩

theorem respells_upperChar : Respells Text.upperChar := by
  constructor <;> decide +kernel

theorem respells_lowerChar : Respells Text.lowerChar := by
  constructor <;> decide +kernel

theorem respells_headChar (k : KeywordCase) : Respells k.headChar := by
  cases k with
  | preserve => exact respells_id
  | upper | capitalize => exact respells_upperChar
  | lower => exact respells_lowerChar

theorem respells_tailChar (k : KeywordCase) : Respells k.tailChar := by
  cases k with
  | preserve => exact respells_id
  | upper => exact respells_upperChar
  | lower | capitalize => exact respells_lowerChar

theorem isWordStart_of_mem_keywordChars {c : Char} (h : c ∈ keywordChars) : isWordStart c = true := by
  have hall : ∀ d ∈ keywordChars, isWordStart d = true := by decide +kernel
  exact hall c h

namespace KeywordCase

variable {word : String} {c : Char} {s : List Char}

/-- A respelled keyword has the same upper case form. -/
theorem upper_apply (k : KeywordCase) (h : (LexClass.ofWord word).isKeyword = true)
    (hw : word.toList = c :: s) : Text.upper (k.apply word) = Text.upper word := by
  have hmem := mem_keywordChars_of_ofWord h
  rw [hw] at hmem
  unfold Text.upper
  rw [toList_apply k hw, hw, List.map_cons, List.map_cons, List.map_map]
  congr 2
  · exact (respells_headChar k).upper c (hmem c (by simp))
  · exact List.map_congr_left fun x hx => (respells_tailChar k).upper x (hmem x (by simp [hx]))

/-- A respelled keyword is the same keyword. -/
theorem ofWord_apply (k : KeywordCase) (h : (LexClass.ofWord word).isKeyword = true)
    (hw : word.toList = c :: s) : LexClass.ofWord (k.apply word) = LexClass.ofWord word := by
  unfold LexClass.ofWord
  rw [upper_apply k h hw]

/-- Respelling a keyword twice is respelling it once. -/
theorem apply_apply (k : KeywordCase) (h : (LexClass.ofWord word).isKeyword = true)
    (hw : word.toList = c :: s) : k.apply (k.apply word) = k.apply word := by
  have hmem := mem_keywordChars_of_ofWord h
  rw [hw] at hmem
  apply String.toList_inj.mp
  rw [toList_apply k (toList_apply k hw), toList_apply k hw, List.map_map]
  congr 1
  · exact (respells_headChar k).again c (hmem c (by simp))
  · exact List.map_congr_left fun x hx => (respells_tailChar k).again x (hmem x (by simp [hx]))

end KeywordCase

/-! ### The written form of a token -/

namespace Layout

variable {t : Token} {c : Char} {s : List Char}

/-- A token in the chosen spelling. -/
def Options.written (o : Options) (t : Token) : Token := { t with text := o.textOf t }

@[simp] theorem written_lexClass (o : Options) (t : Token) : (o.written t).lexClass = t.lexClass := rfl

@[simp] theorem written_text (o : Options) (t : Token) : (o.written t).text = o.textOf t := rfl

theorem textOf_of_not_keyword (o : Options) (h : t.lexClass.isKeyword = false) :
    o.textOf t = t.text := by
  simp [Options.textOf, h]

theorem ofWord_text (hshape : Shape t.lexClass t.text.toList) (hk : t.lexClass.isKeyword = true)
    (hw : t.text.toList = c :: s) : t.lexClass = .ofWord t.text := by
  rw [hw] at hshape
  rw [← String.ofList_toList (s := t.text), hw]
  exact (hshape.word_of_isWordClass (isWordClass_of_isKeyword hk)).2.2

/-- What the written form of a keyword looks like: its characters are respelled one by one. -/
theorem exists_written_keyword (o : Options) (hshape : Shape t.lexClass t.text.toList)
    (hk : t.lexClass.isKeyword = true) :
    ∃ c s, t.text.toList = c :: s ∧ (∀ x ∈ c :: s, x ∈ keywordChars) ∧
      t.lexClass = .ofWord t.text ∧ o.textOf t = o.keywordCase.apply t.text := by
  obtain ⟨c, s, hw⟩ := List.exists_cons_of_ne_nil hshape.ne_nil
  have hclass := ofWord_text hshape hk hw
  refine ⟨c, s, hw, ?_, hclass, by simp [Options.textOf, hk]⟩
  rw [← hw]
  rw [hclass] at hk
  exact mem_keywordChars_of_ofWord hk

/-- The written form of a token has the shape of its class. -/
theorem shape_textOf (o : Options) (hshape : Shape t.lexClass t.text.toList) :
    Shape t.lexClass (o.textOf t).toList := by
  cases hk : t.lexClass.isKeyword with
  | false => rwa [textOf_of_not_keyword o hk]
  | true =>
    obtain ⟨c, s, hw, hmem, hclass, htext⟩ := exists_written_keyword o hshape hk
    rw [hclass] at hk
    have hsame := KeywordCase.ofWord_apply o.keywordCase hk hw
    have hto := KeywordCase.toList_apply o.keywordCase hw
    rw [← String.ofList_toList (s := o.keywordCase.apply t.text), hto] at hsame
    rw [htext, hto, hclass, ← hsame]
    refine .word (isWordStart_of_mem_keywordChars ?_) fun x hx => ?_
    · exact (respells_headChar _).mem c (hmem c (by simp))
    · obtain ⟨y, hy, rfl⟩ := List.mem_map.mp hx
      apply isWordPart_of_isWordStart
      exact isWordStart_of_mem_keywordChars ((respells_tailChar _).mem y (hmem y (by simp [hy])))

/-- Writing a token twice is writing it once. -/
theorem textOf_written (o : Options) (hshape : Shape t.lexClass t.text.toList) :
    o.textOf (o.written t) = o.textOf t := by
  cases hk : t.lexClass.isKeyword with
  | false => simp [Options.textOf, hk]
  | true =>
    obtain ⟨c, s, hw, -, hclass, htext⟩ := exists_written_keyword o hshape hk
    have hk' := hk
    rw [hclass] at hk'
    show (if (o.written t).lexClass.isKeyword then o.keywordCase.apply (o.textOf t) else _) = _
    rw [written_lexClass, if_pos hk, htext, KeywordCase.apply_apply _ hk' hw]

theorem isJoinModifier_written (o : Options) (hshape : Shape t.lexClass t.text.toList) :
    isJoinModifier (o.written t) = isJoinModifier t := by
  cases hk : t.lexClass.isKeyword with
  | false =>
    have hne : (t.lexClass == .reservedWord) = false := by
      cases hc : t.lexClass <;> first | rfl | (rw [hc] at hk; cases hk)
    simp [isJoinModifier, hne]
  | true =>
    obtain ⟨c, s, hw, -, hclass, htext⟩ := exists_written_keyword o hshape hk
    rw [hclass] at hk
    simp [isJoinModifier, htext, KeywordCase.upper_apply _ hk hw]

/-! ### The boundaries of written tokens -/

/-- What the scanner asks of the character after a token, apart from the exponent mark, has one answer for
all characters of keywords. -/
theorem glues_keywordChar {k : LexClass} {w : List Char} {c d : Char} (hshape : Shape k w)
    (hc : c ∈ keywordChars) (hd : d ∈ keywordChars) (hmark : isExponentMark c = isExponentMark d) :
    glues k w c = glues k w d := by
  have hall : ∀ x ∈ keywordChars, Text.isSpace x = false ∧ x.isDigit = false ∧
      x ∉ ['\n', '=', '>', '-', '*', '|', ':', '\'', '"', '\x60'] := by decide +kernel
  obtain ⟨hcs, hcd, hcn⟩ := hall c hc
  obtain ⟨hds, hdd, hdn⟩ := hall d hd
  have hcw := isWordStart_of_mem_keywordChars hc
  have hdw := isWordStart_of_mem_keywordChars hd
  have hcp := isWordPart_of_isWordStart hcw
  have hdp := isWordPart_of_isWordStart hdw
  simp only [List.mem_cons, List.not_mem_nil, or_false, not_or] at hcn hdn
  apply Bool.eq_iff_iff.mpr
  cases k with
  | string | quotedIdentifier =>
    obtain ⟨q, s, rfl⟩ := List.exists_cons_of_ne_nil hshape.ne_nil
    have hq : q = '\'' ∨ q = '"' ∨ q = '\x60' := hshape.quote_of_string (by simp)
    have hqc : q ≠ c := by
      rintro rfl
      simp [hcn] at hq
    have hqd : q ≠ d := by
      rintro rfl
      simp [hdn] at hq
    simp [glues, hqc, hqd]
  | other =>
    simp only [glues]
    split <;> simp [*]
  | _ => simp [glues, *]

/-- The boundary before the written form of a token is the boundary before the token. -/
theorem startsWith_glues_written {k : LexClass} {w : List Char} (o : Options) (hw : Shape k w)
    (hshape : Shape t.lexClass t.text.toList) (r r' : List Char) :
    startsWith (glues k w) ((o.textOf t).toList ++ r) = startsWith (glues k w) (t.text.toList ++ r') := by
  cases hk : t.lexClass.isKeyword with
  | false =>
    obtain ⟨c, s, hcs⟩ := List.exists_cons_of_ne_nil hshape.ne_nil
    rw [textOf_of_not_keyword o hk, hcs]
    rfl
  | true =>
    obtain ⟨c, s, hcs, hmem, -, htext⟩ := exists_written_keyword o hshape hk
    have hc := hmem c (by simp)
    rw [htext, KeywordCase.toList_apply o.keywordCase hcs, hcs]
    exact glues_keywordChar hw ((respells_headChar _).mem c hc) hc ((respells_headChar _).mark c hc)

/-- A token ends where its written form ends. -/
theorem endsBefore_textOf (o : Options) (t : Token) (r : List Char) :
    endsBefore t.lexClass (o.textOf t).toList r = endsBefore t.lexClass t.text.toList r := by
  cases hk : t.lexClass.isKeyword with
  | false => rw [textOf_of_not_keyword o hk]
  | true =>
    -- the boundary of a word does not depend on its text
    unfold endsBefore
    cases hc : t.lexClass <;> first | rfl | (rw [hc] at hk; cases hk)

theorem mem_textOf (o : Options) (hshape : Shape t.lexClass t.text.toList) (x : Char)
    (hx : x ∈ (o.textOf t).toList) : x ∈ t.text.toList ∨ x ∈ keywordChars := by
  cases hk : t.lexClass.isKeyword with
  | false =>
    rw [textOf_of_not_keyword o hk] at hx
    exact .inl hx
  | true =>
    obtain ⟨c, s, hcs, hmem, -, htext⟩ := exists_written_keyword o hshape hk
    rw [htext, KeywordCase.toList_apply o.keywordCase hcs] at hx
    right
    rcases List.mem_cons.mp hx with rfl | hx
    · exact (respells_headChar _).mem c (hmem c (by simp))
    · obtain ⟨y, hy, rfl⟩ := List.mem_map.mp hx
      exact (respells_tailChar _).mem y (hmem y (by simp [hy]))

end Layout

end SqlOutline
