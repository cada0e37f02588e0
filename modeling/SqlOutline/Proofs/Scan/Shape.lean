import SqlOutline.Proofs.Scan.Boundary

/-!
# The shapes of tokens

What the text of a token of each class looks like, without reference to how the scanner finds it.

* `symbols` : the tokens whose text is fixed;
* `Shape` : the class and the text of a token;
* `IsToken` : the scanner takes a text alone as one token;
* `isToken_iff_shape` : the two agree.
-/

namespace SqlOutline.Scan

/-! ### Deciding over lists

Facts about an alphabet run through its characters.  `Char` has an instance of its own that decides a
quantifier by trying every code point; the ones for lists go before it. -/

instance (priority := 2000) decidableForallMem {α : Type} {p : α → Prop} [DecidablePred p] (l : List α) :
    Decidable (∀ x ∈ l, p x) :=
  List.decidableBAll p l

instance (priority := 2000) decidableExistsMem {α : Type} {p : α → Prop} [DecidablePred p] (l : List α) :
    Decidable (∃ x ∈ l, p x) :=
  List.decidableBEx p l

/-! ### Classes of characters -/

theorem mem_of_code {c : Char} {cs : List Char} (h : c.toNat ∈ cs.map Char.toNat) : c ∈ cs := by
  obtain ⟨d, hd, hdc⟩ := List.mem_map.mp h
  have hdc' : d = c := Char.ext (UInt32.toNat_inj.mp hdc)
  exact hdc' ▸ hd

/-- The white space characters. -/
def spaceChars : List Char :=
  ['\t', '\n', '\x0b', '\x0c', '\r', ' ', '\u0085', '\u00a0', '\u1680', '\u2000', '\u2001', '\u2002',
    '\u2003', '\u2004', '\u2005', '\u2006', '\u2007', '\u2008', '\u2009', '\u200a', '\u2028', '\u2029',
    '\u202f', '\u205f', '\u3000']

theorem mem_spaceChars {c : Char} (h : Text.isSpace c = true) : c ∈ spaceChars := by
  apply mem_of_code
  have hcontrol : 9 ≤ c.toNat ∧ c.toNat ≤ 13 → c.toNat ∈ [9, 10, 11, 12, 13] := by
    intro hc
    simp only [List.mem_cons, List.not_mem_nil, or_false]
    omega
  have hquads : 0x2000 ≤ c.toNat ∧ c.toNat ≤ 0x200A → c.toNat ∈
      [8192, 8193, 8194, 8195, 8196, 8197, 8198, 8199, 8200, 8201, 8202] := by
    intro hc
    simp only [List.mem_cons, List.not_mem_nil, or_false]
    omega
  simp only [Text.isSpace, Bool.or_eq_true, decide_eq_true_eq, beq_iff_eq] at h
  rcases h with (((((((((h | h) | h) | h) | h) | h) | h) | h) | h) | h) | h
  · exact List.mem_append_left _ (hcontrol h)
  · rw [h]; decide
  · rw [h]; decide
  · rw [h]; decide
  · rw [h]; decide
  · exact List.mem_append_right [9, 10, 11, 12, 13, 32, 133, 160, 5760]
      (List.mem_append_left [8232, 8233, 8239, 8287, 12288] (hquads h))
  · rw [h]; decide
  · rw [h]; decide
  · rw [h]; decide
  · rw [h]; decide
  · rw [h]; decide

/-- The digits of numeric literals. -/
def digitChars : List Char := ['0', '1', '2', '3', '4', '5', '6', '7', '8', '9']

theorem mem_digitChars {c : Char} (h : c.isDigit = true) : c ∈ digitChars := by
  apply mem_of_code
  simp only [Char.isDigit, Bool.and_eq_true, decide_eq_true_eq] at h
  have hlo : 48 ≤ c.toNat := UInt32.le_iff_toNat_le.mp h.1
  have hhi : c.toNat ≤ 57 := UInt32.le_iff_toNat_le.mp h.2
  show c.toNat ∈ [48, 49, 50, 51, 52, 53, 54, 55, 56, 57]
  simp only [List.mem_cons, List.not_mem_nil, or_false]
  omega

/-- White space is no part of a word. -/
theorem isWordPart_of_isSpace {c : Char} (h : Text.isSpace c = true) : isWordPart c = false := by
  have hall : ∀ d ∈ spaceChars, isWordPart d = false := by decide +kernel
  exact hall c (mem_spaceChars h)

theorem isSpace_of_isWordPart {c : Char} (h : isWordPart c = true) : Text.isSpace c = false := by
  cases hs : Text.isSpace c with
  | false => rfl
  | true => rw [isWordPart_of_isSpace hs] at h; cases h

theorem isSpace_of_isDigit {c : Char} (h : c.isDigit = true) : Text.isSpace c = false :=
  isSpace_of_isWordPart (isWordPart_of_isDigit h)

theorem isWordStart_of_isDigit {c : Char} (h : c.isDigit = true) : isWordStart c = false := by
  have hall : ∀ d ∈ digitChars, isWordStart d = false := by decide +kernel
  exact hall c (mem_digitChars h)

/-! ### Shapes -/

/-- The tokens whose text is fixed by their class, with that text. -/
def symbols : List (LexClass × List Char) :=
  [(.openParen, ['(']), (.closeParen, [')']), (.comma, [',']), (.semicolon, [';']), (.dot, ['.']),
    (.equal, ['=']), (.notEqual, ['<', '>']), (.notEqual, ['!', '=']), (.less, ['<']), (.greater, ['>']),
    (.lessEqual, ['<', '=']), (.greaterEqual, ['>', '=']), (.plus, ['+']), (.minus, ['-']),
    (.star, ['*']), (.slash, ['/']), (.percent, ['%']), (.concat, ['|', '|']),
    (.doubleColon, [':', ':']), (.placeholder, ['?'])]

/-- The characters that start a symbol or a quoted token; the last four of them also stand alone. -/
def markChars : List Char :=
  ['(', ')', ',', ';', '.', '=', '<', '>', '+', '-', '*', '/', '%', '?', '\'', '"', '\x60',
    '!', '|', ':', '$']

/-- The class and the text of a token. -/
inductive Shape : LexClass → List Char → Prop
  | space {c : Char} {s : List Char} : Text.isSpace c = true → (∀ x ∈ s, Text.isSpace x = true) →
      Shape .whitespace (c :: s)
  | word {c : Char} {s : List Char} : isWordStart c = true → (∀ x ∈ s, isWordPart x = true) →
      Shape (.ofWord (String.ofList (c :: s))) (c :: s)
  | number {d f e : List Char} : Numeral d f e → (d ≠ [] ∨ f ≠ []) → Shape .number (d ++ f ++ e)
  | string {s : List Char} : quotedLength '\'' s = some s.length → Shape .string ('\'' :: s)
  | quotedName {d : Char} {s : List Char} : d = '"' ∨ d = '\x60' →
      quotedLength d s = some s.length → Shape .quotedIdentifier (d :: s)
  | parameter {c : Char} {s : List Char} : c = ':' ∧ startsWith isWordStart s = true ∨
      c = '$' ∧ startsWith (fun x => x.isDigit || isWordStart x) s = true →
      (∀ x ∈ s, isWordPart x = true) → Shape .placeholder (c :: s)
  | lineComment {s : List Char} : (∀ x ∈ s, x ≠ '\n') → Shape .lineComment ('-' :: '-' :: s)
  | blockComment {s : List Char} : commentLength s = some s.length →
      Shape .blockComment ('/' :: '*' :: s)
  | symbol {k : LexClass} {w : List Char} : (k, w) ∈ symbols → Shape k w
  | other {c : Char} : Text.isSpace c = false → isWordStart c = false → c.isDigit = false →
      (c ∉ markChars ∨ c ∈ ['!', '|', ':', '$']) → Shape .other [c]

/-- The scanner takes the text alone as one token of the class. -/
def IsToken (k : LexClass) (w : List Char) : Prop :=
  ∃ c s, w = c :: s ∧ lexeme c s = .ok (k, s.length)

theorem run_eq_length_iff (p : Char → Bool) (s : List Char) :
    run p s = s.length ↔ ∀ c ∈ s, p c = true := by
  have h := run_append_eq_length_iff p s []
  simpa using h

theorem shape_of_number {c : Char} {s : List Char} {k : LexClass}
    (hc : c.isDigit = true ∨ c = '.' ∧ startsWith Char.isDigit s = true)
    (h : number c s = .ok (k, s.length)) : Shape k (c :: s) := by
  obtain ⟨rfl, hn⟩ := (number_eq_ok_iff hc).mp h
  have hn' : numberLength (c :: s ++ []) = some (c :: s).length := by simpa using hn
  obtain ⟨d, f, e, heq, hnum, -⟩ := (numberLength_append_iff (c :: s) []).mp hn'
  rw [heq]
  refine .number hnum ?_
  by_cases hd : d = []
  · by_cases hf : f = []
    · -- only an exponent would be left, and it starts neither with a digit nor with a point
      subst hd hf
      cases hnum.exponent with
      | absent => cases heq
      | @present m sign ds hm _ _ _ =>
        obtain ⟨rfl, -⟩ := List.cons.inj heq
        rcases hc with hd | ⟨rfl, -⟩
        · rw [isExponentMark_not_digit hm] at hd
          cases hd
        · cases hm
    · exact .inr hf
  · exact .inl hd

theorem shape_of_pairOr {c second : Char} {both alone k : LexClass} {s : List Char}
    (hboth : Shape both [c, second]) (halone : Shape alone [c])
    (h : pairOr second both alone s = .ok (k, s.length)) : Shape k (c :: s) := by
  unfold pairOr at h
  split at h
  · rename_i hs
    obtain ⟨rfl, hlen⟩ : both = k ∧ 1 = s.length := by simpa using h
    obtain ⟨x, rfl⟩ := List.length_eq_one_iff.mp hlen.symm
    obtain rfl : x = second := by simpa using hs
    exact hboth
  · obtain ⟨rfl, hlen⟩ : alone = k ∧ 0 = s.length := by simpa using h
    obtain rfl : s = [] := List.length_eq_zero_iff.mp hlen.symm
    exact halone

theorem shape_of_single {c : Char} {k₀ k : LexClass} {s : List Char} (hshape : Shape k₀ [c])
    (h : single k₀ = .ok (k, s.length)) : Shape k (c :: s) := by
  obtain ⟨rfl, hlen⟩ := single_eq_ok_iff.mp h
  obtain rfl : s = [] := List.length_eq_zero_iff.mp hlen
  exact hshape

/-- Every token has the shape of its class. -/
theorem shape_of_lexeme {c : Char} {s : List Char} {k : LexClass}
    (h : lexeme c s = .ok (k, s.length)) : Shape k (c :: s) := by
  unfold lexeme at h
  split at h
  case h_1 | h_2 | h_3 | h_4 | h_11 | h_17 | h_19 | h_20 | h_21 =>
    exact shape_of_single (.symbol (by decide)) h
  case h_5 =>
    split at h
    · rename_i hs
      exact shape_of_number (.inr ⟨rfl, hs⟩) h
    · exact shape_of_single (.symbol (by decide)) h
  case h_6 =>
    obtain ⟨rfl, hq⟩ := quoted_eq_ok_iff.mp h
    exact .string hq
  case h_7 =>
    obtain ⟨rfl, hq⟩ := quoted_eq_ok_iff.mp h
    exact .quotedName (.inl rfl) hq
  case h_8 =>
    obtain ⟨rfl, hq⟩ := quoted_eq_ok_iff.mp h
    exact .quotedName (.inr rfl) hq
  case h_9 =>
    split at h
    · rename_i hs
      obtain ⟨rfl, hrun⟩ : LexClass.lineComment = k ∧ run (· != '\n') s = s.length := by simpa using h
      cases s with
      | nil => cases hs
      | cons x s =>
        obtain rfl : x = '-' := by simpa using hs
        refine .lineComment fun y hy => ?_
        simpa using (run_eq_length_iff _ _).mp hrun y (by simp [hy])
    · exact shape_of_single (.symbol (by decide)) h
  case h_10 =>
    have h' : lexeme '/' s = .ok (k, s.length) := h
    rw [lexeme_slash] at h'
    split at h'
    · rename_i hs
      obtain ⟨rfl, m, hm, hlen⟩ := blockCommentFrom_eq_ok_iff.mp h'
      cases s with
      | nil => cases hs
      | cons x s =>
        obtain rfl : x = '*' := by simpa using hs
        obtain rfl : m = s.length := by simpa using hlen
        exact .blockComment hm
    · exact shape_of_single (.symbol (by decide)) h'
  case h_12 =>
    split at h
    · rename_i hs
      obtain ⟨rfl, hlen⟩ : LexClass.lessEqual = k ∧ 1 = s.length := by simpa using h
      obtain ⟨x, rfl⟩ := List.length_eq_one_iff.mp hlen.symm
      obtain rfl : x = '=' := by simpa using hs
      exact .symbol (by decide)
    · exact shape_of_pairOr (.symbol (by decide)) (.symbol (by decide)) h
  case h_13 => exact shape_of_pairOr (.symbol (by decide)) (.symbol (by decide)) h
  case h_14 | h_15 =>
    exact shape_of_pairOr (.symbol (by decide))
      (.other (by decide) (by decide) (by decide) (.inr (by decide))) h
  case h_16 =>
    split at h
    · rename_i hs
      obtain ⟨rfl, hrun⟩ : LexClass.placeholder = k ∧ run isWordPart s = s.length := by simpa using h
      exact .parameter (.inl ⟨rfl, hs⟩) ((run_eq_length_iff _ _).mp hrun)
    · exact shape_of_pairOr (.symbol (by decide))
        (.other (by decide) (by decide) (by decide) (.inr (by decide))) h
  case h_18 =>
    split at h
    · rename_i hs
      obtain ⟨rfl, hrun⟩ : LexClass.placeholder = k ∧ run isWordPart s = s.length := by simpa using h
      exact .parameter (.inr ⟨rfl, hs⟩) ((run_eq_length_iff _ _).mp hrun)
    · exact shape_of_single (.other (by decide) (by decide) (by decide) (.inr (by decide))) h
  case h_22 =>
    split at h
    · rename_i hspace
      obtain ⟨rfl, hrun⟩ : LexClass.whitespace = k ∧ run Text.isSpace s = s.length := by simpa using h
      exact .space hspace ((run_eq_length_iff _ _).mp hrun)
    · rename_i hspace
      split at h
      · rename_i hword
        simp only [Except.ok.injEq, Prod.mk.injEq] at h
        obtain ⟨hk, hrun⟩ := h
        rw [hrun, List.take_length] at hk
        rw [← hk]
        exact .word hword ((run_eq_length_iff _ _).mp hrun)
      · rename_i hword
        split at h
        · rename_i hdigit
          exact shape_of_number (.inl hdigit) h
        · rename_i hdigit
          refine shape_of_single (.other (by simpa using hspace) (by simpa using hword)
            (by simpa using hdigit) (.inl ?_)) h
          simp_all [markChars]

/-! ### Texts of every shape are tokens -/

theorem lexeme_of_isSpace {c : Char} (h : Text.isSpace c = true) (cs : List Char) :
    lexeme c cs = .ok (.whitespace, run Text.isSpace cs) := by
  unfold lexeme
  split
  case h_22 => rw [if_pos h]
  all_goals exact absurd h (by decide)

theorem lexeme_of_isWordStart {c : Char} (h : isWordStart c = true) (cs : List Char) :
    lexeme c cs = .ok (.ofWord (String.ofList (c :: cs.take (run isWordPart cs))), run isWordPart cs) := by
  have hspace := isSpace_of_isWordPart (isWordPart_of_isWordStart h)
  unfold lexeme
  split
  case h_22 => rw [if_neg (by rw [hspace]; simp), if_pos h]
  all_goals exact absurd h (by decide)

theorem lexeme_of_isDigit {c : Char} (h : c.isDigit = true) (cs : List Char) :
    lexeme c cs = number c cs := by
  have hspace := isSpace_of_isDigit h
  have hword := isWordStart_of_isDigit h
  unfold lexeme
  split
  case h_22 => rw [if_neg (by rw [hspace]; simp), if_neg (by rw [hword]; simp), if_pos h]
  all_goals exact absurd h (by decide)

theorem isToken_number {d f e : List Char} (h : Numeral d f e) (hne : d ≠ [] ∨ f ≠ []) :
    IsToken .number (d ++ f ++ e) := by
  have hlen : numberLength (d ++ f ++ e) = some (d ++ f ++ e).length := by
    simpa using h.numberLength_append (.nil f e)
  cases d with
  | cons c d =>
    have hc : c.isDigit = true := h.whole c (by simp)
    refine ⟨c, d ++ f ++ e, rfl, ?_⟩
    rw [lexeme_of_isDigit hc]
    exact (number_eq_ok_iff (.inl hc)).mpr ⟨rfl, hlen⟩
  | nil =>
    have hf := h.fraction
    cases hf with
    | absent => simp at hne
    | @present ds hds hdigits =>
      obtain ⟨x, ds, rfl⟩ := List.exists_cons_of_ne_nil hds
      have hx : startsWith Char.isDigit (x :: ds ++ e) = true := hdigits x (by simp)
      refine ⟨'.', x :: ds ++ e, rfl, ?_⟩
      show (if startsWith Char.isDigit (x :: ds ++ e) then number '.' (x :: ds ++ e) else single .dot) = _
      rw [if_pos hx]
      exact (number_eq_ok_iff (.inr ⟨rfl, hx⟩)).mpr ⟨rfl, hlen⟩

theorem lexeme_of_not_mem_markChars {c : Char} (hspace : Text.isSpace c = false)
    (hword : isWordStart c = false) (hdigit : c.isDigit = false) (hmark : c ∉ markChars) :
    lexeme c [] = single .other := by
  unfold lexeme
  split
  case h_22 => simp [hspace, hword, hdigit]
  all_goals exact absurd hmark (by decide)

theorem isToken_of_shape {k : LexClass} {w : List Char} (h : Shape k w) : IsToken k w := by
  cases h with
  | @space c s hc hs =>
    refine ⟨c, s, rfl, ?_⟩
    rw [lexeme_of_isSpace hc, (run_eq_length_iff _ _).mpr hs]
  | @word c s hc hs =>
    refine ⟨c, s, rfl, ?_⟩
    rw [lexeme_of_isWordStart hc, (run_eq_length_iff _ _).mpr hs, List.take_length]
  | number hnum hne => exact isToken_number hnum hne
  | @string s hq => exact ⟨'\'', s, rfl, quoted_eq_ok_iff.mpr ⟨rfl, hq⟩⟩
  | @quotedName d s hd hq =>
    rcases hd with rfl | rfl
    · exact ⟨'"', s, rfl, quoted_eq_ok_iff.mpr ⟨rfl, hq⟩⟩
    · exact ⟨'\x60', s, rfl, quoted_eq_ok_iff.mpr ⟨rfl, hq⟩⟩
  | @parameter c s hc hs =>
    have hrun := (run_eq_length_iff _ _).mpr hs
    rcases hc with ⟨rfl, hc⟩ | ⟨rfl, hc⟩
    · refine ⟨':', s, rfl, ?_⟩
      show (if startsWith isWordStart s then .ok (.placeholder, run isWordPart s)
        else pairOr ':' .doubleColon .other s : Lexeme) = _
      rw [if_pos hc, hrun]
    · refine ⟨'$', s, rfl, ?_⟩
      show (if startsWith (fun x => x.isDigit || isWordStart x) s then
        .ok (.placeholder, run isWordPart s) else single .other : Lexeme) = _
      rw [if_pos hc, hrun]
  | @lineComment s hs =>
    have hrun : run (· != '\n') ('-' :: s) = ('-' :: s).length := by
      refine (run_eq_length_iff _ _).mpr fun x hx => ?_
      rcases List.mem_cons.mp hx with rfl | hx
      · rfl
      · simpa using hs x hx
    refine ⟨'-', '-' :: s, rfl, ?_⟩
    show (.ok (.lineComment, run (· != '\n') ('-' :: s)) : Lexeme) = _
    rw [hrun]
  | @blockComment s hs =>
    refine ⟨'/', '*' :: s, rfl, ?_⟩
    rw [lexeme_slash]
    exact blockCommentFrom_eq_ok_iff.mpr ⟨rfl, s.length, hs, rfl⟩
  | symbol h =>
    simp only [symbols, List.mem_cons, Prod.mk.injEq, List.not_mem_nil, or_false] at h
    rcases h with ⟨rfl, rfl⟩ | ⟨rfl, rfl⟩ | ⟨rfl, rfl⟩ | ⟨rfl, rfl⟩ | ⟨rfl, rfl⟩ | ⟨rfl, rfl⟩ |
      ⟨rfl, rfl⟩ | ⟨rfl, rfl⟩ | ⟨rfl, rfl⟩ | ⟨rfl, rfl⟩ | ⟨rfl, rfl⟩ | ⟨rfl, rfl⟩ | ⟨rfl, rfl⟩ |
      ⟨rfl, rfl⟩ | ⟨rfl, rfl⟩ | ⟨rfl, rfl⟩ | ⟨rfl, rfl⟩ | ⟨rfl, rfl⟩ | ⟨rfl, rfl⟩ | ⟨rfl, rfl⟩ <;>
      exact ⟨_, _, rfl, rfl⟩
  | @other c hspace hword hdigit hmark =>
    refine ⟨c, [], rfl, ?_⟩
    rcases hmark with hmark | hmark
    · exact lexeme_of_not_mem_markChars hspace hword hdigit hmark
    · simp only [List.mem_cons, List.not_mem_nil, or_false] at hmark
      rcases hmark with rfl | rfl | rfl | rfl <;> rfl

/-- The scanner takes a text alone as one token of a class exactly when the text has a shape of the
class. -/
theorem isToken_iff_shape (k : LexClass) (w : List Char) : IsToken k w ↔ Shape k w := by
  constructor
  · rintro ⟨c, s, rfl, h⟩
    exact shape_of_lexeme h
  · exact isToken_of_shape

/-! ### Reading a shape -/

theorem isWordClass_of_isKeyword {k : LexClass} (h : k.isKeyword = true) : isWordClass k = true := by
  cases k <;> first | rfl | cases h

theorem ne_of_mem_symbols {k k₀ : LexClass} {w : List Char} (hk : symbols.all (·.1 != k₀) = true)
    (h : (k, w) ∈ symbols) : k ≠ k₀ := by
  simpa using List.all_eq_true.mp hk _ h

/-- A quoted token ends with its delimiter. -/
theorem quotedLength_last {d : Char} {s : List Char} (h : quotedLength d s = some s.length) :
    ∃ a, s = a ++ [d] := by
  fun_induction quotedLength d s with
  | case1 => cases h
  | case2 => exact ⟨[], rfl⟩
  | case3 => cases h
  | case4 x rest ih =>
    have h' : quotedLength d rest = some rest.length := by simpa using h
    obtain ⟨a, rfl⟩ := ih h'
    exact ⟨'\\' :: x :: a, rfl⟩
  | case5 rest _ ih =>
    have h' : quotedLength d rest = some rest.length := by simpa using h
    obtain ⟨a, rfl⟩ := ih h'
    exact ⟨d :: d :: a, rfl⟩
  | case6 => simp at h
  | case7 c x rest _ _ ih =>
    have h' : quotedLength d (x :: rest) = some (x :: rest).length := by simpa using h
    obtain ⟨a, ha⟩ := ih h'
    exact ⟨c :: a, by rw [ha]; rfl⟩

/-- A block comment ends with its closing mark. -/
theorem commentLength_last {s : List Char} (h : commentLength s = some s.length) :
    ∃ a, s = a ++ ['*', '/'] := by
  fun_induction commentLength s with
  | case1 => cases h
  | case2 => cases h
  | case3 c d rest hcd =>
    obtain ⟨rfl, rfl⟩ := hcd
    have hrest : rest = [] := by simpa using h
    exact ⟨[], by rw [hrest]; rfl⟩
  | case4 c d rest _ ih =>
    have h' : commentLength (d :: rest) = some (d :: rest).length := by simpa using h
    obtain ⟨a, ha⟩ := ih h'
    exact ⟨c :: a, by rw [ha]; rfl⟩

namespace Shape

variable {k : LexClass} {c : Char} {s w : List Char}

theorem ne_nil (h : Shape k w) : w ≠ [] := by
  obtain ⟨c, s, rfl, -⟩ := isToken_of_shape h
  simp

/-- The text of a word is a word, and decides its class. -/
theorem word_of_isWordClass (h : Shape k (c :: s)) (hk : isWordClass k = true) :
    isWordStart c = true ∧ (∀ x ∈ s, isWordPart x = true) ∧ k = .ofWord (String.ofList (c :: s)) := by
  generalize hw : c :: s = w at h
  cases h with
  | word hc hs =>
    obtain ⟨rfl, rfl⟩ := List.cons.inj hw
    exact ⟨hc, hs, rfl⟩
  | symbol h =>
    have hall : ∀ p ∈ symbols, isWordClass p.1 = false := by decide
    rw [hall _ h] at hk
    cases hk
  | _ => cases hk

theorem mem_symbols (h : Shape k w)
    (hk : k ∈ [LexClass.openParen, .closeParen, .comma, .semicolon, .dot]) : (k, w) ∈ symbols := by
  cases h with
  | symbol h => exact h
  | word _ _ =>
    have hall : ∀ k ∈ [LexClass.openParen, .closeParen, .comma, .semicolon, .dot],
        isWordClass k = false := by decide
    exact absurd rfl (ofWord_ne (hall _ hk) _)
  | _ => exact absurd hk (by decide)

theorem quote_of_string (h : Shape k (c :: s)) (hk : k = .string ∨ k = .quotedIdentifier) :
    c = '\'' ∨ c = '"' ∨ c = '\x60' := by
  generalize hw : c :: s = w at h
  cases h with
  | string _ => exact .inl (List.cons.inj hw).1
  | quotedName hd _ =>
    obtain ⟨rfl, -⟩ := List.cons.inj hw
    exact .inr hd
  | word _ _ => exact (hk.elim (ofWord_ne rfl _) (ofWord_ne rfl _)).elim
  | symbol h => exact (hk.elim (ne_of_mem_symbols (by decide) h) (ne_of_mem_symbols (by decide) h)).elim
  | _ => rcases hk with hk | hk <;> cases hk

theorem numeral_of_number (h : Shape .number w) :
    ∃ d f e, w = d ++ f ++ e ∧ Numeral d f e ∧ (d ≠ [] ∨ f ≠ []) := by
  generalize hk : LexClass.number = k at h
  cases h with
  | number hnum hne => exact ⟨_, _, _, rfl, hnum, hne⟩
  | word _ _ => exact absurd hk.symm (ofWord_ne rfl _)
  | symbol h => exact absurd hk.symm (ne_of_mem_symbols (by decide) h)
  | _ => cases hk

theorem lineComment_text (h : Shape .lineComment w) :
    ∃ s, w = '-' :: '-' :: s ∧ ∀ x ∈ s, x ≠ '\n' := by
  generalize hk : LexClass.lineComment = k at h
  cases h with
  | lineComment hs => exact ⟨_, rfl, hs⟩
  | word _ _ => exact absurd hk.symm (ofWord_ne rfl _)
  | symbol h => exact absurd hk.symm (ne_of_mem_symbols (by decide) h)
  | _ => cases hk

/-- Only numeric literals start with a digit. -/
theorem number_of_isDigit (h : Shape k (c :: s)) (hc : c.isDigit = true) : k = .number := by
  obtain ⟨c', s', heq, hlex⟩ := isToken_of_shape h
  obtain ⟨rfl, rfl⟩ := List.cons.inj heq
  rw [lexeme_of_isDigit hc] at hlex
  exact ((number_eq_ok_iff (.inl hc)).mp hlex).1.symm

/-- A token that starts with a point is the point alone or a fraction. -/
theorem point_cases (h : Shape k ('.' :: s)) :
    k = .dot ∧ s = [] ∨ k = .number ∧ startsWith Char.isDigit s = true := by
  obtain ⟨c', s', heq, hlex⟩ := isToken_of_shape h
  obtain ⟨rfl, rfl⟩ := List.cons.inj heq
  have hlex' : (if startsWith Char.isDigit s then Scan.number '.' s else single .dot)
      = .ok (k, s.length) := hlex
  split at hlex'
  · rename_i hs
    exact .inr ⟨((number_eq_ok_iff (.inr ⟨rfl, hs⟩)).mp hlex').1.symm, hs⟩
  · obtain ⟨rfl, hlen⟩ := single_eq_ok_iff.mp hlex'
    exact .inl ⟨rfl, List.length_eq_zero_iff.mp hlen⟩

/-- A token of white space has no other characters. -/
theorem isSpace_of_mem (h : Shape .whitespace w) : ∀ x ∈ w, Text.isSpace x = true := by
  generalize hk : LexClass.whitespace = k at h
  cases h with
  | space hc hs => simpa using ⟨hc, hs⟩
  | word _ _ => exact absurd hk.symm (ofWord_ne rfl _)
  | symbol h => exact absurd hk.symm (ne_of_mem_symbols (by decide) h)
  | _ => cases hk

/-- White space stands in white space tokens only, at the start of a token. -/
theorem isSpace_head_iff (h : Shape k (c :: s)) : Text.isSpace c = true ↔ k = .whitespace := by
  obtain ⟨c', s', heq, hlex⟩ := isToken_of_shape h
  obtain ⟨rfl, rfl⟩ := List.cons.inj heq
  constructor
  · intro hc
    rw [lexeme_of_isSpace hc] at hlex
    simp only [Except.ok.injEq, Prod.mk.injEq] at hlex
    exact hlex.1.symm
  · rintro rfl
    exact h.isSpace_of_mem c List.mem_cons_self

/-- No token but white space and line comments ends with white space. -/
theorem last_not_isSpace (h : Shape k w) (hspace : k ≠ .whitespace) (hcomment : k ≠ .lineComment) :
    ∃ a c, w = a ++ [c] ∧ Text.isSpace c = false := by
  have hlast : ∀ {p : Char → Bool} {s : List Char} (b : List Char), s ≠ [] → (∀ x ∈ s, p x = true) →
      (∀ x, p x = true → Text.isSpace x = false) →
      ∃ a c, b ++ s = a ++ [c] ∧ Text.isSpace c = false := by
    intro p s b hne hs hp
    refine ⟨b ++ s.dropLast, s.getLast hne, ?_, hp _ (hs _ (List.getLast_mem hne))⟩
    rw [List.append_assoc, List.dropLast_concat_getLast]
  cases h with
  | space _ _ => exact absurd rfl hspace
  | @word c s hc hs =>
    have hall : ∀ x ∈ c :: s, isWordPart x = true := by
      intro x hx
      rcases List.mem_cons.mp hx with rfl | hx
      · exact isWordPart_of_isWordStart hc
      · exact hs x hx
    exact hlast [] (by simp) hall fun _ => isSpace_of_isWordPart
  | @number d f e hnum hne =>
    have hdigit : ∀ x : Char, x.isDigit = true → Text.isSpace x = false := fun _ => isSpace_of_isDigit
    have he := hnum.exponent
    cases he with
    | @present m sign ds _ _ hds hdigits =>
      have := hlast (d ++ f ++ m :: sign) hds hdigits hdigit
      simpa using this
    | absent =>
      have hf := hnum.fraction
      cases hf with
      | @present ds hds hdigits =>
        have := hlast (d ++ ['.']) hds hdigits hdigit
        simpa using this
      | absent =>
        have hd : d ≠ [] := by simpa using hne
        simpa using hlast [] hd hnum.whole hdigit
  | @string s hq =>
    obtain ⟨a, rfl⟩ := quotedLength_last hq
    exact ⟨'\'' :: a, '\'', rfl, by decide⟩
  | @quotedName d s hd hq =>
    obtain ⟨a, rfl⟩ := quotedLength_last hq
    refine ⟨d :: a, d, rfl, ?_⟩
    rcases hd with rfl | rfl <;> decide
  | @parameter c s hc hs =>
    have hne : s ≠ [] := by
      rintro rfl
      simp at hc
    exact hlast [c] hne hs fun _ => isSpace_of_isWordPart
  | lineComment _ => exact absurd rfl hcomment
  | @blockComment s hs =>
    obtain ⟨a, rfl⟩ := commentLength_last hs
    exact ⟨'/' :: '*' :: a ++ ['*'], '/', by simp, by decide⟩
  | symbol h =>
    have hall : ∀ p ∈ symbols, p.2 ≠ [] ∧ ∀ c ∈ p.2, (!Text.isSpace c) = true := by decide
    exact hlast [] (hall _ h).1 (hall _ h).2 fun x hx => by simpa using hx
  | @other c hc _ _ _ => exact ⟨[], c, rfl, hc⟩

end Shape

end SqlOutline.Scan
