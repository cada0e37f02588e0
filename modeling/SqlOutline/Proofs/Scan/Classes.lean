import SqlOutline.Proofs.Scan.Lexed

/-!
# The tokens of a text by class

What the text of a token of each class is, class by class and without a word on how the scanner goes about
it, and how far a token reaches: no longer piece of the text that starts where the token starts is a token
of any class.

* `QuotedBody`, `IsQuoted`, `IsComment` : quoted tokens and block comments;
* `InClass` : the texts of a class; `inClass_iff_shape` : they are the texts that the scanner takes;
* `eq_nil_of_endsBefore` : a token that ends before a text is no part of a longer one;
* `Delimited` : what the characters behind a token are not;
* `inClass_of_tokenize` : the main result.
-/

namespace SqlOutline.Scan

open Token

/-! ### Quoted tokens and block comments -/

/-- What stands between the delimiters of a quoted token: backslashes, each with the character after it,
doubled delimiters, and other characters. -/
inductive QuotedBody (delimiter : Char) : List Char → Prop
  | nil : QuotedBody delimiter []
  | escaped {c : Char} {s : List Char} : QuotedBody delimiter s → QuotedBody delimiter ('\\' :: c :: s)
  | doubled {s : List Char} : QuotedBody delimiter s → QuotedBody delimiter (delimiter :: delimiter :: s)
  | plain {c : Char} {s : List Char} : c ≠ '\\' → c ≠ delimiter → QuotedBody delimiter s →
      QuotedBody delimiter (c :: s)

/-- The text of a quoted token. -/
def IsQuoted (delimiter : Char) (w : List Char) : Prop :=
  ∃ s, QuotedBody delimiter s ∧ w = delimiter :: (s ++ [delimiter])

/-- The text of a block comment: nothing stands behind the first closing mark after the opening one. -/
def IsComment (w : List Char) : Prop :=
  ∃ s, w = '/' :: '*' :: (s ++ ['*', '/']) ∧ ∀ x y, s ++ ['*', '/'] = x ++ '*' :: '/' :: y → y = []

theorem QuotedBody.quotedLength_append {d : Char} (hd : d ≠ '\\') {s : List Char} (h : QuotedBody d s) :
    quotedLength d (s ++ [d]) = some (s ++ [d]).length := by
  induction h with
  | nil => simp [quotedLength]
  | escaped _ ih => simp [quotedLength, ih]
  | doubled _ ih => simp [quotedLength, hd, ih]
  | @plain c s hc hcd _ ih =>
    obtain ⟨x, r, hr⟩ : ∃ x r, s ++ [d] = x :: r := List.exists_cons_of_ne_nil (by simp)
    rw [List.cons_append, hr, quotedLength, if_neg hc, if_neg hcd, ← hr, ih]
    rfl

/-- The delimiter that ends a quoted token is the first one that is neither escaped nor doubled. -/
theorem quotedLength_eq_length_iff {d : Char} (hd : d ≠ '\\') (t : List Char) :
    quotedLength d t = some t.length ↔ ∃ s, QuotedBody d s ∧ t = s ++ [d] := by
  constructor
  · intro h
    fun_induction quotedLength d t with
    | case1 => cases h
    | case2 => exact ⟨[], .nil, rfl⟩
    | case3 => cases h
    | case4 x rest ih =>
      obtain ⟨s, hs, rfl⟩ := ih (by simpa using h)
      exact ⟨'\\' :: x :: s, .escaped hs, rfl⟩
    | case5 rest _ ih =>
      obtain ⟨s, hs, rfl⟩ := ih (by simpa using h)
      exact ⟨d :: d :: s, .doubled hs, rfl⟩
    | case6 => simp at h
    | case7 c x rest hc hcd ih =>
      obtain ⟨s, hs, heq⟩ := ih (by simpa using h)
      exact ⟨c :: s, .plain hc hcd hs, by rw [heq]; rfl⟩
  · rintro ⟨s, hs, rfl⟩
    exact hs.quotedLength_append hd

/-- A block comment ends with the first closing mark. -/
theorem commentLength_eq_length_iff (t : List Char) : commentLength t = some t.length ↔
    (∃ s, t = s ++ ['*', '/']) ∧ ∀ x y, t = x ++ '*' :: '/' :: y → y = [] := by
  fun_induction commentLength t with
  | case1 => simp
  | case2 c =>
    constructor
    · intro hlen
      cases hlen
    · rintro ⟨⟨s, hs⟩, -⟩
      have hlength := congrArg List.length hs
      simp only [List.length_append, List.length_cons, List.length_nil] at hlength
      omega
  | case3 c d rest h =>
    obtain ⟨rfl, rfl⟩ := h
    constructor
    · intro hlen
      obtain rfl : rest = [] := by simpa using hlen
      refine ⟨⟨[], rfl⟩, fun x y hxy => ?_⟩
      have hlength := congrArg List.length hxy
      simp only [List.length_append, List.length_cons, List.length_nil] at hlength
      exact List.length_eq_zero_iff.mp (by omega)
    · rintro ⟨-, hfirst⟩
      rw [hfirst [] rest rfl]
      rfl
  | case4 c d rest h ih =>
    have hlen : (commentLength (d :: rest)).map (· + 1) = some (c :: d :: rest).length ↔
        commentLength (d :: rest) = some (d :: rest).length := by simp
    rw [hlen, ih]
    constructor
    · rintro ⟨⟨s, hs⟩, hfirst⟩
      refine ⟨⟨c :: s, by rw [hs]; rfl⟩, fun x y hxy => ?_⟩
      cases x with
      | nil =>
        obtain ⟨hc, htail⟩ := List.cons.inj hxy
        exact absurd ⟨hc, (List.cons.inj htail).1⟩ h
      | cons x xs => exact hfirst xs y (List.cons.inj hxy).2
    · rintro ⟨⟨s, hs⟩, hfirst⟩
      refine ⟨?_, fun x y hxy => hfirst (c :: x) y (by rw [hxy]; rfl)⟩
      cases s with
      | nil =>
        obtain ⟨hc, htail⟩ := List.cons.inj hs
        exact absurd ⟨hc, (List.cons.inj htail).1⟩ h
      | cons x s => exact ⟨s, (List.cons.inj hs).2⟩

/-! ### Classes -/

/-- The texts of words. -/
def IsWord (w : List Char) : Prop :=
  ∃ c s, w = c :: s ∧ isWordStart c = true ∧ ∀ x ∈ s, isWordPart x = true

/-- The texts of numbers: digits, a fraction and an exponent, of which the exponent does not stand alone. -/
def IsNumber (w : List Char) : Prop :=
  ∃ d f e, w = d ++ f ++ e ∧ Numeral d f e ∧ (d ≠ [] ∨ f ≠ [])

/-- The texts of parameters with a name or a number. -/
def IsParameter (w : List Char) : Prop :=
  ∃ c x s, w = c :: x :: s ∧
    (c = ':' ∧ isWordStart x = true ∨ c = '$' ∧ (x.isDigit = true ∨ isWordStart x = true)) ∧
    ∀ y ∈ x :: s, isWordPart y = true

/-- The texts that are tokens of a class.  No text is a token of the end of a text or of a wildcard. -/
def InClass (k : LexClass) (w : List Char) : Prop :=
  match k with
  | .endOfText | .wildcard => False
  | .whitespace => w ≠ [] ∧ ∀ c ∈ w, Text.isSpace c = true
  | .identifier | .reservedWord | .boolean | .keyword _ => IsWord w ∧ k = .ofWord (String.ofList w)
  | .number => IsNumber w
  | .string => IsQuoted '\'' w
  | .quotedIdentifier => IsQuoted '"' w ∨ IsQuoted '\x60' w
  | .lineComment => ∃ s, w = '-' :: '-' :: s ∧ ∀ c ∈ s, c ≠ '\n'
  | .blockComment => IsComment w
  | .placeholder => w = ['?'] ∨ IsParameter w
  | .other => ∃ c, w = [c] ∧ Text.isSpace c = false ∧ isWordStart c = false ∧ c.isDigit = false ∧
      (c ∉ markChars ∨ c ∈ ['!', '|', ':', '$'])
  | k => (k, w) ∈ symbols

theorem inClass_of_isWordClass {k : LexClass} (hk : isWordClass k = true) (w : List Char) :
    InClass k w ↔ IsWord w ∧ k = .ofWord (String.ofList w) := by
  cases k <;> first | exact Iff.rfl | cases hk

theorem inClass_of_mem_symbols {k : LexClass} {w : List Char} (h : (k, w) ∈ symbols) : InClass k w := by
  have hplaceholder : k = .placeholder → w = ['?'] := by
    rintro rfl
    simpa [symbols] using h
  cases k with
  | placeholder => exact .inl (hplaceholder rfl)
  | keyword word => exact absurd h (by simp [symbols])
  | _ => first | exact h | exact absurd h (by simp [symbols])

theorem isParameter_iff (c : Char) (s : List Char) : IsParameter (c :: s) ↔
    (c = ':' ∧ startsWith isWordStart s = true ∨
      c = '$' ∧ startsWith (fun x => x.isDigit || isWordStart x) s = true) ∧
    ∀ x ∈ s, isWordPart x = true := by
  constructor
  · rintro ⟨_, x, s, heq, hfirst, hs⟩
    obtain ⟨rfl, rfl⟩ := List.cons.inj heq
    exact ⟨by simpa using hfirst, hs⟩
  · rintro ⟨hfirst, hs⟩
    cases s with
    | nil => simp at hfirst
    | cons x s => exact ⟨c, x, s, rfl, by simpa using hfirst, hs⟩

/-- The texts of a class are those with a shape of it. -/
theorem inClass_of_shape {k : LexClass} {w : List Char} (h : Shape k w) : InClass k w := by
  cases h with
  | space hc hs => exact ⟨by simp, by simpa using ⟨hc, hs⟩⟩
  | word hc hs => exact (inClass_of_isWordClass (isWordClass_ofWord _) _).mpr ⟨⟨_, _, rfl, hc, hs⟩, rfl⟩
  | number hnum hne => exact ⟨_, _, _, rfl, hnum, hne⟩
  | string hq =>
    obtain ⟨s, hs, rfl⟩ := (quotedLength_eq_length_iff (by decide) _).mp hq
    exact ⟨s, hs, rfl⟩
  | quotedName hd hq =>
    rcases hd with rfl | rfl
    · obtain ⟨s, hs, rfl⟩ := (quotedLength_eq_length_iff (by decide) _).mp hq
      exact .inl ⟨s, hs, rfl⟩
    · obtain ⟨s, hs, rfl⟩ := (quotedLength_eq_length_iff (by decide) _).mp hq
      exact .inr ⟨s, hs, rfl⟩
  | parameter hc hs => exact .inr ((isParameter_iff _ _).mpr ⟨hc, hs⟩)
  | lineComment hs => exact ⟨_, rfl, hs⟩
  | blockComment hs =>
    obtain ⟨⟨s, rfl⟩, hfirst⟩ := (commentLength_eq_length_iff _).mp hs
    exact ⟨s, rfl, hfirst⟩
  | symbol hmem => exact inClass_of_mem_symbols hmem
  | other hspace hword hdigit hmark => exact ⟨_, rfl, hspace, hword, hdigit, hmark⟩

theorem shape_of_isQuoted {d : Char} {w : List Char} {k : LexClass} (hd : d ≠ '\\')
    (hk : ∀ s, quotedLength d s = some s.length → Shape k (d :: s)) (h : IsQuoted d w) : Shape k w := by
  obtain ⟨s, hs, rfl⟩ := h
  exact hk _ (hs.quotedLength_append hd)

theorem shape_of_inClass {k : LexClass} {w : List Char} (h : InClass k w) : Shape k w := by
  have hword : isWordClass k = true → Shape k w := by
    intro hk
    obtain ⟨⟨c, s, rfl, hc, hs⟩, hclass⟩ := (inClass_of_isWordClass hk w).mp h
    rw [hclass]
    exact .word hc hs
  cases k with
  | endOfText | wildcard => cases h
  | whitespace =>
    obtain ⟨hne, hall⟩ := h
    obtain ⟨c, s, rfl⟩ := List.exists_cons_of_ne_nil hne
    exact .space (hall c (by simp)) fun x hx => hall x (by simp [hx])
  | identifier | reservedWord | boolean | keyword word => exact hword rfl
  | number =>
    obtain ⟨d, f, e, rfl, hnum, hne⟩ := h
    exact .number hnum hne
  | string => exact shape_of_isQuoted (by decide) (fun _ => .string) h
  | quotedIdentifier =>
    rcases h with h | h
    · exact shape_of_isQuoted (by decide) (fun _ => .quotedName (.inl rfl)) h
    · exact shape_of_isQuoted (by decide) (fun _ => .quotedName (.inr rfl)) h
  | lineComment =>
    obtain ⟨s, rfl, hs⟩ := h
    exact .lineComment hs
  | blockComment =>
    obtain ⟨s, rfl, hfirst⟩ := h
    exact .blockComment ((commentLength_eq_length_iff _).mpr ⟨⟨s, rfl⟩, hfirst⟩)
  | placeholder =>
    rcases h with rfl | h
    · exact .symbol (by decide)
    · obtain ⟨c, x, s, rfl, -⟩ := id h
      obtain ⟨hc, hs⟩ := (isParameter_iff c (x :: s)).mp h
      exact .parameter hc hs
  | other =>
    obtain ⟨c, rfl, hspace, hword, hdigit, hmark⟩ := h
    exact .other hspace hword hdigit hmark
  | _ => exact .symbol h

theorem inClass_iff_shape (k : LexClass) (w : List Char) : InClass k w ↔ Shape k w :=
  ⟨shape_of_inClass, inClass_of_shape⟩

/-! ### How far a token reaches -/

theorem startsWith_append_eq_false {p : Char → Bool} {x y : List Char}
    (h : startsWith p (x ++ y) = false) : startsWith p x = false := by
  cases x with
  | nil => rfl
  | cons c x => exact h

theorem fractionLength_eq_zero_of_append {x y : List Char} (h : fractionLength (x ++ y) = 0) :
    fractionLength x = 0 := by
  cases hp : startsWith (· == '.') x with
  | false => exact fractionLength_of_not_point hp
  | true =>
    cases x with
    | nil => rfl
    | cons c x =>
      obtain rfl : c = '.' := by simpa using hp
      rw [List.cons_append, fractionLength_point] at h
      cases hd : startsWith Char.isDigit (x ++ y) with
      | false => rw [fractionLength_point, startsWith_append_eq_false hd, if_neg Bool.false_ne_true]
      | true =>
        rw [hd, if_pos rfl] at h
        omega

/-- What ends before a text ends before every first part of it. -/
theorem endsBefore_of_append {k : LexClass} {w x y : List Char} (h : endsBefore k w (x ++ y) = true) :
    endsBefore k w x = true := by
  simp only [endsBefore, Bool.and_eq_true, Bool.or_eq_true, Bool.not_eq_true', beq_iff_eq] at h ⊢
  exact ⟨startsWith_append_eq_false h.1, h.2.imp id fractionLength_eq_zero_of_append⟩

/-- A token that ends before a text is no part of a longer token, whatever the class of that one. -/
theorem eq_nil_of_endsBefore {k k' : LexClass} {w x y : List Char} (h : Shape k w)
    (hends : endsBefore k w (x ++ y) = true) (h' : Shape k' (w ++ x)) : x = [] := by
  obtain ⟨c, s, hw, -⟩ := isToken_of_shape h
  subst hw
  have hfirst := lexeme_of_shape h (endsBefore_of_append hends)
  obtain ⟨_, _, heq, hlonger⟩ := isToken_of_shape h'
  obtain ⟨rfl, rfl⟩ := List.cons.inj heq
  have hlength : s.length = (s ++ x).length := congrArg Prod.snd (Except.ok.inj (hfirst.symm.trans hlonger))
  rw [List.length_append] at hlength
  exact List.length_eq_zero_iff.mp (by omega)

/-- What the text behind a token does not start with. -/
structure Delimited (k : LexClass) (rest : List Char) : Prop where
  space : k = .whitespace → ∀ c ∈ rest.head?, Text.isSpace c = false
  word : isWordClass k = true → ∀ c ∈ rest.head?, isWordPart c = false
  number : k = .number → ∀ c ∈ rest.head?, c.isDigit = false
  lineComment : k = .lineComment → ∀ c ∈ rest.head?, c = '\n'

theorem delimited_of_endsBefore {k : LexClass} {w rest : List Char} (h : endsBefore k w rest = true) :
    Delimited k rest := by
  have hglues : ∀ c ∈ rest.head?, glues k w c = false := by
    intro c hc
    obtain ⟨r, rfl⟩ := List.head?_eq_some_iff.mp hc
    simp only [endsBefore, Bool.and_eq_true, Bool.not_eq_true'] at h
    exact h.1
  refine ⟨?_, fun hk => ?_, ?_, ?_⟩
  · rintro rfl
    exact hglues
  · rw [glues_of_isWordClass hk] at hglues
    exact hglues
  · rintro rfl c hc
    exact (Bool.or_eq_false_iff.mp (hglues c hc)).1
  · rintro rfl c hc
    simpa [glues] using hglues c hc

/-! ### The tokens of a text -/

/-- **Every token belongs to its class, as far as it goes.**  The tokens of a text make up the part of it
that is scanned.  The text of each is one of its class; what comes behind it does not go on like a token of
the class; and no longer piece of the text that starts where the token starts is a token of any class.  No
white space follows white space. -/
theorem inClass_of_tokenize (sql : String) (ts : List Token) (h : tokenize sql = .ok ts) :
    spell ts = scanned sql ∧
    ∀ before t after, ts = before ++ t :: after →
      InClass t.lexClass t.text.toList ∧ Delimited t.lexClass (spell after) ∧
      (∀ k x y, spell after = x ++ y → InClass k (t.text.toList ++ x) → x = []) ∧
      (t.lexClass = .whitespace → ∀ u ∈ after.head?, u.lexClass ≠ .whitespace) := by
  refine ⟨spell_of_tokenize h, ?_⟩
  rintro before t after rfl
  have hlexed := (lexed_of_tokenize h).1.of_append_right
  cases hlexed with
  | cons hshape hends hafter =>
    have hdelimited := delimited_of_endsBefore hends
    refine ⟨(inClass_iff_shape _ _).mpr hshape, hdelimited, fun k x y hxy hlonger => ?_,
      fun hspace u hu hclass => ?_⟩
    · rw [hxy] at hends
      exact eq_nil_of_endsBefore hshape hends ((inClass_iff_shape _ _).mp hlonger)
    · obtain ⟨us, rfl⟩ := List.head?_eq_some_iff.mp hu
      have hu' := shape_of_lexed hafter u (by simp)
      obtain ⟨c, w, hw⟩ := List.exists_cons_of_ne_nil hu'.ne_nil
      have hnot : Text.isSpace c = false := hdelimited.space hspace c (by simp [hw])
      rw [hclass] at hu'
      rw [hu'.isSpace_of_mem c (by simp [hw])] at hnot
      cases hnot

theorem inClass_of_tokenize_mixed :
    ∃ ts, tokenize "n$ 1.5e-3.2'it\\'s'''\"a\"<>/**/*:p$?-- c\n\t!\x00'" = .ok ts ∧
      ts.map (·.lexClass) =
        [.identifier, .whitespace, .number, .number, .string, .quotedIdentifier, .notEqual, .blockComment,
          .star, .placeholder, .placeholder, .lineComment, .whitespace, .other] ∧
      spell ts = scanned "n$ 1.5e-3.2'it\\'s'''\"a\"<>/**/*:p$?-- c\n\t!\x00'" ∧
      ∀ before t after, ts = before ++ t :: after →
        InClass t.lexClass t.text.toList ∧ Delimited t.lexClass (spell after) ∧
        (∀ k x y, spell after = x ++ y → InClass k (t.text.toList ++ x) → x = []) ∧
        (t.lexClass = .whitespace → ∀ u ∈ after.head?, u.lexClass ≠ .whitespace) := by
  have hclasses : (tokenize "n$ 1.5e-3.2'it\\'s'''\"a\"<>/**/*:p$?-- c\n\t!\x00'").toOption.map
      (·.map (·.lexClass)) =
        some [.identifier, .whitespace, .number, .number, .string, .quotedIdentifier, .notEqual, .blockComment,
            .star, .placeholder, .placeholder, .lineComment, .whitespace, .other] := by
    decide +kernel
  cases htokens : tokenize "n$ 1.5e-3.2'it\\'s'''\"a\"<>/**/*:p$?-- c\n\t!\x00'" with
  | error e =>
    rw [htokens] at hclasses
    cases hclasses
  | ok ts =>
    rw [htokens] at hclasses
    exact ⟨ts, rfl, Option.some.inj hclasses, inClass_of_tokenize _ ts htokens⟩

end SqlOutline.Scan
