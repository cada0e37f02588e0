import SqlOutline.Proofs.Scan.Numeral

/-!
# Token boundaries

The scanner looks at what follows a token to decide where the token ends.  This file names everything it
looks for, so that a token keeps its class and its length wherever the text after it is harmless.

* `glues` : the characters that would extend a token or turn it into another one;
* `endsBefore` : a token ends before a text, which only for whole numbers asks for more than the first
  character of that text;
* `lexeme_append_iff` : a slice is the first token of a text exactly when it is a token when scanned alone
  and ends before the rest.
-/

namespace SqlOutline.Scan

/-! ### Quoted tokens and comments -/

theorem quotedLength_pos {d : Char} {cs : List Char} {n : Nat} (h : quotedLength d cs = some n) :
    0 < n := by
  fun_induction quotedLength d cs generalizing n with
  | case1 => cases h
  | case2 => cases h; omega
  | case3 => cases h
  | case4 | case5 | case7 =>
    obtain ⟨m, _, rfl⟩ := Option.map_eq_some_iff.mp h
    omega
  | case6 => cases h; omega

/-- A quoted token ends at its closing delimiter unless the delimiter is doubled. -/
theorem quotedLength_append_iff {d : Char} (hd : d ≠ '\\') (s r : List Char) :
    quotedLength d (s ++ r) = some s.length ↔
      quotedLength d s = some s.length ∧ startsWith (· == d) r = false := by
  fun_induction quotedLength d s with
  | case1 =>
    have hpos : quotedLength d r ≠ some 0 := fun h => absurd (quotedLength_pos h) (by omega)
    simpa using hpos
  | case2 =>
    cases r with
    | nil => simp [quotedLength]
    | cons x r => by_cases hx : x = d <;> simp [quotedLength, hd, hx]
  | case3 c hc =>
    have hpos : ∀ x r', quotedLength d (x :: r') ≠ some 0 :=
      fun x r' h => absurd (quotedLength_pos h) (by omega)
    cases r with
    | nil => simp [quotedLength, hc]
    | cons x r =>
      have hx := hpos x r
      by_cases hb : c = '\\' <;> simp [quotedLength, hb, hc, hx]
  | case4 | case5 | case7 => simp_all [quotedLength]
  | case6 => simp_all [quotedLength]

theorem commentLength_ge {cs : List Char} {n : Nat} (h : commentLength cs = some n) : 2 ≤ n := by
  fun_induction commentLength cs generalizing n with
  | case1 => cases h
  | case2 => cases h
  | case3 => cases h; omega
  | case4 _ _ _ _ ih =>
    obtain ⟨m, hm, rfl⟩ := Option.map_eq_some_iff.mp h
    have := ih hm
    omega

/-- A block comment ends at its closing mark, whatever follows. -/
theorem commentLength_append_iff (s r : List Char) :
    commentLength (s ++ r) = some s.length ↔ commentLength s = some s.length := by
  fun_induction commentLength s with
  | case1 =>
    have hge : commentLength r ≠ some 0 := fun h => absurd (commentLength_ge h) (by omega)
    simpa using hge
  | case2 c =>
    have hge : commentLength ([c] ++ r) ≠ some 1 :=
      fun h => absurd (commentLength_ge h) (by omega)
    simpa using hge
  | case3 c d rest h => simp [commentLength, h]
  | case4 c d rest h ih =>
    rw [List.cons_append, List.cons_append, commentLength, if_neg h]
    simpa using ih

/-! ### What a token must not be followed by -/

/-- Whether a character right after a token with the given class and text would become part of it, or turn
it into another token. -/
def glues (k : LexClass) (w : List Char) (c : Char) : Bool :=
  match k with
  | .whitespace => Text.isSpace c
  | .identifier | .reservedWord | .boolean | .keyword _ => isWordPart c
  | .string | .quotedIdentifier => w.head? == some c
  | .number => c.isDigit || (isExponentMark c && !w.any isExponentMark)
  | .placeholder => w != ['?'] && isWordPart c
  | .lineComment => c != '\n'
  | .dot => c.isDigit
  | .less => c == '=' || c == '>'
  | .greater => c == '='
  | .minus => c == '-'
  | .slash => c == '*'
  | .other =>
    match w with
    | ['!'] => c == '='
    | ['|'] => c == '|'
    | [':'] => c == ':' || isWordStart c
    | ['$'] => c.isDigit || isWordStart c
    | _ => false
  | _ => false

/-- Whether a token with the given class and text ends before the given rest.  A whole number also looks
behind a point. -/
def endsBefore (k : LexClass) (w rest : List Char) : Bool :=
  !startsWith (glues k w) rest &&
    (k != .number || !w.all Char.isDigit || fractionLength rest == 0)

theorem endsBefore_nil (k : LexClass) (w : List Char) : endsBefore k w [] = true := by
  simp [endsBefore, fractionLength]

theorem endsBefore_of_ne_number {k : LexClass} (hk : k ≠ .number) (w rest : List Char) :
    endsBefore k w rest = !startsWith (glues k w) rest := by
  simp [endsBefore, hk]

/-! ### The first token of a text -/

theorem isExponentMark_not_digit {c : Char} (h : isExponentMark c = true) : c.isDigit = false := by
  have h' : c = 'e' ∨ c = 'E' := by simpa [isExponentMark] using h
  rcases h' with rfl | rfl <;> rfl

theorem isDigit_not_exponentMark {c : Char} (h : c.isDigit = true) : isExponentMark c = false := by
  cases hm : isExponentMark c with
  | false => rfl
  | true => rw [isExponentMark_not_digit hm] at h; cases h

theorem any_isExponentMark_of_digits {ds : List Char} (h : ∀ c ∈ ds, c.isDigit = true) :
    ds.any isExponentMark = false := by
  rw [List.any_eq_false]
  intro c hc
  simp [isDigit_not_exponentMark (h c hc)]

theorem IsFraction.any_isExponentMark {f : List Char} (hf : IsFraction f) :
    f.any isExponentMark = false := by
  cases hf with
  | absent => rfl
  | present _ hds =>
    rw [List.any_cons, any_isExponentMark_of_digits hds]
    rfl

/-- The parts of a numeral can be read off its characters: it is whole when all of them are digits, and it
has an exponent when one of them is a mark. -/
theorem Numeral.endsBefore_iff {d f e : List Char} (h : Numeral d f e) (r : List Char) :
    endsBefore .number (d ++ f ++ e) r = true ↔ NumeralEnd f e r := by
  have hdigits : d.all Char.isDigit = true := List.all_eq_true.mpr h.whole
  have hmarks : (d ++ f ++ e).any isExponentMark = !e.isEmpty := by
    rw [List.any_append, List.any_append, any_isExponentMark_of_digits h.whole,
      h.fraction.any_isExponentMark]
    cases h.exponent with
    | absent => rfl
    | present hm _ _ _ => simp [hm]
  have hwhole : (d ++ f ++ e).all Char.isDigit = (f.isEmpty && e.isEmpty) := by
    rw [List.all_append, List.all_append, hdigits, Bool.true_and]
    cases h.fraction with
    | absent =>
      cases h.exponent with
      | absent => rfl
      | present hm _ _ _ => simp [isExponentMark_not_digit hm]
    | present _ _ => rfl
  have hstart : startsWith (glues .number (d ++ f ++ e)) r = false ↔
      startsWith Char.isDigit r = false ∧ (e = [] → startsWith isExponentMark r = false) := by
    cases r with
    | nil => simp
    | cons c r =>
      simp only [startsWith_cons, glues, hmarks]
      cases e <;> simp
  constructor
  · intro hb
    simp only [endsBefore, Bool.and_eq_true, Bool.not_eq_true', hstart, hwhole] at hb
    refine ⟨hb.1.1, hb.1.2, ?_⟩
    rintro rfl rfl
    simpa using hb.2
  · intro hend
    simp only [endsBefore, Bool.and_eq_true, Bool.not_eq_true', hstart, hwhole]
    refine ⟨⟨hend.digit, hend.mark⟩, ?_⟩
    cases hf : f with
    | nil =>
      cases he : e with
      | nil => simp [hend.point hf he]
      | cons => simp
    | cons => simp

theorem numberLength_append_iff_endsBefore (w r : List Char) :
    numberLength (w ++ r) = some w.length ↔
      numberLength w = some w.length ∧ endsBefore .number w r = true := by
  have halone := numberLength_append_iff w []
  rw [List.append_nil] at halone
  rw [numberLength_append_iff, halone]
  constructor
  · rintro ⟨d, f, e, rfl, hnum, hend⟩
    exact ⟨⟨d, f, e, rfl, hnum, .nil f e⟩, (hnum.endsBefore_iff r).mpr hend⟩
  · rintro ⟨⟨d, f, e, rfl, hnum, _⟩, hb⟩
    exact ⟨d, f, e, rfl, hnum, (hnum.endsBefore_iff r).mp hb⟩

/-! ### The first token of a text -/

theorem isWordPart_of_isWordStart {c : Char} (h : isWordStart c = true) : isWordPart c = true := by
  simp only [isWordStart, Bool.or_eq_true] at h
  simp only [isWordPart, Bool.or_eq_true]
  rcases h with h | h
  · exact .inl (.inl (.inl h))
  · exact .inl (.inr h)

theorem isWordPart_of_isDigit {c : Char} (h : c.isDigit = true) : isWordPart c = true := by
  have hlt : c.toNat < 128 := by
    simp only [Char.isDigit, Bool.and_eq_true, decide_eq_true_eq] at h
    have hle : c.toNat ≤ 57 := UInt32.le_iff_toNat_le.mp h.2
    omega
  simp [isWordPart, Text.isDecimalDigit_of_lt hlt, h]

theorem run_append_iff (p : Char → Bool) (s r : List Char) :
    run p (s ++ r) = s.length ↔ run p s = s.length ∧ startsWith p r = false := by
  have halone := run_append_eq_length_iff p s []
  rw [List.append_nil] at halone
  rw [run_append_eq_length_iff, halone]
  simp

theorem run_ne_zero {p q : Char → Bool} (hpq : ∀ c, p c = true → q c = true) {cs : List Char}
    (h : startsWith p cs = true) : run q cs ≠ 0 := by
  cases cs with
  | nil => cases h
  | cons c cs => simp [run_cons, hpq c h]

theorem single_eq_ok_iff {k₀ k : LexClass} {n : Nat} :
    single k₀ = .ok (k, n) ↔ k₀ = k ∧ n = 0 := by
  simp [single, eq_comm]

theorem quoted_eq_ok_iff {d : Char} {k₀ k : LexClass} {fault : ScanFault} {cs : List Char} {n : Nat} :
    quoted d k₀ fault cs = .ok (k, n) ↔ k₀ = k ∧ quotedLength d cs = some n := by
  unfold quoted
  cases quotedLength d cs <;> simp

/-- A literal that starts with a digit, or with a point before a digit, is not empty. -/
theorem numberLength_pos {c : Char} {cs : List Char} {n : Nat}
    (hc : c.isDigit = true ∨ c = '.' ∧ startsWith Char.isDigit cs = true)
    (h : numberLength (c :: cs) = some n) : 0 < n := by
  obtain ⟨d, f, e, r, hcs, rfl, hnum, hend⟩ := exists_numeral h
  rcases Nat.eq_zero_or_pos (d ++ f ++ e).length with hz | hpos
  · have hnil : d = [] ∧ f = [] ∧ e = [] := by simpa using hz
    obtain ⟨rfl, rfl, rfl⟩ := hnil
    have hr : c :: cs = r := by simpa using hcs
    subst hr
    rcases hc with hd | ⟨rfl, hd⟩
    · have := hend.digit
      rw [startsWith_cons, hd] at this
      cases this
    · have := hend.point rfl rfl
      rw [fractionLength_point, if_pos hd] at this
      omega
  · exact hpos

theorem number_eq_ok_iff {c : Char} {cs : List Char} {k : LexClass} {n : Nat}
    (hc : c.isDigit = true ∨ c = '.' ∧ startsWith Char.isDigit cs = true) :
    number c cs = .ok (k, n) ↔ .number = k ∧ numberLength (c :: cs) = some (n + 1) := by
  unfold number
  cases hn : numberLength (c :: cs) with
  | none => simp
  | some m =>
    have hpos := numberLength_pos hc hn
    simp only [Except.ok.injEq, Prod.mk.injEq, Option.some.injEq]
    constructor
    · rintro ⟨rfl, rfl⟩
      exact ⟨rfl, by omega⟩
    · rintro ⟨rfl, rfl⟩
      exact ⟨rfl, by omega⟩

theorem number_append_iff {c : Char} {s : List Char} {k : LexClass}
    (hc : c.isDigit = true ∨ c = '.' ∧ startsWith Char.isDigit s = true) (r : List Char) :
    number c (s ++ r) = .ok (k, s.length) ↔
      number c s = .ok (k, s.length) ∧ endsBefore k (c :: s) r = true := by
  have hc' : c.isDigit = true ∨ c = '.' ∧ startsWith Char.isDigit (s ++ r) = true := by
    rcases hc with hd | ⟨hp, hd⟩
    · exact .inl hd
    · cases s with
      | nil => cases hd
      | cons x s => exact .inr ⟨hp, hd⟩
  rw [number_eq_ok_iff hc, number_eq_ok_iff hc']
  have hlen := numberLength_append_iff_endsBefore (c :: s) r
  rw [List.cons_append, List.length_cons] at hlen
  rw [hlen]
  constructor
  · rintro ⟨rfl, h⟩
    exact ⟨⟨rfl, h.1⟩, h.2⟩
  · rintro ⟨⟨rfl, h⟩, hb⟩
    exact ⟨rfl, h, hb⟩

/-! ### The classes of words -/

/-- The classes of words. -/
def isWordClass : LexClass → Bool
  | .identifier | .reservedWord | .boolean | .keyword _ => true
  | _ => false

theorem isWordClass_ofWord (word : String) : isWordClass (.ofWord word) = true := by
  unfold LexClass.ofWord
  dsimp only
  split
  · rfl
  · split
    · rfl
    · split <;> rfl

theorem ofWord_ne {k : LexClass} (hk : isWordClass k = false) (word : String) :
    LexClass.ofWord word ≠ k := by
  intro h
  rw [← h, isWordClass_ofWord] at hk
  cases hk

theorem glues_of_isWordClass {k : LexClass} (hk : isWordClass k = true) (w : List Char) :
    glues k w = isWordPart := by
  cases k <;> first | rfl | cases hk

/-- A slice of a text keeps its class and its length when it is scanned alone, and the rest of the text
does not belong to it; `scan` is what the scanner does after the character `c`. -/
def Separates (c : Char) (scan : List Char → Lexeme) (s r : List Char) (k : LexClass) : Prop :=
  scan (s ++ r) = .ok (k, s.length) ↔ scan s = .ok (k, s.length) ∧ endsBefore k (c :: s) r = true

/-- A token of one character that a character of the class `p` would extend. -/
theorem separates_single {c : Char} {k₀ : LexClass} (hk : k₀ ≠ .number)
    {p : Char → Bool} (hglue : ∀ x, glues k₀ [c] x = p x) {s r : List Char}
    (hr : s = [] → startsWith p r = false) (k : LexClass) :
    Separates c (fun _ => single k₀) s r k := by
  unfold Separates
  rw [single_eq_ok_iff]
  constructor
  · rintro ⟨rfl, hs⟩
    obtain rfl : s = [] := List.length_eq_zero_iff.mp hs
    refine ⟨⟨rfl, rfl⟩, ?_⟩
    rw [endsBefore_of_ne_number hk, show glues k₀ [c] = p from funext hglue, hr rfl]
    rfl
  · exact fun h => h.1

/-- A token of one character on which nothing depends. -/
theorem separates_plain {c : Char} {k₀ : LexClass} (hk : k₀ ≠ .number)
    (hglue : ∀ x, glues k₀ [c] x = false) (s r : List Char) (k : LexClass) :
    Separates c (fun _ => single k₀) s r k := by
  refine separates_single hk hglue (fun _ => ?_) k
  cases r <;> rfl

/-- A branch on the character after `c`.  Scanned alone, `c` takes the second branch, so the first one must
take more than `c`, and the second one must not end before a character of the class. -/
theorem separates_ite {c : Char} {p : Char → Bool} {yes no : List Char → Lexeme} {s r : List Char}
    {k : LexClass}
    (hyes : startsWith p s = true → Separates c yes s r k)
    (hno : startsWith p s = false → (s = [] → startsWith p r = false) → Separates c no s r k)
    (hmore : startsWith p r = true → yes r ≠ .ok (k, 0))
    (hstop : startsWith p r = true → no [] = .ok (k, 0) → endsBefore k [c] r = false) :
    Separates c (fun cs => if startsWith p cs then yes cs else no cs) s r k := by
  cases s with
  | nil =>
    cases hr : startsWith p r with
    | false => simpa [Separates, hr] using hno rfl (fun _ => hr)
    | true =>
      have h1 := hmore hr
      have h2 := hstop hr
      simp only [Separates, List.nil_append, List.length_nil, hr, if_true, startsWith_nil,
        Bool.false_eq_true, if_false]
      constructor
      · exact fun h => absurd h h1
      · rintro ⟨h, hb⟩
        rw [h2 h] at hb
        cases hb
  | cons x s =>
    cases hx : p x with
    | false => simpa [Separates, hx] using hno hx (fun h => by cases h)
    | true => simpa [Separates, hx] using hyes hx

/-- A run of a class after the first character. -/
theorem separates_run {c : Char} {q : Char → Bool} {k₀ : LexClass} (hk : k₀ ≠ .number)
    {s : List Char} (hglue : ∀ x, glues k₀ (c :: s) x = q x) (r : List Char) (k : LexClass) :
    Separates c (fun cs => .ok (k₀, run q cs)) s r k := by
  simp only [Separates, Except.ok.injEq, Prod.mk.injEq, run_append_iff]
  constructor
  · rintro ⟨rfl, h, hr⟩
    refine ⟨⟨rfl, h⟩, ?_⟩
    rw [endsBefore_of_ne_number hk, show glues k₀ (c :: s) = q from funext hglue, hr]
    rfl
  · rintro ⟨⟨rfl, h⟩, hb⟩
    rw [endsBefore_of_ne_number hk, show glues k₀ (c :: s) = q from funext hglue] at hb
    exact ⟨rfl, h, by simpa using hb⟩

theorem separates_quoted {d : Char} (hd : d ≠ '\\') {k₀ : LexClass} (hk : k₀ ≠ .number)
    (hglue : ∀ s x, glues k₀ (d :: s) x = (x == d)) (fault : ScanFault) (s r : List Char)
    (k : LexClass) : Separates d (quoted d k₀ fault) s r k := by
  simp only [Separates, quoted_eq_ok_iff, quotedLength_append_iff hd]
  have hg : glues k₀ (d :: s) = fun x => x == d := funext (hglue s)
  constructor
  · rintro ⟨rfl, h, hr⟩
    refine ⟨⟨rfl, h⟩, ?_⟩
    rw [endsBefore_of_ne_number hk, hg, hr]
    rfl
  · rintro ⟨⟨rfl, h⟩, hb⟩
    rw [endsBefore_of_ne_number hk, hg] at hb
    exact ⟨rfl, h, by simpa using hb⟩

/-- A token of exactly two characters. -/
theorem separates_double {c : Char} {k₀ : LexClass} (hk : k₀ ≠ .number)
    (hglue : ∀ s x, glues k₀ (c :: s) x = false) (s r : List Char) (k : LexClass) :
    Separates c (fun _ => .ok (k₀, 1)) s r k := by
  simp only [Separates, Except.ok.injEq, Prod.mk.injEq]
  constructor
  · rintro ⟨rfl, h⟩
    refine ⟨⟨rfl, h⟩, ?_⟩
    rw [endsBefore_of_ne_number hk, show glues k₀ (c :: s) = fun _ => false from funext (hglue s)]
    cases r <;> rfl
  · exact fun h => h.1

theorem endsBefore_eq_false {k : LexClass} {w r : List Char} {p : Char → Bool}
    (hp : ∀ x, p x = true → glues k w x = true) (hr : startsWith p r = true) :
    endsBefore k w r = false := by
  cases r with
  | nil => cases hr
  | cons x r => simp [endsBefore, hp x hr]

theorem separates_pairOr {c second : Char} {both alone : LexClass} (hb : both ≠ .number)
    (ha : alone ≠ .number) (hboth : ∀ s x, glues both (c :: s) x = false)
    (halone : ∀ x, (x == second) = true → glues alone [c] x = true) {s r : List Char}
    (hr : s = [] → startsWith (· == second) r = false → startsWith (glues alone [c]) r = false)
    (k : LexClass) : Separates c (pairOr second both alone) s r k := by
  refine separates_ite (fun _ => separates_double hb hboth s r k) (fun _ hs => ?_) (fun _ => ?_) ?_
  · refine separates_single ha (fun _ => rfl) (fun h => hr h (hs h)) k
  · simp
  · intro hsec h
    obtain ⟨rfl, -⟩ : alone = k ∧ 0 = 0 := by simpa [pairOr] using h
    exact endsBefore_eq_false halone hsec

theorem Numeral.append_ne_point {d f e : List Char} (h : Numeral d f e) : d ++ f ++ e ≠ ['.'] := by
  intro heq
  cases d with
  | cons x d =>
    have hx : x = '.' := by simpa using (List.cons.inj heq).1
    exact absurd (h.whole x (by simp)) (by rw [hx]; decide)
  | nil =>
    cases h.fraction with
    | present hne _ =>
      have : _ ++ e = [] := (List.cons.inj heq).2
      exact hne (List.append_eq_nil_iff.mp this).1
    | absent =>
      cases h.exponent with
      | absent => cases heq
      | present hm _ _ _ =>
        rw [(List.cons.inj heq).1] at hm
        exact absurd hm (by decide)

theorem separates_dot (s r : List Char) (k : LexClass) :
    Separates '.' (fun cs => if startsWith Char.isDigit cs then number '.' cs else single .dot)
      s r k := by
  refine separates_ite (fun hs => number_append_iff (.inr ⟨rfl, hs⟩) r)
    (fun _ hr => separates_single (by decide) (fun _ => rfl) hr k)
    (fun hr h => ?_) (fun hr h => ?_)
  · obtain ⟨-, hn⟩ := (number_eq_ok_iff (.inr ⟨rfl, hr⟩)).mp h
    obtain ⟨d, f, e, heq, hnum, -⟩ := (numberLength_append_iff ['.'] r).mp hn
    exact hnum.append_ne_point heq.symm
  · obtain ⟨rfl, -⟩ := single_eq_ok_iff.mp h
    exact endsBefore_eq_false (fun _ hx => hx) hr

theorem separates_dash (s r : List Char) (k : LexClass) :
    Separates '-' (fun cs => if startsWith (· == '-') cs then .ok (.lineComment, run (· != '\n') cs)
      else single .minus) s r k := by
  refine separates_ite (fun _ => separates_run (by decide) (fun _ => rfl) r k)
    (fun _ hr => separates_single (by decide) (fun _ => rfl) hr k)
    (fun hr h => ?_) (fun hr h => ?_)
  · have hne : run (· != '\n') r ≠ 0 := by
      refine run_ne_zero (fun x hx => ?_) hr
      rw [beq_iff_eq.mp hx]
      decide
    simp only [Except.ok.injEq, Prod.mk.injEq] at h
    exact hne h.2
  · obtain ⟨rfl, -⟩ := single_eq_ok_iff.mp h
    exact endsBefore_eq_false (fun _ hx => hx) hr

/-- A block comment, from its star on. -/
def blockCommentFrom (cs : List Char) : Lexeme :=
  match commentLength (cs.drop 1) with
  | some n => .ok (.blockComment, n + 1)
  | none => .error .unterminatedComment

theorem blockCommentFrom_eq_ok_iff {cs : List Char} {k : LexClass} {n : Nat} :
    blockCommentFrom cs = .ok (k, n) ↔
      .blockComment = k ∧ ∃ m, commentLength (cs.drop 1) = some m ∧ m + 1 = n := by
  unfold blockCommentFrom
  cases commentLength (cs.drop 1) <;> simp

theorem lexeme_slash (cs : List Char) :
    lexeme '/' cs = if startsWith (· == '*') cs then blockCommentFrom cs else single .slash := by
  cases cs with
  | nil => rfl
  | cons x cs =>
    by_cases hx : x = '*'
    · subst hx
      rfl
    · have hstar : startsWith (· == '*') (x :: cs) = false := by simpa using hx
      rw [hstar]
      show lexeme '/' (x :: cs) = single .slash
      -- only the branch of the slash is left, not the equations of all branches
      conv =>
        lhs
        whnf
      simp [hx]

theorem separates_slash (s r : List Char) (k : LexClass) :
    Separates '/' (fun cs => if startsWith (· == '*') cs then blockCommentFrom cs else single .slash)
      s r k := by
  refine separates_ite (fun hs => ?_)
    (fun _ hr => separates_single (by decide) (fun _ => rfl) hr k)
    (fun _ h => ?_) (fun hr h => ?_)
  · cases s with
    | nil => cases hs
    | cons x s =>
      have hlen : ∀ cs : List Char, (∃ m, commentLength cs = some m ∧ m + 1 = (x :: s).length) ↔
          commentLength cs = some s.length := by
        intro cs
        simp
      simp only [Separates, blockCommentFrom_eq_ok_iff, List.cons_append, List.drop_succ_cons,
        List.drop_zero, hlen, commentLength_append_iff]
      constructor
      · rintro ⟨rfl, h⟩
        refine ⟨⟨rfl, h⟩, ?_⟩
        cases r <;> rfl
      · exact fun h => h.1
  · obtain ⟨-, m, -, hm⟩ := blockCommentFrom_eq_ok_iff.mp h
    omega
  · obtain ⟨rfl, -⟩ := single_eq_ok_iff.mp h
    exact endsBefore_eq_false (fun _ hx => hx) hr

theorem separates_less (s r : List Char) (k : LexClass) :
    Separates '<' (fun cs => if startsWith (· == '=') cs then .ok (.lessEqual, 1)
      else pairOr '>' .notEqual .less cs) s r k := by
  refine separates_ite (fun _ => separates_double (by decide) (fun _ _ => rfl) s r k)
    (fun _ hr => separates_pairOr (by decide) (by decide) (fun _ _ => rfl) ?_ ?_ k)
    (fun _ => by simp) (fun hr h => ?_)
  · intro x hx
    simp [glues, hx]
  · intro hs hgt
    have heq := hr hs
    cases r with
    | nil => rfl
    | cons x r => simpa [glues] using And.intro heq hgt
  · obtain ⟨rfl, -⟩ : LexClass.less = k ∧ 0 = 0 := by simpa [pairOr] using h
    refine endsBefore_eq_false (fun x hx => ?_) hr
    simp [glues, hx]

theorem separates_colon (s r : List Char) (k : LexClass) :
    Separates ':' (fun cs => if startsWith isWordStart cs then .ok (.placeholder, run isWordPart cs)
      else pairOr ':' .doubleColon .other cs) s r k := by
  refine separates_ite (fun _ => separates_run (by decide) (fun _ => by simp [glues]) r k)
    (fun _ hr => separates_pairOr (by decide) (by decide) (fun _ _ => rfl) ?_ ?_ k)
    (fun hr h => ?_) (fun hr h => ?_)
  · intro x hx
    simp [glues, hx]
  · intro hs hcolon
    have hword := hr hs
    cases r with
    | nil => rfl
    | cons x r => simpa [glues] using And.intro hcolon hword
  · have hne := run_ne_zero (fun _ => isWordPart_of_isWordStart) hr
    simp only [Except.ok.injEq, Prod.mk.injEq] at h
    exact hne h.2
  · obtain ⟨rfl, -⟩ : LexClass.other = k ∧ 0 = 0 := by simpa [pairOr] using h
    refine endsBefore_eq_false (fun x hx => ?_) hr
    simp [glues, hx]

theorem separates_dollar (s r : List Char) (k : LexClass) :
    Separates '$' (fun cs => if startsWith (fun d => d.isDigit || isWordStart d) cs
      then .ok (.placeholder, run isWordPart cs) else single .other) s r k := by
  refine separates_ite (fun _ => separates_run (by decide) (fun _ => by simp [glues]) r k)
    (fun _ hr => separates_single (by decide) (fun _ => rfl) hr k)
    (fun hr h => ?_) (fun hr h => ?_)
  · have hne : run isWordPart r ≠ 0 := by
      refine run_ne_zero (fun x hx => ?_) hr
      rcases Bool.or_eq_true_iff.mp hx with hx | hx
      · exact isWordPart_of_isDigit hx
      · exact isWordPart_of_isWordStart hx
    simp only [Except.ok.injEq, Prod.mk.injEq] at h
    exact hne h.2
  · obtain ⟨rfl, -⟩ := single_eq_ok_iff.mp h
    exact endsBefore_eq_false (fun _ hx => hx) hr

theorem separates_word (c : Char) (s r : List Char) (k : LexClass) :
    Separates c (fun cs => .ok (.ofWord (String.ofList (c :: cs.take (run isWordPart cs))),
      run isWordPart cs)) s r k := by
  have hends : ∀ word, endsBefore (.ofWord word) (c :: s) r = !startsWith isWordPart r := by
    intro word
    rw [endsBefore_of_ne_number (ofWord_ne rfl word), glues_of_isWordClass (isWordClass_ofWord word)]
  simp only [Separates, Except.ok.injEq, Prod.mk.injEq]
  constructor
  · rintro ⟨hk, h⟩
    obtain ⟨hs, hr⟩ := (run_append_iff _ _ _).mp h
    rw [h, List.take_left] at hk
    rw [hs, List.take_length, ← hk, hends, hr]
    exact ⟨⟨rfl, rfl⟩, rfl⟩
  · rintro ⟨⟨hk, hs⟩, hb⟩
    rw [hs, List.take_length] at hk
    rw [← hk, hends] at hb
    have h : run isWordPart (s ++ r) = s.length :=
      (run_append_iff _ _ _).mpr ⟨hs, by simpa using hb⟩
    rw [h, List.take_left]
    exact ⟨hk, rfl⟩

/-- **Boundary theorem.**  A slice is the first token of a text exactly when it is a token when scanned
alone and ends before the rest of the text. -/
theorem lexeme_append_iff (c : Char) (s r : List Char) (k : LexClass) :
    lexeme c (s ++ r) = .ok (k, s.length) ↔
      lexeme c s = .ok (k, s.length) ∧ endsBefore k (c :: s) r = true := by
  show Separates c (lexeme c) s r k
  unfold lexeme
  split
  case h_1 | h_2 | h_3 | h_4 | h_11 | h_17 | h_19 | h_20 | h_21 =>
    exact separates_plain (by decide) (fun _ => rfl) s r k
  case h_5 => exact separates_dot s r k
  case h_6 | h_7 | h_8 =>
    exact separates_quoted (by decide) (by decide) (fun _ _ => BEq.comm) _ s r k
  case h_9 => exact separates_dash s r k
  case h_10 =>
    show Separates '/' (lexeme '/') s r k
    rw [show lexeme '/' = _ from funext lexeme_slash]
    exact separates_slash s r k
  case h_12 => exact separates_less s r k
  case h_13 | h_14 | h_15 =>
    exact separates_pairOr (by decide) (by decide) (fun _ _ => rfl) (fun _ h => h) (fun _ h => h) k
  case h_16 => exact separates_colon s r k
  case h_18 => exact separates_dollar s r k
  case h_22 _ _ _ _ _ _ _ _ _ _ _ _ _ hbang hbar hcolon _ hdollar _ _ _ =>
    by_cases hspace : Text.isSpace c = true
    · simp only [hspace, if_true]
      exact separates_run (by decide) (fun _ => rfl) r k
    · by_cases hword : isWordStart c = true
      · simp only [hspace, hword, if_true]
        exact separates_word c s r k
      · by_cases hdigit : c.isDigit = true
        · simp only [hspace, hword, hdigit, if_true]
          exact number_append_iff (.inl hdigit) r
        · simp only [hspace, hword, hdigit]
          refine separates_plain (by decide) (fun x => ?_) s r k
          unfold glues
          dsimp only
          split
          · rename_i heq
            exact absurd (List.cons.inj heq).1 hbang
          · rename_i heq
            exact absurd (List.cons.inj heq).1 hbar
          · rename_i heq
            exact absurd (List.cons.inj heq).1 hcolon
          · rename_i heq
            exact absurd (List.cons.inj heq).1 hdollar
          · rfl

end SqlOutline.Scan
