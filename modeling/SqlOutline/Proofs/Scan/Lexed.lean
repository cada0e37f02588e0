import Mathlib.Data.List.TakeWhile
import SqlOutline.Proofs.Scan.Shape

/-!
# Lists of tokens that scan as they are

A list of tokens may be spelled out and scanned again.  This file says when that gives the list back.

* `Token.spell`, `Token.placed` : the characters of a list of tokens, and the same tokens placed one after
  the other;
* `Lexed` : every token has the shape of its class and ends before the tokens after it;
* `endsBefore_spell_cons` : one token of lookahead decides where a token ends;
* `scanFrom_spell` : the scan of a spelled list is the list itself;
* `tokenize_eq_ok_iff` : the tokens of a text are the one list of this kind that spells the text;
* `tokenize_infix` : consecutive tokens are the tokens of the text that they spell.
-/

namespace SqlOutline

/-! ### Spelling and placing -/

namespace Token

/-- The characters of a list of tokens. -/
def spell (ts : List Token) : List Char := ts.flatMap (·.text.toList)

@[simp] theorem spell_nil : spell [] = [] := rfl

@[simp] theorem spell_cons (t : Token) (ts : List Token) :
    spell (t :: ts) = t.text.toList ++ spell ts := rfl

@[simp] theorem spell_append (ts us : List Token) : spell (ts ++ us) = spell ts ++ spell us := by
  simp [spell]

/-- The tokens placed one after the other from a position on. -/
def placed : Position → List Token → List Token
  | _, [] => []
  | p, t :: ts => { t with pos := p } :: placed (p.advance t.text.toList) ts

@[simp] theorem spell_placed (p : Position) (ts : List Token) : spell (placed p ts) = spell ts := by
  induction ts generalizing p with
  | nil => rfl
  | cons t ts ih => simp [placed, ih]

/-- Placing changes positions only. -/
theorem map_placed {α : Type} (f : Token → α) (hf : ∀ t p, f { t with pos := p } = f t)
    (p : Position) (ts : List Token) : (placed p ts).map f = ts.map f := by
  induction ts generalizing p with
  | nil => rfl
  | cons t ts ih => simp [placed, ih, hf]

end Token

namespace Scan

open Token

/-- Every token has the shape of its class and ends before the tokens after it. -/
inductive Lexed : List Token → Prop
  | nil : Lexed []
  | cons {t : Token} {ts : List Token} : Shape t.lexClass t.text.toList →
      endsBefore t.lexClass t.text.toList (spell ts) = true → Lexed ts → Lexed (t :: ts)

theorem Lexed.placed {ts : List Token} (h : Lexed ts) (p : Position) : Lexed (placed p ts) := by
  induction h generalizing p with
  | nil => exact .nil
  | cons hshape hends _ ih => exact .cons hshape (by simpa using hends) (ih _)

theorem shape_of_lexed {ts : List Token} (h : Lexed ts) : ∀ t ∈ ts, Shape t.lexClass t.text.toList := by
  induction h with
  | nil => simp
  | cons hshape _ _ ih => simpa using ⟨hshape, ih⟩

/-! ### One token of lookahead -/

/-- A number that starts with a point. -/
def startsWithPoint (t : Token) : Bool :=
  t.lexClass == .number && startsWith (· == '.') t.text.toList

/-- The text of a number that starts with a point is a fraction and an exponent. -/
theorem numeral_of_startsWithPoint {n : Token} (hshape : Shape n.lexClass n.text.toList)
    (h : startsWithPoint n = true) :
    n.lexClass = .number ∧ ∃ f e, n.text.toList = f ++ e ∧ Numeral [] f e ∧ f ≠ [] := by
  have h' : n.lexClass = .number ∧ startsWith (· == '.') n.text.toList = true := by
    simpa [startsWithPoint] using h
  rw [h'.1] at hshape
  obtain ⟨d, f, e, heq, hnum, hne⟩ := hshape.numeral_of_number
  cases d with
  | nil => exact ⟨h'.1, f, e, heq, hnum, by simpa using hne⟩
  | cons c d =>
    have hstart := h'.2
    rw [heq] at hstart
    have hc : c = '.' := by simpa using hstart
    have hdigit := hnum.whole c (by simp)
    rw [hc] at hdigit
    cases hdigit

/-- A list of tokens starts with a fraction when its first token is a number that does. -/
theorem fractionLength_spell_cons {n : Token} {ts : List Token} (h : Lexed (n :: ts)) :
    fractionLength (spell (n :: ts)) = 0 ↔ startsWithPoint n = false := by
  cases h with
  | cons hn hends _ =>
    constructor
    · intro hzero
      cases hpoint : startsWithPoint n with
      | false => rfl
      | true =>
        obtain ⟨-, f, e, htext, hnum, hf⟩ := numeral_of_startsWithPoint hn hpoint
        rw [spell_cons, htext] at hzero
        cases hnum.fraction with
        | absent => exact absurd rfl hf
        | @present ds hne hds =>
          obtain ⟨d, ds, rfl⟩ := List.exists_cons_of_ne_nil hne
          have hd : d.isDigit = true := hds d (by simp)
          simp only [List.cons_append, fractionLength_point, startsWith_cons, hd, if_true] at hzero
          omega
    · intro hpoint
      obtain ⟨c, w, hw⟩ := List.exists_cons_of_ne_nil hn.ne_nil
      rw [hw] at hn hends
      rw [spell_cons, hw]
      by_cases hc : c = '.'
      · subst hc
        rcases hn.point_cases with ⟨hclass, rfl⟩ | ⟨hclass, -⟩
        · -- a lone point has no digit after it
          rw [endsBefore_of_ne_number (by simp [hclass]), hclass] at hends
          have hnot : (!startsWith Char.isDigit (spell ts)) = true := hends
          show fractionLength ('.' :: spell ts) = 0
          rw [fractionLength_point, if_neg (by simpa using hnot)]
        · simp [startsWithPoint, hclass, hw] at hpoint
      · exact fractionLength_of_not_point (by simpa using hc)

/-- Whether a token ends before a list of tokens can be seen from the first token of the list. -/
theorem endsBefore_spell_cons {n : Token} {ts : List Token} (h : Lexed (n :: ts)) (k : LexClass)
    (w : List Char) : endsBefore k w (spell (n :: ts)) = true ↔
      startsWith (glues k w) n.text.toList = false ∧
        (k = .number → w.all Char.isDigit = true → startsWithPoint n = false) := by
  have hstart : startsWith (glues k w) (spell (n :: ts)) = startsWith (glues k w) n.text.toList := by
    cases h with
    | cons hn _ _ =>
      obtain ⟨c, v, hv⟩ := List.exists_cons_of_ne_nil hn.ne_nil
      simp [hv]
  rw [← fractionLength_spell_cons h]
  unfold endsBefore
  rw [hstart]
  by_cases hk : k = .number
  · cases hall : w.all Char.isDigit <;> simp [hk]
  · simp [hk]

theorem Lexed.of_append_right {ts us : List Token} (h : Lexed (ts ++ us)) : Lexed us := by
  induction ts with
  | nil => exact h
  | cons t ts ih =>
    cases h with
    | cons _ _ hrest => exact ih hrest

theorem Lexed.of_append_left {ts us : List Token} (h : Lexed (ts ++ us)) : Lexed ts := by
  induction ts with
  | nil => exact .nil
  | cons t ts ih =>
    cases h with
    | cons hshape hends hrest =>
      have hts := ih hrest
      refine .cons hshape ?_ hts
      cases ts with
      | nil => exact endsBefore_nil _ _
      | cons n ts => exact (endsBefore_spell_cons hts _ _).mpr ((endsBefore_spell_cons hrest _ _).mp hends)

/-- Two lists that scan as they are do so together when the first one ends before the second one. -/
theorem Lexed.append {ts us : List Token} (hts : Lexed ts) (hus : Lexed us)
    (hends : ∀ l ∈ ts.getLast?, endsBefore l.lexClass l.text.toList (spell us) = true) :
    Lexed (ts ++ us) := by
  induction hts with
  | nil => exact hus
  | @cons t ts hshape hbefore hts ih =>
    cases ts with
    | nil => exact .cons hshape (hends t rfl) hus
    | cons n ts =>
      have hrest := ih fun l hl => hends l (by rwa [List.getLast?_cons_cons])
      refine .cons hshape ?_ hrest
      exact (endsBefore_spell_cons hrest _ _).mpr ((endsBefore_spell_cons hts _ _).mp hbefore)

/-- A part of a list that scans as it is does so too. -/
theorem Lexed.of_infix {ts us : List Token} (h : Lexed ts) (hpart : us <:+: ts) : Lexed us := by
  obtain ⟨before, after, rfl⟩ := hpart
  exact h.of_append_left.of_append_right

/-! ### Scanning a spelled list -/

theorem lexeme_of_shape {k : LexClass} {c : Char} {s r : List Char} (h : Shape k (c :: s))
    (hends : endsBefore k (c :: s) r = true) : lexeme c (s ++ r) = .ok (k, s.length) := by
  obtain ⟨c', s', heq, hlex⟩ := isToken_of_shape h
  obtain ⟨rfl, rfl⟩ := List.cons.inj heq
  exact (lexeme_append_iff c s r k).mpr ⟨hlex, hends⟩

theorem keeps_all (k : LexClass) : ({} : Options).keeps k = true := by
  cases k <;> rfl

theorem scanFrom_cons_ok {p : Position} {c : Char} {s r : List Char} {k : LexClass}
    (h : lexeme c (s ++ r) = .ok (k, s.length)) :
    scanFrom {} p (c :: (s ++ r)) =
      ⟨⟨k, String.ofList (c :: s), p⟩ :: (scanFrom {} (p.advance (c :: s)) r).tokens,
        (scanFrom {} (p.advance (c :: s)) r).error⟩ := by
  rw [scanFrom, h]
  simp [keeps_all, Options.textOf]

/-- The scan of a spelled list is the list, placed, and an end-of-text token. -/
theorem scanFrom_spell {ts : List Token} (h : Lexed ts) (p : Position) :
    scanFrom {} p (spell ts) = ⟨placed p ts ++ [⟨.endOfText, "", p.advance (spell ts)⟩], none⟩ := by
  induction h generalizing p with
  | nil => rw [spell_nil, scanFrom]; rfl
  | @cons t ts hshape hends _ ih =>
    obtain ⟨c, s, hw, -⟩ := isToken_of_shape hshape
    rw [hw] at hshape hends
    have htext : String.ofList (c :: s) = t.text := by rw [← hw, String.ofList_toList]
    rw [spell_cons, hw, List.cons_append, scanFrom_cons_ok (lexeme_of_shape hshape hends), ih, htext]
    simp [Token.placed, hw]

/-! ### The tokens of a text -/

theorem run_le (p : Char → Bool) (cs : List Char) : run p cs ≤ cs.length :=
  (List.takeWhile_sublist p).length_le

theorem quotedLength_le {d : Char} {cs : List Char} {n : Nat} (h : quotedLength d cs = some n) :
    n ≤ cs.length := by
  fun_induction quotedLength d cs generalizing n with
  | case1 => cases h
  | case2 => cases h; simp
  | case3 => cases h
  | case4 _ _ ih | case5 _ _ ih | case7 _ _ _ _ _ ih =>
    obtain ⟨m, hm, rfl⟩ := Option.map_eq_some_iff.mp h
    have := ih hm
    simp only [List.length_cons] at this ⊢
    omega
  | case6 => cases h; simp

theorem commentLength_le {cs : List Char} {n : Nat} (h : commentLength cs = some n) :
    n ≤ cs.length := by
  fun_induction commentLength cs generalizing n with
  | case1 => cases h
  | case2 => cases h
  | case3 => cases h; simp
  | case4 _ _ _ _ ih =>
    obtain ⟨m, hm, rfl⟩ := Option.map_eq_some_iff.mp h
    have := ih hm
    simp only [List.length_cons] at this ⊢
    omega

theorem number_le {c : Char} {cs : List Char} {k : LexClass} {n : Nat}
    (h : number c cs = .ok (k, n)) : n ≤ cs.length := by
  unfold number at h
  split at h
  · rename_i m hm
    obtain ⟨d, f, e, r, hcs, rfl, -, -⟩ := exists_numeral hm
    have hlen := congrArg List.length hcs
    simp only [Except.ok.injEq, Prod.mk.injEq, List.length_cons, List.length_append] at h hlen
    omega
  · cases h

theorem pairOr_le {second : Char} {both alone k : LexClass} {cs : List Char} {n : Nat}
    (h : pairOr second both alone cs = .ok (k, n)) : n ≤ cs.length := by
  unfold pairOr at h
  split at h
  · rename_i hcs
    cases cs with
    | nil => cases hcs
    | cons c cs => cases h; simp
  · cases h; simp

/-- The first token of a text is a slice of it. -/
theorem lexeme_le {c : Char} {cs : List Char} {k : LexClass} {n : Nat}
    (h : lexeme c cs = .ok (k, n)) : n ≤ cs.length := by
  have hsingle : ∀ {k₀ : LexClass}, single k₀ = .ok (k, n) → n ≤ cs.length := by
    intro k₀ h
    obtain ⟨-, rfl⟩ := single_eq_ok_iff.mp h
    exact Nat.zero_le _
  have hrun : ∀ {k₀ : LexClass} {p : Char → Bool},
      (.ok (k₀, run p cs) : Lexeme) = .ok (k, n) → n ≤ cs.length := by
    intro k₀ p h
    cases h
    exact run_le p cs
  unfold lexeme at h
  split at h
  case h_1 | h_2 | h_3 | h_4 | h_11 | h_17 | h_19 | h_20 | h_21 => exact hsingle h
  case h_5 =>
    split at h
    · exact number_le h
    · exact hsingle h
  case h_6 | h_7 | h_8 => exact quotedLength_le (quoted_eq_ok_iff.mp h).2
  case h_9 =>
    split at h
    · exact hrun h
    · exact hsingle h
  case h_10 =>
    split at h
    · split at h
      · rename_i hm
        cases h
        exact Nat.succ_le_succ (commentLength_le hm)
      · cases h
    · exact hsingle h
  case h_12 =>
    split at h
    · rename_i hcs
      cases cs with
      | nil => cases hcs
      | cons c cs => cases h; simp
    · exact pairOr_le h
  case h_13 | h_14 | h_15 => exact pairOr_le h
  case h_16 =>
    split at h
    · exact hrun h
    · exact pairOr_le h
  case h_18 =>
    split at h
    · exact hrun h
    · exact hsingle h
  case h_22 =>
    split at h
    · exact hrun h
    · split at h
      · exact hrun h
      · split at h
        · exact number_le h
        · exact hsingle h

/-- A text that scans without an error is spelled by a list of tokens. -/
theorem exists_lexed_of_scanFrom {p : Position} {cs : List Char}
    (h : (scanFrom {} p cs).error = none) : ∃ ts, Lexed ts ∧ spell ts = cs := by
  -- on the length of the text, since a step drops a whole slice
  induction hn : cs.length using Nat.strongRecOn generalizing p cs with
  | ind n ih =>
    cases cs with
    | nil => exact ⟨[], .nil, rfl⟩
    | cons c cs =>
      cases hlex : lexeme c cs with
      | error fault =>
        rw [scanFrom, hlex] at h
        cases h
      | ok token =>
        obtain ⟨k, m⟩ := token
        have hm := lexeme_le hlex
        obtain ⟨s, r, rfl, rfl⟩ : ∃ s r, cs = s ++ r ∧ m = s.length :=
          ⟨cs.take m, cs.drop m, (List.take_append_drop m cs).symm, by simp [hm]⟩
        rw [scanFrom_cons_ok hlex] at h
        have hlt : r.length < n := by
          rw [← hn]
          simp only [List.length_cons, List.length_append]
          omega
        obtain ⟨ts, hts, rfl⟩ := ih r.length hlt h rfl
        have hboth := (lexeme_append_iff c s _ k).mp hlex
        refine ⟨⟨k, String.ofList (c :: s), p⟩ :: ts, .cons ?_ ?_ hts, by simp⟩
        · simpa using shape_of_lexeme hboth.1
        · simpa using hboth.2

/-- The tokens of a text are the one list that scans as it is, spells the text and is placed from the start
on. -/
theorem tokenize_eq_ok_iff (sql : String) (ts : List Token) :
    tokenize sql = .ok ts ↔ ∃ us, Lexed us ∧ spell us = scanned sql ∧ ts = placed .start us := by
  have hof : ∀ us, Lexed us → spell us = scanned sql → tokenize sql = .ok (placed .start us) := by
    intro us hus hsp
    unfold tokenize scan
    rw [← hsp, scanFrom_spell hus]
    simp
  constructor
  · intro h
    have herr : (scanFrom {} .start (scanned sql)).error = none := by
      cases he : (scanFrom {} .start (scanned sql)).error with
      | none => rfl
      | some e =>
        unfold tokenize scan at h
        simp only [he] at h
        cases h
    obtain ⟨us, hus, hsp⟩ := exists_lexed_of_scanFrom herr
    rw [hof us hus hsp] at h
    exact ⟨us, hus, hsp, (Except.ok.inj h).symm⟩
  · rintro ⟨us, hus, hsp, rfl⟩
    exact hof us hus hsp

/-- A text without NUL is scanned to its end. -/
theorem scanned_eq_toList {sql : String} (h : '\x00' ∉ sql.toList) : scanned sql = sql.toList := by
  refine List.takeWhile_eq_self_iff.mpr fun c hc => ?_
  have hne : c ≠ '\x00' := by
    rintro rfl
    exact h hc
  simpa using hne

/-- The tokens of a text spell the part of it that is scanned. -/
theorem spell_of_tokenize {sql : String} {ts : List Token} (h : tokenize sql = .ok ts) :
    spell ts = scanned sql := by
  obtain ⟨us, -, hspell, rfl⟩ := (tokenize_eq_ok_iff sql ts).mp h
  rw [spell_placed, hspell]

/-- The tokens of a text scan as they are, and none of their characters is NUL. -/
theorem lexed_of_tokenize {sql : String} {ts : List Token} (h : tokenize sql = .ok ts) :
    Lexed ts ∧ ∀ c ∈ spell ts, c ≠ '\x00' := by
  obtain ⟨us, hus, hspell, rfl⟩ := (tokenize_eq_ok_iff sql ts).mp h
  refine ⟨hus.placed _, fun c hc => ?_⟩
  rw [spell_placed, hspell] at hc
  simpa using List.mem_takeWhile_imp hc

/-- A list that scans as it is and has no NUL gives the tokens of the text that it spells. -/
theorem tokenize_spell {ts : List Token} (h : Lexed ts) (hnul : ∀ c ∈ spell ts, c ≠ '\x00') :
    tokenize (String.ofList (spell ts)) = .ok (placed .start ts) := by
  refine (tokenize_eq_ok_iff _ _).mpr ⟨ts, h, ?_, rfl⟩
  rw [scanned_eq_toList, String.toList_ofList]
  exact fun hmem => hnul _ (by simpa using hmem) rfl

/-- Consecutive tokens of such a list are the tokens of the text that they spell. -/
theorem tokenize_infix {ts us : List Token} (h : Lexed ts) (hnul : ∀ c ∈ spell ts, c ≠ '\x00')
    (hpart : us <:+: ts) : tokenize (String.ofList (spell us)) = .ok (placed .start us) := by
  refine tokenize_spell (h.of_infix hpart) fun c hc => hnul c ?_
  obtain ⟨before, after, rfl⟩ := hpart
  simp [hc]

end Scan

end SqlOutline
