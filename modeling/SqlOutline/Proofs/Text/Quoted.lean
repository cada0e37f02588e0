import Mathlib.Algebra.Group.Nat.Defs
import SqlOutline.Text.Quoted

/-!
# Quoted texts can be read back

What is written for a character says which character it is and where it ends, so a quoted text determines the
text.  It stands on one line, since a line feed is written as an escape sequence.

* `ofHex` : the number that hexadecimal digits write;
* `quoteChar_cases` : a character is written as it is, with an escape letter, or by its number;
* `readChar` : the first character of a text that is quoted; `readChar_quoteChar` : it is the one written;
* `quote_inj` : a quoted text determines the text;
* `newline_not_mem_quote` : no quoted text has a line feed.
-/

namespace SqlOutline.Text

/-! ### Hexadecimal digits -/

/-- The value of a lower case hexadecimal digit. -/
def hexValue (d : Char) : Nat := if d.toNat < 58 then d.toNat - 48 else d.toNat - 87

/-- The number that hexadecimal digits write. -/
def ofHex (ds : List Char) : Nat := ds.foldl (fun n d => 16 * n + hexValue d) 0

theorem hexDigit_facts {n : Nat} (h : n < 16) : hexValue (hexDigit n) = n ∧ hexDigit n ≠ '\n' := by
  have hall : ∀ n < 16, hexValue (hexDigit n) = n ∧ hexDigit n ≠ '\n' := by decide
  exact hall n h

theorem length_hex (width n : Nat) : (hex width n).length = width := by
  induction width generalizing n with
  | zero => rfl
  | succ width ih => rw [hex, List.length_append, ih, List.length_singleton]

theorem newline_not_mem_hex (width n : Nat) : '\n' ∉ hex width n := by
  induction width generalizing n with
  | zero => simp [hex]
  | succ width ih =>
    rw [hex, List.mem_append, List.mem_singleton, not_or]
    exact ⟨ih _, (hexDigit_facts (Nat.mod_lt n (by decide))).2.symm⟩

theorem ofHex_hex {width n : Nat} (h : n < 16 ^ width) : ofHex (hex width n) = n := by
  induction width generalizing n with
  | zero =>
    rw [Nat.pow_zero, Nat.lt_one_iff] at h
    rw [h]
    rfl
  | succ width ih =>
    rw [Nat.pow_succ] at h
    have hhead : ofHex (hex width (n / 16)) = n / 16 := ih (by omega)
    have hlast : hexValue (hexDigit (n % 16)) = n % 16 := (hexDigit_facts (Nat.mod_lt n (by decide))).1
    unfold ofHex at hhead ⊢
    rw [hex, List.foldl_append, hhead, List.foldl_cons, List.foldl_nil, hlast]
    omega

/-! ### Escape sequences -/

/-- The character that an escape letter stands for. -/
def ofEscapeLetter (l : Char) : Char :=
  match l with
  | 'a' => '\x07'
  | 'b' => '\x08'
  | 't' => '\t'
  | 'n' => '\n'
  | 'v' => '\x0b'
  | 'f' => '\x0c'
  | 'r' => '\r'
  | _ => l

/-- How many hexadecimal digits follow an escape letter. -/
def escapeWidth (l : Char) : Nat :=
  match l with
  | 'x' => 2
  | 'u' => 4
  | 'U' => 8
  | _ => 0

theorem escapeLetter_facts {c l : Char} (h : escapeLetter c = some l) :
    escapeWidth l = 0 ∧ ofEscapeLetter l = c ∧ l ≠ '\n' := by
  have hchar : ∀ {n : Nat}, c.toNat = n → Char.ofNat n = c := by
    rintro _ rfl
    exact Char.ofNat_toNat c
  unfold escapeLetter at h
  split at h
  case h_8 => cases h
  all_goals
    rename_i hn
    cases h
    rw [← hchar hn]
    decide

/-- A character is written as it is, with an escape letter, or with an escape letter and its number. -/
theorem quoteChar_cases (c : Char) :
    (quoteChar c = [c] ∧ c ≠ '"' ∧ c ≠ '\\' ∧ c ≠ '\n') ∨
    (∃ l, quoteChar c = ['\\', l] ∧ escapeWidth l = 0 ∧ ofEscapeLetter l = c ∧ l ≠ '\n') ∨
    (∃ l, quoteChar c = '\\' :: l :: hex (escapeWidth l) c.toNat ∧ escapeWidth l ≠ 0 ∧
      c.toNat < 16 ^ escapeWidth l ∧ l ≠ '\n') := by
  unfold quoteChar
  split
  · rename_i hmark
    right; left
    refine ⟨c, rfl, ?_⟩
    rcases hmark with rfl | rfl <;> decide
  · rename_i hplain
    rw [not_or] at hplain
    split
    · rename_i hprintable
      refine .inl ⟨rfl, hplain.1, hplain.2, ?_⟩
      rintro rfl
      cases hprintable
    · right
      split
      · rename_i l hl
        exact .inl ⟨l, rfl, escapeLetter_facts hl⟩
      · right
        have hlt : c.toNat < 16 ^ 8 := by
          have hvalid := c.valid
          have hnat : c.toNat = c.val.toNat := rfl
          simp only [UInt32.isValidChar, Nat.isValidChar] at hvalid
          omega
        split
        · exact ⟨'x', rfl, by decide, by simp only [escapeWidth]; omega, by decide⟩
        · split
          · exact ⟨'u', rfl, by decide, by simp only [escapeWidth]; omega, by decide⟩
          · exact ⟨'U', rfl, by decide, hlt, by decide⟩

/-! ### Reading back -/

/-- The first character of a text that is quoted, and what follows it. -/
def readChar : List Char → Option (Char × List Char)
  | [] => none
  | ['\\'] => none
  | '\\' :: l :: cs =>
    if escapeWidth l = 0 then some (ofEscapeLetter l, cs)
    else some (Char.ofNat (ofHex (cs.take (escapeWidth l))), cs.drop (escapeWidth l))
  | c :: cs => some (c, cs)

/-- What is written for a character is read as that character, whatever follows. -/
theorem readChar_quoteChar (c : Char) (rest : List Char) : readChar (quoteChar c ++ rest) = some (c, rest) := by
  rcases quoteChar_cases c with ⟨hc, -, hslash, -⟩ | ⟨l, hl, hwidth, hletter, -⟩ | ⟨l, hl, hwidth, hlt, -⟩
  · rw [hc, List.singleton_append]
    cases rest <;> simp [readChar, hslash]
  · rw [hl]
    show (if escapeWidth l = 0 then some (ofEscapeLetter l, rest) else _) = _
    rw [if_pos hwidth, hletter]
  · rw [hl]
    have hlen := length_hex (escapeWidth l) c.toNat
    show (if escapeWidth l = 0 then _ else some (Char.ofNat (ofHex
      ((hex (escapeWidth l) c.toNat ++ rest).take (escapeWidth l))),
      (hex (escapeWidth l) c.toNat ++ rest).drop (escapeWidth l))) = _
    rw [if_neg hwidth, List.take_left' hlen, List.drop_left' hlen, ofHex_hex hlt, Char.ofNat_toNat]

theorem quoteChar_append_inj {c d : Char} {rest rest' : List Char}
    (h : quoteChar c ++ rest = quoteChar d ++ rest') : c = d ∧ rest = rest' := by
  have hread := congrArg readChar h
  rw [readChar_quoteChar, readChar_quoteChar] at hread
  exact Prod.mk.inj (Option.some.inj hread)

/-- The closing quote is not what is written for a character. -/
theorem quoteChar_append_ne (c : Char) (rest rest' : List Char) : quoteChar c ++ rest ≠ '"' :: rest' := by
  rcases quoteChar_cases c with ⟨hc, hquote, -⟩ | ⟨l, hl, -⟩ | ⟨l, hl, -⟩
  · simp [hc, hquote]
  · simp [hl]
  · simp [hl]

theorem quoteChars_inj {cs ds : List Char}
    (h : cs.flatMap quoteChar ++ ['"'] = ds.flatMap quoteChar ++ ['"']) : cs = ds := by
  induction cs generalizing ds with
  | nil =>
    cases ds with
    | nil => rfl
    | cons d ds =>
      rw [List.flatMap_cons, List.append_assoc] at h
      exact absurd h.symm (quoteChar_append_ne d _ _)
  | cons c cs ih =>
    rw [List.flatMap_cons, List.append_assoc] at h
    cases ds with
    | nil => exact absurd h (quoteChar_append_ne c _ _)
    | cons d ds =>
      rw [List.flatMap_cons, List.append_assoc] at h
      obtain ⟨rfl, htail⟩ := quoteChar_append_inj h
      rw [ih htail]

/-- A quoted text determines the text. -/
theorem quote_inj {s t : String} (h : quote s = quote t) : s = t := by
  have hchars := quoteChars_inj (List.tail_eq_of_cons_eq (String.ofList_injective h))
  exact String.toList_inj.mp hchars

/-- A quoted text stands on one line. -/
theorem newline_not_mem_quote (s : String) : '\n' ∉ (quote s).toList := by
  have hchar : ∀ c, '\n' ∉ quoteChar c := by
    intro c
    rcases quoteChar_cases c with ⟨hc, -, -, hne⟩ | ⟨l, hl, -, -, hne⟩ | ⟨l, hl, -, -, hne⟩
    · simpa [hc] using hne.symm
    · simpa [hl] using hne.symm
    · simpa [hl, newline_not_mem_hex] using hne.symm
  simp [quote, hchar]

end SqlOutline.Text
