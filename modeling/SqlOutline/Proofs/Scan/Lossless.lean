import Mathlib.Data.List.DropRight
import SqlOutline.Proofs.Scan.Lexed

/-!
# Scanning loses nothing

The tokens of a text are its consecutive slices, whether the scan reaches the end or stops at an error, and
every token knows the place where its slice starts.

* `Position.after` : the place after a text, counted over the text as a whole;
* `advance_start` : moving character by character leads there;
* `scanFrom_step`, `scanFrom_cases` : what one step of a scan gives, and what a whole scan gives;
* `scan_lossless` : the main result.
-/

namespace SqlOutline

/-! ### Places -/

namespace Position

/-- The place after a text: the line feeds, the characters after the last line feed, and the bytes are
counted over the text as a whole. -/
def after (text : List Char) : Position where
  line := 1 + text.count '\n'
  column := 1 + (text.rtakeWhile (· != '\n')).length
  offset := (String.ofList text).utf8ByteSize

theorem after_concat (text : List Char) (c : Char) : after (text ++ [c]) = (after text).next c := by
  have hbytes : (String.ofList (text ++ [c])).utf8ByteSize =
      (String.ofList text).utf8ByteSize + c.utf8Size := by
    have hlast : String.ofList [c] = String.singleton c := rfl
    rw [String.ofList_append, String.utf8ByteSize_append, hlast, String.utf8ByteSize_singleton]
  unfold after next
  rw [hbytes]
  by_cases hc : c = '\n'
  · rw [if_pos hc, List.rtakeWhile_concat_neg _ _ _ (by simp [hc]), hc, List.count_append]
    rfl
  · have hcount : (text ++ [c]).count '\n' = text.count '\n' := by
      rw [List.count_append, List.count_singleton, if_neg (by simpa using hc), Nat.add_zero]
    rw [if_neg hc, List.rtakeWhile_concat_pos _ _ _ (by simpa using hc), hcount, List.length_append]
    rfl

/-- Moving over a text from its start leads to the place after it. -/
theorem advance_start (text : List Char) : start.advance text = after text := by
  induction text using List.reverseRecOn with
  | nil => rfl
  | append_singleton text c ih =>
    rw [advance_append, ih, after_concat]
    rfl

end Position

namespace Token

theorem placed_append (p : Position) (ts us : List Token) :
    placed p (ts ++ us) = placed p ts ++ placed (p.advance (spell ts)) us := by
  induction ts generalizing p with
  | nil => rfl
  | cons t ts ih =>
    rw [List.cons_append, placed, placed, ih, List.cons_append, spell_cons, Position.advance_append]

/-- A placed token stands after the text of the tokens before it. -/
theorem pos_of_placed {p : Position} {ts before after : List Token} {t : Token}
    (h : placed p ts = before ++ t :: after) : t.pos = p.advance (spell before) := by
  induction ts generalizing p before with
  | nil => simp [placed] at h
  | cons u ts ih =>
    rw [placed] at h
    cases before with
    | nil =>
      obtain ⟨rfl, -⟩ := List.cons.inj h
      rfl
    | cons b before =>
      obtain ⟨rfl, htail⟩ := List.cons.inj h
      rw [spell_cons, Position.advance_append]
      exact ih htail

end Token

namespace Scan

open Token

/-! ### Steps -/

theorem shape_placed {ts : List Token} (h : ∀ t ∈ ts, Shape t.lexClass t.text.toList) (p : Position) :
    ∀ t ∈ placed p ts, Shape t.lexClass t.text.toList := by
  induction ts generalizing p with
  | nil => simp [placed]
  | cons t ts ih =>
    intro u hu
    rw [placed] at hu
    rcases List.mem_cons.mp hu with rfl | hu
    · exact h t (by simp)
    · exact ih (fun v hv => h v (by simp [hv])) _ u hu

theorem ne_endOfText_of_shape {k : LexClass} {w : List Char} (h : Shape k w) : k ≠ .endOfText := by
  cases h with
  | word _ _ => exact ofWord_ne rfl _
  | symbol hmem => exact ne_of_mem_symbols (by decide) hmem
  | _ => simp

theorem text_ne_empty_of_shape {t : Token} (h : Shape t.lexClass t.text.toList) : t.text ≠ "" := by
  intro hempty
  exact h.ne_nil (by rw [hempty]; rfl)

/-- One step of a scan: the first token cannot be completed, or it is a slice of its shape and the scan goes
on behind it. -/
theorem scanFrom_step (p : Position) (c : Char) (cs : List Char) :
    (∃ fault, scanFrom {} p (c :: cs) = ⟨[], some ⟨fault, p⟩⟩) ∨
      ∃ (t : Token) (r : List Char), Shape t.lexClass t.text.toList ∧ c :: cs = t.text.toList ++ r ∧
        scanFrom {} p (c :: cs) =
          ⟨{ t with pos := p } :: (scanFrom {} (p.advance t.text.toList) r).tokens,
            (scanFrom {} (p.advance t.text.toList) r).error⟩ := by
  cases hlex : lexeme c cs with
  | error fault =>
    left
    refine ⟨fault, ?_⟩
    rw [scanFrom, hlex]
  | ok token =>
    right
    obtain ⟨k, n⟩ := token
    have hn := lexeme_le hlex
    obtain ⟨s, r, rfl, rfl⟩ : ∃ s r, cs = s ++ r ∧ n = s.length :=
      ⟨cs.take n, cs.drop n, (List.take_append_drop n cs).symm, by simp [hn]⟩
    have halone := ((lexeme_append_iff c s r k).mp hlex).1
    refine ⟨⟨k, String.ofList (c :: s), p⟩, r, ?_, ?_, ?_⟩
    · simpa using shape_of_lexeme halone
    · simp
    · rw [scanFrom_cons_ok hlex]
      simp

/-! ### Whole scans -/

/-- A scan gives slices of the text, placed one after the other.  They make up the whole text and an
end-of-text token follows them, or the scan stops with an error at the character after them. -/
theorem scanFrom_cases (p : Position) (cs : List Char) :
    ∃ ts, (∀ t ∈ ts, Shape t.lexClass t.text.toList) ∧
      (spell ts = cs ∧ scanFrom {} p cs = ⟨placed p (ts ++ [⟨.endOfText, "", p⟩]), none⟩ ∨
        ∃ fault c rest, cs = spell ts ++ c :: rest ∧
          scanFrom {} p cs = ⟨placed p ts, some ⟨fault, p.advance (spell ts)⟩⟩) := by
  -- on the length of the text, since a step takes a whole slice
  induction hn : cs.length using Nat.strongRecOn generalizing p cs with
  | ind n ih =>
    cases cs with
    | nil =>
      refine ⟨[], by simp, .inl ⟨rfl, ?_⟩⟩
      rw [scanFrom]
      rfl
    | cons c cs =>
      rcases scanFrom_step p c cs with ⟨fault, hscan⟩ | ⟨t, r, hshape, hcs, hscan⟩
      · exact ⟨[], by simp, .inr ⟨fault, c, cs, rfl, hscan⟩⟩
      · have hlt : r.length < n := by
          have hpos := List.length_pos_iff.mpr hshape.ne_nil
          rw [← hn, hcs, List.length_append]
          omega
        obtain ⟨ts, hts, hrest⟩ := ih r.length hlt (p.advance t.text.toList) r rfl
        refine ⟨t :: ts, by simpa using ⟨hshape, hts⟩, ?_⟩
        rcases hrest with ⟨rfl, hend⟩ | ⟨fault, d, rest, rfl, herror⟩
        · left
          refine ⟨hcs.symm, ?_⟩
          rw [hscan, hend, List.cons_append, placed, placed_append, placed_append]
          rfl
        · right
          refine ⟨fault, d, rest, ?_, ?_⟩
          · rw [hcs, spell_cons, List.append_assoc]
          · rw [hscan, herror, placed, spell_cons, Position.advance_append]

/-! ### The main result -/

/-- The wording of a scan error ends with the place where the token starts. -/
theorem message_eq_append (e : ScanError) :
    ∃ cause, e.message = cause ++ s!" at line {e.pos.line}, column {e.pos.column}" := by
  obtain ⟨fault, pos⟩ := e
  cases fault with
  | unterminatedString => exact ⟨_, rfl⟩
  | unterminatedIdentifier d => exact ⟨_, rfl⟩
  | unterminatedComment => exact ⟨_, rfl⟩
  | invalidExponent => exact ⟨_, rfl⟩

/-- **Scanning loses nothing.**  A scan sees the characters before the first NUL and nothing else.  Its
tokens are consecutive slices of them, none empty.  The slices make up the text and an end-of-text token
follows, or the scan fails at the character right after them and the error names the line and column of that
character.  Every token, the end-of-text token included, is placed after the text of the tokens before
it. -/
theorem scan_lossless (sql : String) :
    (∀ other : String, other.toList.takeWhile (· != '\x00') = sql.toList.takeWhile (· != '\x00') →
      scan {} other = scan {} sql) ∧
    (∃ ts, (∀ t ∈ ts, t.text ≠ "" ∧ t.lexClass ≠ .endOfText) ∧
      ((∃ pos, scan {} sql = ⟨ts ++ [⟨.endOfText, "", pos⟩], none⟩ ∧
          spell ts = sql.toList.takeWhile (· != '\x00')) ∨
        ∃ e c rest, scan {} sql = ⟨ts, some e⟩ ∧
          sql.toList.takeWhile (· != '\x00') = spell ts ++ c :: rest ∧ e.pos = .after (spell ts) ∧
          ∃ cause, e.message = cause ++ s!" at line {e.pos.line}, column {e.pos.column}")) ∧
    ∀ before t after, (scan {} sql).tokens = before ++ t :: after → t.pos = .after (spell before) := by
  obtain ⟨ts, hts, hcases⟩ := scanFrom_cases .start (scanned sql)
  refine ⟨?_, ?_, ?_⟩
  · intro other hsame
    unfold scan scanned
    rw [hsame]
  · have hkept : ∀ t ∈ placed .start ts, t.text ≠ "" ∧ t.lexClass ≠ .endOfText := by
      intro t ht
      have hshape := shape_placed hts .start t ht
      exact ⟨text_ne_empty_of_shape hshape, ne_endOfText_of_shape hshape⟩
    rcases hcases with ⟨hspell, hscan⟩ | ⟨fault, c, rest, hspell, hscan⟩
    · refine ⟨placed .start ts, hkept, .inl ⟨Position.start.advance (spell ts), ?_, ?_⟩⟩
      · show scanFrom {} .start (scanned sql) = _
        rw [hscan, placed_append]
        rfl
      · rw [spell_placed]
        exact hspell
    · refine ⟨placed .start ts, hkept, .inr ⟨_, c, rest, hscan, ?_, ?_, message_eq_append _⟩⟩
      · rw [spell_placed]
        exact hspell
      · show Position.start.advance (spell ts) = _
        rw [spell_placed, Position.advance_start]
  · intro before t after htokens
    obtain ⟨us, hus⟩ : ∃ us, (scan {} sql).tokens = placed .start us := by
      rcases hcases with ⟨-, hscan⟩ | ⟨fault, c, rest, -, hscan⟩
      · exact ⟨_, congrArg Result.tokens hscan⟩
      · exact ⟨_, congrArg Result.tokens hscan⟩
    rw [hus] at htokens
    rw [pos_of_placed htokens, Position.advance_start]

theorem scan_lossless_multibyte :
    (scan {} "é\n 'x\x00'").tokens = [⟨.identifier, "é", ⟨1, 1, 0⟩⟩, ⟨.whitespace, "\n ", ⟨1, 2, 2⟩⟩] ∧
      (scan {} "é\n 'x\x00'").error = some ⟨.unterminatedString, ⟨2, 2, 4⟩⟩ ∧
      scan {} "é\n 'x" = scan {} "é\n 'x\x00'" ∧
      ∀ before t after, (scan {} "é\n 'x\x00'").tokens = before ++ t :: after →
        t.pos = .after (spell before) :=
  ⟨by decide +kernel, by decide +kernel, (scan_lossless _).1 _ (by decide +kernel), (scan_lossless _).2.2⟩

end Scan

end SqlOutline
