import SqlOutline.Proofs.Scan.Lossless

/-!
# Scanning has no memory

A scan does not look back, and it looks behind a token only to see that the token goes on no further, which
the end of the text tells as well.  So a text may be cut at the start of any of its tokens and scanned from
there, and every token may be cut out and scanned alone.

* `ofList_spell_of_tokenize`, `pos_of_tokenize` : the tokens of a text make it up, and where each of them
  starts;
* `tokenize_at_boundary` : the main result.
-/

namespace SqlOutline.Scan

open Token

variable {sql : String} {ts before after : List Token} {t : Token}

/-- The tokens of a text without NUL make it up. -/
theorem ofList_spell_of_tokenize (hnul : '\x00' ∉ sql.toList) (h : tokenize sql = .ok ts) :
    String.ofList (spell ts) = sql := by
  rw [spell_of_tokenize h, scanned_eq_toList hnul, String.ofList_toList]

/-- A token of a text stands after the text of the tokens before it. -/
theorem pos_of_tokenize (h : tokenize sql = .ok (before ++ t :: after)) : t.pos = .after (spell before) := by
  obtain ⟨us, -, -, hus⟩ := (tokenize_eq_ok_iff sql _).mp h
  rw [pos_of_placed hus.symm, Position.advance_start]

/-- **Scanning has no memory.**  Let the tokens of a text be cut into two lists.  The text that begins at the
first token of the second list has the tokens of that list, placed from its own start on.  Every token is the
one token of its own text. -/
theorem tokenize_at_boundary (sql : String) (before after : List Token) (hnul : '\x00' ∉ sql.toList)
    (h : tokenize sql = .ok (before ++ after)) :
    (∃ front back : String, sql = front ++ back ∧
      (∀ t ∈ after.head?, t.pos.offset = front.utf8ByteSize) ∧ (after = [] → back = "") ∧
      tokenize back = .ok (placed .start after)) ∧
    ∀ t ∈ before ++ after, tokenize t.text = .ok [{ t with pos := .start }] := by
  obtain ⟨hlexed, hchars⟩ := lexed_of_tokenize h
  constructor
  · refine ⟨String.ofList (spell before), String.ofList (spell after), ?_, ?_, ?_, ?_⟩
    · rw [← String.ofList_append, ← spell_append, ofList_spell_of_tokenize hnul h]
    · intro t ht
      obtain ⟨rest, rfl⟩ := List.head?_eq_some_iff.mp ht
      rw [pos_of_tokenize h]
      rfl
    · rintro rfl
      rfl
    · exact tokenize_infix hlexed hchars (List.suffix_append before after).isInfix
  · intro t ht
    obtain ⟨front, back, hsplit⟩ := List.append_of_mem ht
    have hpart : [t] <:+: before ++ after := ⟨front, back, by rw [hsplit, List.append_assoc]; rfl⟩
    have halone := tokenize_infix hlexed hchars hpart
    rw [spell_cons, spell_nil, List.append_nil, String.ofList_toList] at halone
    exact halone

/-- A number, a comment, a line feed and a quoted text, cut before the comment.  Alone, the comment ends
without its line feed, and the doubled quote does not close the quoted text. -/
theorem tokenize_at_boundary_comment :
    ∃ before after, tokenize "1.5e3--é\n'a''b'" = .ok (before ++ after) ∧
      before = [⟨.number, "1.5e3", ⟨1, 1, 0⟩⟩] ∧
      after = [⟨.lineComment, "--é", ⟨1, 6, 5⟩⟩, ⟨.whitespace, "\n", ⟨1, 9, 9⟩⟩,
        ⟨.string, "'a''b'", ⟨2, 1, 10⟩⟩] ∧
      (∃ front back : String, "1.5e3--é\n'a''b'" = front ++ back ∧
        (∀ t ∈ after.head?, t.pos.offset = front.utf8ByteSize) ∧ (after = [] → back = "") ∧
        tokenize back = .ok (placed .start after)) ∧
      ∀ t ∈ before ++ after, tokenize t.text = .ok [{ t with pos := .start }] := by
  have htokens : tokenize "1.5e3--é\n'a''b'" = .ok ([⟨.number, "1.5e3", ⟨1, 1, 0⟩⟩] ++
      [⟨.lineComment, "--é", ⟨1, 6, 5⟩⟩, ⟨.whitespace, "\n", ⟨1, 9, 9⟩⟩, ⟨.string, "'a''b'", ⟨2, 1, 10⟩⟩]) := by
    decide +kernel
  exact ⟨_, _, htokens, rfl, rfl, tokenize_at_boundary _ _ _ (by decide) htokens⟩

end SqlOutline.Scan
