import SqlOutline.Proofs.Layout.Trim
import SqlOutline.Proofs.Scan.Balance

/-!
# Scanning formatted text

The tokens of a formatted text, in terms of the tokens of the text it was made from.

* `lexed_map_written` : tokens keep their boundaries when only keywords are respelled;
* `formatted` : the tokens of the formatted text;
* `format_eq_ok_iff` : which texts are formatted, and to what;
* `tokenize_spell_formatted` : scanning the formatted text gives them;
* `textOf_of_format` : they are in the chosen spelling already.
-/

namespace SqlOutline.Layout

open Scan Token

variable {o : Options} {s : State} {ts : List Token}

/-! ### Respelling alone -/

/-- Numbers are not respelled: a test of the first character of a number gives the same. -/
theorem number_written (o : Options) (t : Token) (p : Char → Bool) :
    ((o.written t).lexClass == .number && startsWith p (o.written t).text.toList) =
      (t.lexClass == .number && startsWith p t.text.toList) := by
  by_cases hk : t.lexClass = .number
  · have hplain : t.lexClass.isKeyword = false := by rw [hk]; rfl
    rw [written_lexClass, written_text, textOf_of_not_keyword o hplain]
  · have hne : (t.lexClass == .number) = false := by simpa using hk
    rw [written_lexClass, hne]
    rfl

theorem startsWithPoint_written (o : Options) (t : Token) :
    startsWithPoint (o.written t) = startsWithPoint t :=
  number_written o t _

theorem startsWithDigit_written (o : Options) (t : Token) :
    startsWithDigit (o.written t) = startsWithDigit t :=
  number_written o t _

/-- Tokens keep their boundaries when only keywords are respelled. -/
theorem lexed_map_written (h : Lexed ts) (o : Options) : Lexed (ts.map o.written) := by
  induction h with
  | nil => exact .nil
  | @cons t ts hshape hends hts ih =>
    refine .cons (shape_textOf o hshape) ?_ ih
    show endsBefore t.lexClass (o.textOf t).toList (spell (ts.map o.written)) = true
    rw [← endsBefore_textOf o] at hends
    cases ts with
    | nil => exact endsBefore_nil _ _
    | cons n ts =>
      have hn := shape_of_lexed hts n (by simp)
      have hhead := (endsBefore_spell_cons hts _ _).mp hends
      refine (endsBefore_spell_cons ih _ _).mpr ⟨?_, ?_⟩
      · have hstart := startsWith_glues_written o (shape_textOf o hshape) hn [] []
        rw [List.append_nil, List.append_nil] at hstart
        exact hstart.trans hhead.1
      · rw [startsWithPoint_written]
        exact hhead.2

theorem toList_recase (o : Options) (ts : List Token) :
    (recase o ts).toList = spell (ts.map o.written) := by
  simp [recase, spell, String.toList_join, List.flatMap_def, Function.comp_def]

/-! ### The characters of a layout -/

theorem ne_nul_of_mem_textOf {t : Token} (hshape : Shape t.lexClass t.text.toList)
    (hnul : ∀ c ∈ t.text.toList, c ≠ '\x00') : ∀ c ∈ (o.textOf t).toList, c ≠ '\x00' := by
  intro c hc
  have hletters : ∀ x ∈ keywordChars, x ≠ '\x00' := by decide
  rcases mem_textOf o hshape c hc with h | h
  · exact hnul c h
  · exact hletters c h

theorem ne_nul_of_mem_layoutFrom (hts : ∀ t ∈ ts, Shape t.lexClass t.text.toList)
    (hnul : ∀ c ∈ spell ts, c ≠ '\x00') : ∀ c ∈ layoutFrom o s ts, c ≠ '\x00' := by
  induction ts generalizing s with
  | nil => simp [layoutFrom]
  | cons t ts ih =>
    have hrest : ∀ {s : State}, ∀ c ∈ layoutFrom o s ts, c ≠ '\x00' := fun {s} =>
      ih (fun u hu => hts u (by simp [hu])) fun c hc => hnul c (by simp [hc])
    unfold layoutFrom
    split
    · exact hrest
    · intro c hc
      simp only [List.mem_append] at hc
      rcases hc with (hc | hc) | hc
      · rintro rfl
        exact absurd (separator_mem hc) (by decide)
      · exact ne_nul_of_mem_textOf (hts t (by simp)) (fun c hc => hnul c (by simp [hc])) c hc
      · exact hrest c hc

theorem ne_nul_of_mem_map_written (hts : ∀ t ∈ ts, Shape t.lexClass t.text.toList)
    (hnul : ∀ c ∈ spell ts, c ≠ '\x00') : ∀ c ∈ spell (ts.map o.written), c ≠ '\x00' := by
  induction ts with
  | nil => simp
  | cons t ts ih =>
    intro c hc
    rcases List.mem_append.mp hc with hc | hc
    · exact ne_nul_of_mem_textOf (hts t (by simp)) (fun c hc => hnul c (by simp [hc])) c hc
    · exact ih (fun u hu => hts u (by simp [hu])) (fun c hc => hnul c (by simp [hc])) c hc

/-! ### The tokens of formatted text -/

/-- The tokens of the text that a list of tokens is formatted to. -/
def formatted (o : Options) (ts : List Token) : List Token :=
  if o.reindent || o.stripWhitespace then fuse (arrangeFrom o {} (trimLast ts)) else ts.map o.written

theorem lexed_formatted (h : Lexed ts) (o : Options) : Lexed (formatted o ts) := by
  unfold formatted
  split
  · exact (lexed_fuse_arrangeFrom (lexed_trimLast h) o {}).1
  · exact lexed_map_written h o

/-- The tokens of formatted text spell it. -/
theorem spell_formatted (h : Lexed ts) (o : Options) :
    spell (formatted o ts) =
      (if o.reindent || o.stripWhitespace then layout o ts else recase o ts).toList := by
  unfold formatted
  split
  · rw [(lexed_fuse_arrangeFrom (lexed_trimLast h) o {}).2, layout, String.toList_ofList,
      trimList_layoutFrom (shape_of_lexed h)]
  · rw [toList_recase]

theorem ne_nul_formatted (h : Lexed ts) (hnul : ∀ c ∈ spell ts, c ≠ '\x00') (o : Options) :
    ∀ c ∈ spell (formatted o ts), c ≠ '\x00' := by
  have hshape := shape_of_lexed h
  rw [spell_formatted h]
  split
  · intro c hc
    apply ne_nul_of_mem_layoutFrom (o := o) (s := {}) hshape hnul c
    rw [layout, String.toList_ofList] at hc
    exact (List.dropWhile_sublist _).subset ((List.rdropWhile_prefix _ _).subset hc)
  · rw [toList_recase]
    exact ne_nul_of_mem_map_written hshape hnul

/-- A text is formatted exactly when its tokens are complete and its parentheses match. -/
theorem format_eq_ok_iff (o : Options) (sql out : String) :
    format o sql = .ok out ↔
      ∃ ts, tokenize sql = .ok ts ∧ checkParens ts = .ok () ∧
        out = String.ofList (spell (formatted o ts)) := by
  unfold format
  constructor
  · intro h
    cases hb : balancedTokens sql with
    | error e =>
      rw [hb] at h
      cases h
    | ok ts =>
      rw [hb] at h
      obtain ⟨hts, hparens⟩ := (balancedTokens_eq_ok_iff sql ts).mp hb
      refine ⟨ts, hts, hparens, ?_⟩
      rw [spell_formatted (lexed_of_tokenize hts).1, String.ofList_toList]
      exact (Except.ok.inj h).symm
  · rintro ⟨ts, hts, hparens, rfl⟩
    rw [(balancedTokens_eq_ok_iff sql ts).mpr ⟨hts, hparens⟩, spell_formatted (lexed_of_tokenize hts).1,
      String.ofList_toList]
    rfl

/-- Scanning the text of the formatted tokens gives them back. -/
theorem tokenize_spell_formatted {sql : String} (hts : tokenize sql = .ok ts) (o : Options) :
    tokenize (String.ofList (spell (formatted o ts))) = .ok (placed .start (formatted o ts)) := by
  obtain ⟨hlexed, hnul⟩ := lexed_of_tokenize hts
  exact tokenize_spell (lexed_formatted hlexed o) (ne_nul_formatted hlexed hnul o)

/-! ### The spelling of formatted text -/

theorem textOf_number {n : Token} (h : n.lexClass = .number) : o.textOf n = n.text :=
  textOf_of_not_keyword o (by rw [h]; rfl)

theorem textOf_arrangeFrom (hts : ∀ t ∈ ts, Shape t.lexClass t.text.toList) :
    ∀ u ∈ arrangeFrom o s ts, o.textOf u = u.text := by
  induction ts generalizing s with
  | nil => simp [arrangeFrom]
  | cons t ts ih =>
    have hrest : ∀ s, ∀ u ∈ arrangeFrom o s ts, o.textOf u = u.text := fun s =>
      ih fun u hu => hts u (by simp [hu])
    unfold arrangeFrom
    split
    · exact hrest _
    · intro u hu
      rcases List.mem_append.mp hu with hu | hu
      · have hclass : u.lexClass = .whitespace := by
          unfold blank at hu
          split at hu
          · cases hu
          · rw [List.mem_singleton.mp hu]
        exact textOf_of_not_keyword o (by rw [hclass]; rfl)
      · rcases List.mem_cons.mp hu with rfl | hu
        · exact textOf_written o (hts t (by simp))
        · exact hrest _ u hu

/-- Only numbers are put together, and these have one spelling. -/
theorem textOf_fuseWith {t : Token} (ht : o.textOf t = t.text) (hts : ∀ u ∈ ts, o.textOf u = u.text) :
    ∀ u ∈ fuseWith t ts, o.textOf u = u.text := by
  cases ts with
  | nil => simpa [fuseWith] using ht
  | cons n ts =>
    have hrest : ∀ u ∈ ts, o.textOf u = u.text := fun u hu => hts u (by simp [hu])
    rcases fuseWith_cases t n ts with ⟨-, hn, heq⟩ | ⟨hwhole, -, heq⟩ | ⟨-, -, heq⟩
    · have hclass : n.lexClass = .number := by simpa using (Bool.and_eq_true_iff.mp hn).1
      have hpoint : ∀ u ∈ takePoint n, u.lexClass = .number := by
        unfold takePoint
        dsimp only
        split
        · simp [hclass]
        · simp [hclass]
      rw [heq]
      intro u hu
      rcases List.mem_append.mp hu with hu | hu
      · exact textOf_number (hpoint u hu)
      · exact hrest u hu
    · have hclass : t.lexClass = .number := by simpa using (Bool.and_eq_true_iff.mp hwhole).1
      rw [heq]
      intro u hu
      rcases List.mem_cons.mp hu with rfl | hu
      · exact textOf_number hclass
      · exact hrest u hu
    · rw [heq]
      exact List.forall_mem_cons.mpr ⟨ht, hts⟩

theorem textOf_fuse (hts : ∀ u ∈ ts, o.textOf u = u.text) : ∀ u ∈ fuse ts, o.textOf u = u.text := by
  induction ts with
  | nil => simp [fuse]
  | cons t ts ih =>
    rw [fuse_cons]
    exact textOf_fuseWith (hts t (by simp)) (ih fun u hu => hts u (by simp [hu]))

theorem textOf_formatted (h : Lexed ts) (o : Options) : ∀ u ∈ formatted o ts, o.textOf u = u.text := by
  unfold formatted
  split
  · exact textOf_fuse (textOf_arrangeFrom (shape_of_lexed (lexed_trimLast h)))
  · intro u hu
    obtain ⟨t, ht, rfl⟩ := List.mem_map.mp hu
    exact textOf_written o (shape_of_lexed h t ht)

/-- Every keyword that is found in a formatted text is in the chosen spelling. -/
theorem textOf_of_format {sql out : String} {us : List Token} (h : format o sql = .ok out)
    (hus : tokenize out = .ok us) : ∀ u ∈ us, o.textOf u = u.text := by
  obtain ⟨ts, hts, -, rfl⟩ := (format_eq_ok_iff o sql out).mp h
  obtain rfl : placed .start (formatted o ts) = us :=
    Except.ok.inj ((tokenize_spell_formatted hts o).symm.trans hus)
  intro u hu
  obtain ⟨t, ht, hclass, htext⟩ : ∃ t ∈ formatted o ts, t.lexClass = u.lexClass ∧ t.text = u.text := by
    have hmap := map_placed (fun t => (t.lexClass, t.text)) (fun _ _ => rfl) .start (formatted o ts)
    have hmem := List.mem_map_of_mem (f := fun t => (t.lexClass, t.text)) hu
    rw [hmap] at hmem
    simpa using hmem
  have hspelled := textOf_formatted (lexed_of_tokenize hts).1 o t ht
  unfold Options.textOf at hspelled ⊢
  rwa [hclass, htext] at hspelled

end SqlOutline.Layout
