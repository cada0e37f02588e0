import SqlOutline.Proofs.Layout.Acceptance

/-!
# Texts that follow each other

The layout of a list of tokens goes on where the layout of the tokens before it has stopped, and white space
at either end of a text does not show.

* `stateAfter` : what is known after some tokens; `layoutFrom_append` goes on from there;
* `last_stateAfter`, `depth_stateAfter` : the last token written and the open parentheses;
* `exists_core`, `exists_rest` : tokens without the white space behind or before them;
* `format_eq_ok_iff_layout`, `format_of_lexed` : formatting as a layout of any tokens that spell the text;
* `exists_newline`, `format_newline` : a line break at the end shows only when white space is kept.
-/

namespace SqlOutline.Layout

open Scan Token Statement

variable {o : Options} {s : State} {t : Token} {ts us : List Token}

/-! ### Going on after some tokens -/

/-- What is known after some tokens. -/
def stateAfter (o : Options) : State → List Token → State
  | s, [] => s
  | s, t :: ts => stateAfter o (if t.lexClass = .whitespace then { s with gap := true } else s.after o t) ts

theorem layoutFrom_append (o : Options) (s : State) (ts us : List Token) :
    layoutFrom o s (ts ++ us) = layoutFrom o s ts ++ layoutFrom o (stateAfter o s ts) us := by
  induction ts generalizing s with
  | nil => rfl
  | cons t ts ih =>
    rw [List.cons_append, layoutFrom, layoutFrom, stateAfter]
    split
    · exact ih _
    · rw [ih, List.append_assoc _ (layoutFrom o _ ts)]

theorem stateAfter_append (o : Options) (s : State) (ts us : List Token) :
    stateAfter o s (ts ++ us) = stateAfter o (stateAfter o s ts) us := by
  induction ts generalizing s with
  | nil => rfl
  | cons t ts ih => exact ih _

/-- The last token that was written is the last one that is no white space. -/
theorem last_stateAfter (o : Options) (s : State) (ts : List Token) :
    (stateAfter o s ts).last = (significant ts).getLast?.or s.last := by
  induction ts generalizing s with
  | nil => rfl
  | cons t ts ih =>
    rw [stateAfter, ih, significant_cons]
    split
    · rfl
    · rw [List.getLast?_cons]
      cases (significant ts).getLast? <;> rfl

theorem depth_after (o : Options) (s : State) (t : Token) :
    (s.after o t).depth = depthAfter s.depth t := by
  show (if t.lexClass = .openParen then s.depthAt t + 1 else s.depthAt t) = _
  unfold State.depthAt depthAfter
  cases t.lexClass <;> rfl

/-- The open parentheses are counted as in a list of statements. -/
theorem depth_stateAfter (o : Options) (s : State) (ts : List Token) :
    (stateAfter o s ts).depth = ts.foldl depthAfter s.depth := by
  induction ts generalizing s with
  | nil => rfl
  | cons t ts ih =>
    rw [stateAfter, ih, List.foldl_cons]
    split
    · rename_i hspace
      rw [depthAfter_other (by simp [hspace]) (by simp [hspace])]
    · rw [depth_after]

/-! ### White space at the ends -/

theorem stateAfter_of_all_space (h : ts.all (·.lexClass == .whitespace) = true) :
    ∃ g, stateAfter o s ts = { s with gap := g } := by
  induction ts generalizing s with
  | nil => exact ⟨s.gap, rfl⟩
  | cons t ts ih =>
    have h' : t.lexClass = .whitespace ∧ ts.all (·.lexClass == .whitespace) = true := by simpa using h
    obtain ⟨g, hg⟩ := ih (s := { s with gap := true }) h'.2
    exact ⟨g, by rw [stateAfter, if_pos h'.1, hg]⟩

/-- White space before a list shows as a gap at most. -/
theorem layoutFrom_space_append (h : ts.all (·.lexClass == .whitespace) = true) (us : List Token) :
    ∃ g, layoutFrom o s (ts ++ us) = layoutFrom o { s with gap := g } us := by
  obtain ⟨g, hg⟩ := stateAfter_of_all_space (o := o) (s := s) h
  exact ⟨g, by rw [layoutFrom_append, layoutFrom_of_all_space h, hg, List.nil_append]⟩

/-- White space behind a list does not show. -/
theorem layoutFrom_append_space (h : us.all (·.lexClass == .whitespace) = true) :
    layoutFrom o s (ts ++ us) = layoutFrom o s ts := by
  rw [layoutFrom_append, layoutFrom_of_all_space h, List.append_nil]

/-- Before the first token a gap does not show. -/
theorem layoutFrom_gap (hlast : s.last = none) (g : Bool) (ts : List Token) :
    layoutFrom o { s with gap := g } ts = layoutFrom o s ts := by
  cases ts with
  | nil => rfl
  | cons t ts =>
    have hsep : separator o { s with gap := g } t = separator o s t := by
      simp only [separator, hlast]
    rw [layoutFrom, layoutFrom, hsep]
    rfl

theorem all_space_blank (sep : String) : (blank sep).all (·.lexClass == .whitespace) = true := by
  unfold blank
  split <;> rfl

theorem significant_append (ts us : List Token) :
    significant (ts ++ us) = significant ts ++ significant us := List.filter_append _ _

theorem significant_of_all_space (h : ts.all (·.lexClass == .whitespace) = true) : significant ts = [] := by
  apply List.filter_eq_nil_iff.mpr
  intro t ht
  simpa using List.all_eq_true.mp h t ht

/-- White space can be taken off the end of a list. -/
theorem exists_core (ts : List Token) :
    ∃ core gap, ts = core ++ gap ∧ gap.all (·.lexClass == .whitespace) = true ∧
      core.getLast? = (significant ts).getLast? := by
  induction ts using List.reverseRecOn with
  | nil => exact ⟨[], [], rfl, rfl, rfl⟩
  | append_singleton ts t ih =>
    by_cases hspace : t.lexClass = .whitespace
    · obtain ⟨core, gap, rfl, hgap, hlast⟩ := ih
      refine ⟨core, gap ++ [t], by simp, by simpa [hspace] using hgap, ?_⟩
      have hnone : significant [t] = [] := significant_of_all_space (by simp [hspace])
      rw [significant_append, hnone, List.append_nil, hlast]
    · refine ⟨ts ++ [t], [], by simp, rfl, ?_⟩
      rw [significant_append, significant_cons, if_neg hspace]
      simp [significant]

/-- White space can be taken off the start of a list. -/
theorem exists_rest (h : significant ts ≠ []) :
    ∃ gap t rest, ts = gap ++ t :: rest ∧ gap.all (·.lexClass == .whitespace) = true ∧
      t.lexClass ≠ .whitespace := by
  induction ts with
  | nil => exact absurd rfl h
  | cons t ts ih =>
    by_cases hspace : t.lexClass = .whitespace
    · rw [significant_cons, if_pos hspace] at h
      obtain ⟨gap, u, rest, rfl, hgap, hu⟩ := ih h
      exact ⟨t :: gap, u, rest, rfl, by simpa [hspace] using hgap, hu⟩
    · exact ⟨[], t, ts, rfl, rfl, hspace⟩

theorem isSpace_of_mem_spell (hts : ∀ t ∈ ts, Shape t.lexClass t.text.toList)
    (h : ts.all (·.lexClass == .whitespace) = true) : ∀ c ∈ spell ts, Text.isSpace c = true := by
  intro c hc
  obtain ⟨t, ht, hmem⟩ := List.mem_flatMap.mp hc
  have hclass : t.lexClass = .whitespace := by simpa using List.all_eq_true.mp h t ht
  exact (hclass ▸ hts t ht).isSpace_of_mem c hmem

theorem parens_of_all_space (h : ts.all (·.lexClass == .whitespace) = true) : parens ts = [] := by
  induction ts with
  | nil => rfl
  | cons t ts ih =>
    have h' : t.lexClass = .whitespace ∧ ts.all (·.lexClass == .whitespace) = true := by simpa using h
    rw [parens_cons, h'.1, ih h'.2]
    rfl

/-! ### Formatting as a layout -/

/-- When the layout is chosen anew, a text is formatted to the layout of its tokens. -/
theorem format_eq_ok_iff_layout (ho : (o.reindent || o.stripWhitespace) = true) (sql out : String) :
    format o sql = .ok out ↔
      ∃ ts, tokenize sql = .ok ts ∧ balances 0 (parens ts) = true ∧ out = layout o ts := by
  rw [format_eq_ok_iff]
  refine exists_congr fun ts => and_congr_right fun hts => ?_
  rw [spell_formatted (lexed_of_tokenize hts).1, String.ofList_toList, if_pos ho]
  exact and_congr_left fun _ => checkParensFrom_eq_ok_iff [] ts

theorem recase_placed (o : Options) (p : Position) (ts : List Token) :
    recase o (placed p ts) = recase o ts := by
  rw [recase, recase, map_placed o.textOf fun _ _ => rfl]

theorem toList_recase_append (o : Options) (ts us : List Token) :
    (recase o (ts ++ us)).toList = (recase o ts).toList ++ (recase o us).toList := by
  rw [toList_recase, toList_recase, toList_recase, List.map_append, spell_append]

/-- White space is not respelled. -/
theorem toList_recase_of_all_space (h : ts.all (·.lexClass == .whitespace) = true) :
    (recase o ts).toList = spell ts := by
  have hwritten : ts.map o.textOf = ts.map (·.text) := by
    refine List.map_congr_left fun t ht => textOf_of_not_keyword o ?_
    have hclass : t.lexClass = .whitespace := by simpa using List.all_eq_true.mp h t ht
    rw [hclass]
    rfl
  rw [recase, hwritten, String.toList_join]
  simp [spell, List.flatMap_def, Function.comp_def]

/-- Any tokens that scan as they are and spell the text will do. -/
theorem format_of_lexed {sql : String} (hts : Lexed ts) (hspell : spell ts = scanned sql)
    (hparens : balances 0 (parens ts) = true) :
    format o sql = .ok (if o.reindent || o.stripWhitespace then layout o ts else recase o ts) := by
  have hscan : tokenize sql = .ok (placed .start ts) := (tokenize_eq_ok_iff sql _).mpr ⟨ts, hts, hspell, rfl⟩
  have hcheck : checkParens (placed .start ts) = .ok () :=
    (checkParensFrom_eq_ok_iff [] _).mpr (by rwa [parens_placed])
  have hlayout : layout o (placed .start ts) = layout o ts := by
    rw [layout, layout, layoutFrom_placed (.refl _)]
  refine (format_eq_ok_iff o sql _).mpr ⟨_, hscan, hcheck, ?_⟩
  rw [spell_formatted (hts.placed _), String.ofList_toList, hlayout, recase_placed]

/-! ### A line break at the end -/

/-- No token but white space goes on with a line break. -/
theorem endsBefore_newline {k : LexClass} {w : List Char} (hshape : Shape k w) (hspace : k ≠ .whitespace) :
    endsBefore k w ['\n'] = true := by
  have hglue : glues k w '\n' = false := by
    by_cases hcomment : k = .lineComment
    · rw [hcomment]
      rfl
    · exact glues_plain hshape hspace hcomment (by simp)
  simp [endsBefore, hglue, fractionLength]

/-- White space ends a token whatever comes behind it. -/
theorem endsBefore_space_append {k : LexClass} {w gap : List Char} (hgap : ∀ c ∈ gap, Text.isSpace c = true)
    (hne : gap ≠ []) (h : endsBefore k w gap = true) (rest : List Char) :
    endsBefore k w (gap ++ rest) = true := by
  obtain ⟨c, cs, rfl⟩ := List.exists_cons_of_ne_nil hne
  have hpoint : c ≠ '.' := by
    rintro rfl
    exact absurd (hgap '.' (by simp)) (by decide)
  have hglue : glues k w c = false := by
    simp only [endsBefore, Bool.and_eq_true] at h
    simpa using h.1
  simp [endsBefore, hglue, fractionLength, hpoint]

/-- The tokens of a text with a line break behind it: only the white space at its end is another. -/
theorem exists_newline (hts : Lexed ts) (o : Options) :
    ∃ us, Lexed us ∧ spell us = spell ts ++ ['\n'] ∧ parens us = parens ts ∧
      layoutFrom o {} us = layoutFrom o {} ts ∧ recase o us = recase o ts ++ "\n" := by
  obtain ⟨core, gap, rfl, hgap, hcore⟩ := exists_core ts
  have hspace := isSpace_of_mem_spell (fun t ht => shape_of_lexed hts t (by simp [ht])) hgap
  have hspace' : ∀ c ∈ (String.ofList (spell gap ++ ['\n'])).toList, Text.isSpace c = true := by
    intro c hc
    rw [String.toList_ofList, List.mem_append, List.mem_singleton] at hc
    rcases hc with hc | rfl
    · exact hspace c hc
    · decide
  refine ⟨core ++ blank (String.ofList (spell gap ++ ['\n'])), ?_, ?_, ?_, ?_, ?_⟩
  · have hlexed : Lexed (blank (String.ofList (spell gap ++ ['\n']))) := by
      simpa using lexed_space_append hspace' .nil rfl
    refine hts.of_append_left.append hlexed fun l hl => ?_
    obtain ⟨before, rfl⟩ := List.getLast?_eq_some_iff.mp hl
    rw [spell_blank, String.toList_ofList]
    by_cases hempty : spell gap = []
    · have hclass : l.lexClass ≠ .whitespace := by
        rw [hcore] at hl
        simpa using (List.mem_filter.mp (List.mem_of_getLast? hl)).2
      rw [hempty]
      exact endsBefore_newline (shape_of_lexed hts l (by simp)) hclass
    · have hrest : Lexed (l :: gap) := by
        rw [List.append_assoc] at hts
        exact hts.of_append_right
      cases hrest with
      | cons _ hends _ => exact endsBefore_space_append hspace hempty hends _
  · simp
  · rw [parens_append, parens_append, parens_blank, parens_of_all_space hgap]
  · rw [layoutFrom_append_space hgap, layoutFrom_append_space (all_space_blank _)]
  · rw [← String.toList_inj, String.toList_append, toList_recase_append, toList_recase_append,
      toList_recase_of_all_space hgap, toList_recase_of_all_space (all_space_blank _), spell_blank,
      String.toList_ofList, List.append_assoc]
    rfl

/-- A line break behind a text shows only when white space is kept. -/
theorem format_newline {sql out : String} (hnul : '\x00' ∉ sql.toList) (h : format o sql = .ok out) :
    format o (sql ++ "\n") = .ok (if o.reindent || o.stripWhitespace then out else out ++ "\n") := by
  obtain ⟨ts, hts, hparens, rfl⟩ := (format_eq_ok_iff o sql out).mp h
  have hlexed := (lexed_of_tokenize hts).1
  obtain ⟨us, hus, hspell, hparens', hlayout, hrecase⟩ := exists_newline hlexed o
  have hscanned : spell us = scanned (sql ++ "\n") := by
    rw [hspell, spell_of_tokenize hts, scanned_eq_toList hnul, scanned_eq_toList (by simpa using hnul),
      String.toList_append]
    rfl
  have hbalanced : balances 0 (parens us) = true := by
    rw [hparens']
    exact (checkParensFrom_eq_ok_iff [] ts).mp hparens
  rw [format_of_lexed hus hscanned hbalanced, spell_formatted hlexed, String.ofList_toList, layout, hlayout,
    hrecase, ← layout]
  split <;> rfl

end SqlOutline.Layout
