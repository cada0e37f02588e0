import SqlOutline.Proofs.Layout.Idempotence
import SqlOutline.Proofs.Piece.Acceptance

/-!
# Formatting and grouping accept the same texts

A text is formatted exactly when it can be grouped into statements, and both refuse it for the same reason.
The formatted text is grouped into as many statements: what formatting adds, drops and puts together is
white space, points and numbers, and none of these ends a statement or decides alone whether there is one.

* `format_eq_error_iff` : formatting refuses a text for its tokens and parentheses only;
* `statementsFrom_formatted` : formatting keeps the number of statements;
* `format_accepts_as_parse` : the main result.
-/

namespace SqlOutline.Layout

open Scan Token Statement

variable {o : Options} {s : State} {t : Token} {ts us : List Token}

/-! ### Refused texts -/

theorem format_eq_error_iff (o : Options) (sql : String) (e : MalformedSql) :
    format o sql = .error e ↔ balancedTokens sql = .error e := by
  unfold format
  cases hb : balancedTokens sql with
  | error e' =>
    show Except.error e' = .error e ↔ _
    simp
  | ok ts =>
    show Except.ok _ = .error e ↔ _
    simp

/-- The tokens of a formatted text are complete and its parentheses match. -/
theorem balancedTokens_format {sql out : String} (h : format o sql = .ok out) :
    ∃ ts, balancedTokens sql = .ok ts ∧ balancedTokens out = .ok (placed .start (formatted o ts)) := by
  obtain ⟨ts, hts, hparens, rfl⟩ := (format_eq_ok_iff o sql out).mp h
  refine ⟨ts, (balancedTokens_eq_ok_iff _ _).mpr ⟨hts, hparens⟩, ?_⟩
  refine (balancedTokens_eq_ok_iff _ _).mpr ⟨tokenize_spell_formatted hts o, ?_⟩
  exact (checkParens_congr (by rw [parens_placed, parens_formatted])).mpr hparens

/-! ### The number of statements -/

variable {depth : Nat} {begun : Bool}

/-- Only the classes of the tokens matter. -/
theorem statementsFrom_congr (h : ts.map (·.lexClass) = us.map (·.lexClass)) :
    statementsFrom depth begun ts = statementsFrom depth begun us := by
  induction ts generalizing depth begun us with
  | nil =>
    have hus : us = [] := by simpa using h.symm
    rw [hus]
  | cons t ts ih =>
    cases us with
    | nil => cases h
    | cons u us =>
      obtain ⟨hhead, htail⟩ := List.cons.inj h
      have hclass : t.lexClass = u.lexClass := hhead
      have hdepth : depthAfter depth t = depthAfter depth u := by
        unfold depthAfter
        rw [hclass]
      rw [statementsFrom, statementsFrom, hclass, hdepth, ih htail, ih htail]

theorem statementsFrom_space (ht : t.lexClass = .whitespace) :
    statementsFrom depth begun (t :: ts) = statementsFrom depth begun ts := by
  rw [statementsFrom, if_neg (by simp [ht]), depthAfter_other (by simp [ht]) (by simp [ht]), ht]
  show statementsFrom depth (begun || false) ts = _
  rw [Bool.or_false]

/-- A point or number leaves a statement that has begun. -/
theorem statementsFrom_numeric (ht : isNumeric t = true) :
    statementsFrom depth begun (t :: ts) = statementsFrom depth true ts := by
  have hplain : t.lexClass ≠ .semicolon ∧ t.lexClass ≠ .openParen ∧ t.lexClass ≠ .closeParen ∧
      t.lexClass.isTrivia = false := by
    rcases isNumeric_cases ht with hclass | hclass
    · rw [hclass]
      decide
    · rw [hclass]
      decide
  obtain ⟨hsemicolon, hopen, hclose, htrivia⟩ := hplain
  rw [statementsFrom, if_neg (fun h => hsemicolon h.1), depthAfter_other hopen hclose, htrivia]
  show statementsFrom depth (begun || true) ts = _
  rw [Bool.or_true]

theorem statementsFrom_blank (sep : String) :
    statementsFrom depth begun (blank sep ++ ts) = statementsFrom depth begun ts := by
  unfold blank
  split
  · rfl
  · exact statementsFrom_space rfl

theorem statementsFrom_takePoint {n : Token} (hn : n.lexClass = .number) :
    statementsFrom depth begun (takePoint n ++ ts) = statementsFrom depth true ts := by
  have hnumeric : ∀ text, isNumeric { n with text := text } = true := by
    intro text
    simp [isNumeric, hn]
  unfold takePoint
  dsimp only
  split
  · rw [List.cons_append, List.singleton_append, statementsFrom_numeric (hnumeric _),
      statementsFrom_numeric (hnumeric _)]
  · rw [List.singleton_append, statementsFrom_numeric (hnumeric _)]

theorem statementsFrom_fuseWith (t : Token) (ts : List Token) :
    statementsFrom depth begun (fuseWith t ts) = statementsFrom depth begun (t :: ts) := by
  cases ts with
  | nil => rfl
  | cons n ts =>
    rcases fuseWith_cases t n ts with ⟨hdot, hn, heq⟩ | ⟨ht, hn, heq⟩ | ⟨-, -, heq⟩
    · have hclass : n.lexClass = .number := by
        simpa using (Bool.and_eq_true_iff.mp hn).1
      rw [heq, statementsFrom_takePoint hclass, statementsFrom_numeric (by simp [isNumeric, hdot]),
        statementsFrom_numeric (by simp [isNumeric, hclass])]
    · have hclass : n.lexClass = .number := by
        simpa using (Bool.and_eq_true_iff.mp hn).1
      have hclass' : t.lexClass = .number := by
        simpa using (Bool.and_eq_true_iff.mp ht).1
      rw [heq, statementsFrom_numeric (by simp [isNumeric, hclass']),
        statementsFrom_numeric (by simp [isNumeric, hclass']),
        statementsFrom_numeric (by simp [isNumeric, hclass])]
    · rw [heq]

theorem statementsFrom_fuse (ts : List Token) :
    statementsFrom depth begun (fuse ts) = statementsFrom depth begun ts := by
  induction ts generalizing depth begun with
  | nil => rfl
  | cons t ts ih => rw [fuse_cons, statementsFrom_fuseWith, statementsFrom, statementsFrom, ih, ih]

theorem statementsFrom_arrangeFrom (o : Options) (s : State) (ts : List Token) :
    statementsFrom depth begun (arrangeFrom o s ts) = statementsFrom depth begun ts := by
  induction ts generalizing s depth begun with
  | nil => rfl
  | cons t ts ih =>
    unfold arrangeFrom
    split
    · rename_i hspace
      rw [ih, statementsFrom_space hspace]
    · have hdepth : depthAfter depth (o.written t) = depthAfter depth t := rfl
      rw [statementsFrom_blank, statementsFrom, statementsFrom, hdepth, ih, ih]
      rfl

/-- Formatting keeps the number of statements. -/
theorem statementsFrom_formatted (o : Options) (ts : List Token) :
    statementsFrom depth begun (formatted o ts) = statementsFrom depth begun ts := by
  unfold formatted
  split
  · rw [statementsFrom_fuse, statementsFrom_arrangeFrom]
    exact statementsFrom_congr (map_trimLast trimComment_lexClass ts)
  · apply statementsFrom_congr
    rw [List.map_map]
    rfl

/-! ### The main result -/

/-- **Formatting accepts what grouping accepts.**  Whatever the layout, a text is refused by both for the
same reason or by neither.  A formatted text can be grouped, and into as many statements as the text that it
was made from. -/
theorem format_accepts_as_parse (o : Options) (sql : String) :
    (∀ e, format o sql = .error e ↔ parse sql = .error e) ∧
      ∀ out, format o sql = .ok out → ∃ statements statements', parse sql = .ok statements ∧
        parse out = .ok statements' ∧ statements'.length = statements.length := by
  refine ⟨?_, ?_⟩
  · intro e
    rw [format_eq_error_iff, parse_eq_error_iff]
  · intro out h
    obtain ⟨ts, hsql, hout⟩ := balancedTokens_format h
    obtain ⟨statements, hparse, hlength⟩ := exists_parse hsql
    obtain ⟨statements', hparse', hlength'⟩ := exists_parse hout
    refine ⟨statements, statements', hparse, hparse', ?_⟩
    rw [hlength, hlength', length_filter_split, length_filter_split]
    calc statementsFrom 0 false (placed .start (formatted o ts))
        = statementsFrom 0 false (formatted o ts) := statementsFrom_congr (map_placed _ (fun _ _ => rfl) _ _)
      _ = statementsFrom 0 false ts := statementsFrom_formatted o ts

theorem format_accepts_as_parse_fused :
    ∃ statements statements', format {} "select a, . 5; ; -- c" = .ok "SELECT a,.5;\n\n;\n\n-- c" ∧
      parse "select a, . 5; ; -- c" = .ok statements ∧
      parse "SELECT a,.5;\n\n;\n\n-- c" = .ok statements' ∧ statements'.length = statements.length ∧
      (format {} "select (1" = .error (.parens (.unmatchedOpen ⟨1, 8, 7⟩)) ↔
        parse "select (1" = .error (.parens (.unmatchedOpen ⟨1, 8, 7⟩))) := by
  have hformat : format {} "select a, . 5; ; -- c" = .ok "SELECT a,.5;\n\n;\n\n-- c" := by decide +kernel
  obtain ⟨statements, statements', hparse, hparse', hlength⟩ :=
    (format_accepts_as_parse {} _).2 _ hformat
  exact ⟨statements, statements', hformat, hparse, hparse', hlength, (format_accepts_as_parse {} _).1 _⟩

end SqlOutline.Layout
