import SqlOutline.Command.Basic
import SqlOutline.Proofs.Layout.Idempotence
import SqlOutline.Proofs.Layout.Joined
import SqlOutline.Proofs.Result

/-!
# Checking what was printed

The format command prints a text with a line break behind it.  Checking that output forgets white space at
both ends of the input, but not at the ends of what the input is formatted to, so the check fails whenever
white space is kept, and otherwise when formatting again changes the text.

* `trim_layout_newline`, `trim_ne_newline` : what trimming does to a printed text, and never gives;
* `readSql_eq_ok_iff`, `formatted_eq_ok_iff` : when the format command has something to show;
* `printed_of_format`, `error_of_check` : what printing and checking make of it;
* `check_printed` : which printed texts are accepted.
-/

namespace SqlOutline

open Scan Token Layout

/-! ### White space at the ends of a printed text -/

namespace Layout

variable {o : Options} {ts : List Token}

theorem trimList_newline {cs : List Char} (h : startsWith Text.isSpace cs = false) :
    Text.trimList (cs ++ ['\n']) = Text.dropEndWhile Text.isSpace cs := by
  cases cs with
  | nil => decide
  | cons c cs =>
    rw [trimList_of_startsWith (by rwa [List.cons_append])]
    exact List.rdropWhile_concat_pos Text.isSpace _ _ (by decide)

/-- A layout is trimmed, so a line break behind it is all that is taken away. -/
theorem trim_layout_newline (hts : Lexed ts) (o : Options) : Text.trim (layout o ts ++ "\n") = layout o ts := by
  have htrim := trimList_layoutFrom (o := o) (shape_of_lexed hts)
  have hstart : startsWith Text.isSpace (layoutFrom o {} (trimLast ts)) = false :=
    startsWith_isSpace_layoutFrom (shape_of_lexed (lexed_trimLast hts)) rfl
  have hagain : Text.dropEndWhile Text.isSpace (layoutFrom o {} (trimLast ts)) =
      layoutFrom o {} (trimLast ts) := by
    rw [layoutFrom_trimLast (shape_of_lexed hts)]
    exact List.rdropWhile_idempotent Text.isSpace _
  rw [Text.trim, String.toList_append, layout, String.toList_ofList, htrim]
  exact congrArg String.ofList ((trimList_newline hstart).trans hagain)

/-- No trimmed text ends with a line break. -/
theorem trim_ne_newline (sql out : String) : Text.trim sql ≠ out ++ "\n" := by
  intro h
  have hlast : Text.dropEndWhile Text.isSpace (sql.toList.dropWhile Text.isSpace) = out.toList ++ ['\n'] := by
    rw [← String.toList_ofList (l := Text.dropEndWhile _ _)]
    exact congrArg String.toList h |>.trans String.toList_append
  have hne : List.rdropWhile Text.isSpace (sql.toList.dropWhile Text.isSpace) ≠ [] := by
    show Text.dropEndWhile _ _ ≠ []
    rw [hlast]
    simp
  refine List.rdropWhile_last_not Text.isSpace _ hne ?_
  have hnewline : List.getLast _ hne = '\n' := by
    have : List.rdropWhile Text.isSpace (sql.toList.dropWhile Text.isSpace) = out.toList ++ ['\n'] := hlast
    simp [this]
  rw [hnewline]
  decide

/-- When trimming a printed text gives what formatting the printed text gives. -/
theorem trim_printed_iff (hts : Lexed ts) (o : Options) {out again : String}
    (hout : out = String.ofList (spell (formatted o ts)))
    (hagain : again = String.ofList (spell (formatted o (placed .start (formatted o ts))))) :
    Text.trim (out ++ "\n") = (if o.reindent || o.stripWhitespace then again else again ++ "\n") ↔
      ((o.reindent || o.stripWhitespace) && !straysFromComma (significant ts)) = true := by
  cases hchosen : o.reindent || o.stripWhitespace with
  | false => simpa using trim_ne_newline (out ++ "\n") again
  | true =>
    have hlayout : out = layout o ts := by
      rw [hout, spell_formatted hts, String.ofList_toList, if_pos hchosen]
    have hsame : again = out ↔ straysFromComma (significant ts) = false := by
      rw [hout, hagain, String.ofList_inj, spell_formatted_again hts, hchosen, Bool.true_and]
    have htrim : Text.trim (out ++ "\n") = out := by rw [hlayout, trim_layout_newline hts]
    rw [if_pos rfl, htrim, eq_comm, hsame]
    simp

end Layout

namespace Command

/-! ### What the format command has to show -/

theorem readSql_eq_ok_iff {ctx : Context} {s : Source} (hs : isMarkdown s.input = false) {sql : String} :
    readSql ctx s = .ok sql ↔ readSource ctx s = .ok sql ∧ Text.isBlank sql = false := by
  unfold readSql
  rw [Except.bind_eq_ok_iff]
  simp only [hs, Bool.false_eq_true, if_false]
  constructor
  · rintro ⟨text, htext, hblank⟩
    split at hblank
    · cases hblank
    · rename_i hfull
      rw [← Except.pure_eq_ok_iff.mp hblank]
      exact ⟨htext, by simpa using hfull⟩
  · rintro ⟨htext, hfull⟩
    exact ⟨sql, htext, by rw [hfull]; rfl⟩

theorem formatted_eq_ok_iff {ctx : Context} {s : Source} {choices : FormatChoices} {sql out : String} :
    formatted ctx s choices = .ok (sql, out) ↔
      ∃ o, layoutOf ctx.config choices = .ok o ∧ readSql ctx s = .ok sql ∧ Layout.format o sql = .ok out := by
  unfold formatted
  rw [Except.bind_eq_ok_iff]
  refine exists_congr fun o => and_congr_right fun _ => ?_
  rw [Except.bind_eq_ok_iff]
  constructor
  · rintro ⟨text, htext, h⟩
    obtain ⟨result, hformat, hpair⟩ := Except.bind_eq_ok_iff.mp h
    obtain ⟨rfl, rfl⟩ := Prod.mk.inj (Except.pure_eq_ok_iff.mp hpair)
    exact ⟨htext, Except.mapError_eq_ok_iff.mp hformat⟩
  · rintro ⟨hsql, hformat⟩
    refine ⟨sql, hsql, Except.bind_eq_ok_iff.mpr ⟨out, ?_, rfl⟩⟩
    exact Except.mapError_eq_ok_iff.mpr hformat

/-- A format command that succeeds prints the formatted text with a line break behind it. -/
theorem printed_of_format {ctx : Context} {s : Source} {choices : FormatChoices}
    (hcheck : choices.check = false) (h : (run ctx (.format s choices)).error = none) :
    ∃ sql out, formatted ctx s choices = .ok (sql, out) ∧
      (run ctx (.format s choices)).printed = out ++ "\n" := by
  have hrun : run ctx (.format s choices) = runFormat ctx s choices := rfl
  rw [hrun, runFormat] at h ⊢
  cases hshow : formatted ctx s choices with
  | error e =>
    rw [hshow] at h
    cases h
  | ok pair =>
    refine ⟨pair.1, pair.2, rfl, ?_⟩
    simp [hcheck, Outcome.printed]

/-- A check compares the trimmed input with the formatted text. -/
theorem error_of_check {ctx : Context} {s : Source} {choices : FormatChoices} {sql out : String}
    (hcheck : choices.check = true) (h : formatted ctx s choices = .ok (sql, out)) :
    (run ctx (.format s choices)).error = if Text.trim sql = out then none else some .notFormatted := by
  have hrun : run ctx (.format s choices) = runFormat ctx s choices := rfl
  rw [hrun, runFormat, h]
  simp only [hcheck, if_true]
  split <;> rfl

/-! ### The main result -/

/-- **Which printed texts the check accepts.**  A text that the format command printed, and that is not blank,
can be checked under the same choices.  It is accepted unless white space is kept or the text that it was made
from has a comma, a point and a number that starts with a digit next to each other. -/
theorem check_printed (ctx ctx' : Context) (s s' : Source) (choices : FormatChoices) (printed : String)
    (hconfig : ctx'.config = ctx.config) (hs : isMarkdown s.input = false) (hs' : isMarkdown s'.input = false)
    (hformat : (run ctx (.format s { choices with check := false })).error = none)
    (hprinted : (run ctx (.format s { choices with check := false })).printed = printed)
    (hblank : Text.isBlank printed = false) (hread : readSource ctx' s' = .ok printed) :
    ∃ o sql ts, layoutOf ctx.config choices = .ok o ∧ readSource ctx s = .ok sql ∧ tokenize sql = .ok ts ∧
      (run ctx' (.format s' { choices with check := true })).error =
        if (o.reindent || o.stripWhitespace) && !straysFromComma (significant ts) then none
        else some .notFormatted := by
  obtain ⟨sql, out, hshow, hout⟩ := printed_of_format rfl hformat
  obtain rfl : out ++ "\n" = printed := hout.symm.trans hprinted
  obtain ⟨o, ho, hsql, hformatted⟩ := formatted_eq_ok_iff.mp hshow
  obtain ⟨ts, hts, hparens, rfl⟩ := (format_eq_ok_iff o sql out).mp hformatted
  obtain ⟨hlexed, hnul⟩ := lexed_of_tokenize hts
  have hnul' : '\x00' ∉ (String.ofList (spell (Layout.formatted o ts))).toList := by
    rw [String.toList_ofList]
    exact fun hmem => ne_nul_formatted hlexed hnul o _ hmem rfl
  -- the printed text without its line break is formatted again
  have hagain : Layout.format o (String.ofList (spell (Layout.formatted o ts))) =
      .ok (String.ofList (spell (Layout.formatted o (placed .start (Layout.formatted o ts))))) := by
    refine (format_eq_ok_iff o _ _).mpr ⟨_, tokenize_spell_formatted hts o, ?_, rfl⟩
    exact (checkParens_congr (by rw [parens_placed, parens_formatted])).mpr hparens
  have hshow' : formatted ctx' s' { choices with check := true } = .ok (_, _) :=
    formatted_eq_ok_iff.mpr ⟨o, hconfig ▸ ho, (readSql_eq_ok_iff hs').mpr ⟨hread, hblank⟩,
      format_newline hnul' hagain⟩
  refine ⟨o, sql, ts, ho, ((readSql_eq_ok_iff hs).mp hsql).1, hts, ?_⟩
  rw [error_of_check rfl hshow']
  exact if_congr (trim_printed_iff hlexed o rfl rfl) rfl rfl

/-- The standard configuration, but with white space kept. -/
def keeping : Config :=
  { Config.standard with
    formatter := { reindent := some false, keywordCase := "upper", stripWhitespace := some false } }

/-- Both exceptions occur. -/
theorem check_printed_rejected :
    (run { config := .standard, stdin := "select a, . 5 from t" } (.format {} {})).printed =
        "SELECT a,.5\nFROM t\n" ∧
      (run { config := .standard, stdin := "SELECT a,.5\nFROM t\n" } (.format {} { check := true })).error =
        some .notFormatted ∧
      (run { config := keeping, stdin := "select 1" } (.format {} {})).printed = "SELECT 1\n" ∧
      (run { config := keeping, stdin := "SELECT 1\n" } (.format {} { check := true })).error =
        some .notFormatted := by
  have hstray : (tokenize "select a, . 5 from t").toOption.map (fun ts => straysFromComma (significant ts)) =
      some true := by decide +kernel
  have hformat : (run { config := .standard, stdin := "select a, . 5 from t" } (.format {} {})).error = none :=
    Option.isNone_iff_eq_none.mp (by decide +kernel)
  have hprinted : (run { config := .standard, stdin := "select a, . 5 from t" } (.format {} {})).printed =
      "SELECT a,.5\nFROM t\n" := by decide +kernel
  have hformat' : (run { config := keeping, stdin := "select 1" } (.format {} {})).error = none :=
    Option.isNone_iff_eq_none.mp (by decide +kernel)
  have hprinted' : (run { config := keeping, stdin := "select 1" } (.format {} {})).printed = "SELECT 1\n" := by
    decide +kernel
  refine ⟨hprinted, ?_, hprinted', ?_⟩
  · obtain ⟨o, sql, ts, -, hsql, hts, hcheck⟩ := check_printed
      { config := .standard, stdin := "select a, . 5 from t" }
      { config := .standard, stdin := "SELECT a,.5\nFROM t\n" } {} {} {} _ rfl (by decide +kernel)
      (by decide +kernel) hformat hprinted (by decide +kernel) rfl
    obtain rfl := Except.ok.inj hsql
    rw [hts] at hstray
    have hstray' : straysFromComma (significant ts) = true := Option.some.inj hstray
    rw [hcheck, hstray', Bool.not_true, Bool.and_false]
    rfl
  · obtain ⟨o, sql, ts, ho, -, -, hcheck⟩ := check_printed { config := keeping, stdin := "select 1" }
      { config := keeping, stdin := "SELECT 1\n" } {} {} {} _ rfl (by decide +kernel) (by decide +kernel)
      hformat' hprinted' (by decide +kernel) rfl
    obtain rfl := Except.ok.inj ho
    rw [hcheck]
    rfl

end Command

end SqlOutline
