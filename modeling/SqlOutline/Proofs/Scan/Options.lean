import SqlOutline.Proofs.Scan.Lexed

/-!
# What the options of a scan do

The options are looked at while the scanner runs: a token that they leave out is never added, and the text
of a word is changed as it is read.  The same comes of a scan without options whose tokens are filtered and
changed afterwards.

* `Options.select` : what the options leave of a list of tokens, in steps over the whole list;
* `select_cons_of_keeps`, `select_cons_of_not_keeps` : the same, token by token;
* `scanFrom_eq_select` : two scans, one with options and one without, go in step;
* `scan_eq_select` : the main result.
-/

namespace SqlOutline.Scan

variable {o : Options} {k : LexClass} {t : Token}

/-! ### The options as steps over a list of tokens -/

/-- What the options leave of a list of tokens.  White space goes out if it is to be skipped, then comments
if they are, and then the identifiers and keywords are written in upper case if they are to be. -/
def Options.select (o : Options) (ts : List Token) : List Token :=
  let spaced := ts.filter fun t => o.skipWhitespace = true → t.lexClass ≠ .whitespace
  let bare := spaced.filter fun t =>
    o.skipComments = true → t.lexClass ≠ .lineComment ∧ t.lexClass ≠ .blockComment
  bare.map fun t =>
    if o.upperCase = true ∧ (t.lexClass = .identifier ∨ t.lexClass.isKeyword = true) then
      { t with text := Text.upper t.text }
    else t

theorem keeps_iff : o.keeps k = true ↔
    (o.skipComments = true → k ≠ .lineComment ∧ k ≠ .blockComment) ∧
      (o.skipWhitespace = true → k ≠ .whitespace) := by
  cases k <;> simp [Options.keeps]

/-- The options decide about every token by itself. -/
theorem select_eq (o : Options) (ts : List Token) : o.select ts =
    (ts.filter fun t => o.keeps t.lexClass).map fun t => { t with text := o.textOf t.lexClass t.text } := by
  have htext : ∀ t : Token, (if o.upperCase = true ∧
      (t.lexClass = .identifier ∨ t.lexClass.isKeyword = true) then { t with text := Text.upper t.text }
      else t) = { t with text := o.textOf t.lexClass t.text } := by
    intro t
    simp only [Options.textOf, Bool.and_eq_true, Bool.or_eq_true, beq_iff_eq]
    split <;> rfl
  unfold Options.select
  simp only [htext, List.filter_filter]
  congr 2
  funext t
  rw [Bool.eq_iff_iff, keeps_iff, Bool.and_eq_true, decide_eq_true_eq, decide_eq_true_eq]

theorem select_cons_of_keeps (h : o.keeps t.lexClass = true) (ts : List Token) :
    o.select (t :: ts) = { t with text := o.textOf t.lexClass t.text } :: o.select ts := by
  rw [select_eq, select_eq, List.filter_cons, if_pos h, List.map_cons]

theorem select_cons_of_not_keeps (h : ¬ o.keeps t.lexClass = true) (ts : List Token) :
    o.select (t :: ts) = o.select ts := by
  rw [select_eq, select_eq, List.filter_cons, if_neg h]

theorem textOf_endOfText (o : Options) (text : String) : o.textOf .endOfText text = text := by
  simp [Options.textOf, LexClass.isKeyword]

theorem mem_select_iff {ts : List Token} : t ∈ o.select ts ↔
    ∃ u ∈ ts, o.keeps u.lexClass = true ∧ { u with text := o.textOf u.lexClass u.text } = t := by
  rw [select_eq, List.mem_map]
  simp only [List.mem_filter, and_assoc]

/-- No option touches an end-of-text token. -/
theorem mem_select_endOfText_iff {ts : List Token} {text : String} {p : Position} :
    (⟨.endOfText, text, p⟩ : Token) ∈ o.select ts ↔ ⟨.endOfText, text, p⟩ ∈ ts := by
  rw [mem_select_iff]
  constructor
  · rintro ⟨⟨k, u, q⟩, hu, -, hsame⟩
    obtain ⟨rfl, rfl, rfl⟩ := Token.mk.inj hsame
    rwa [textOf_endOfText]
  · intro hmem
    exact ⟨_, hmem, rfl, by rw [textOf_endOfText]⟩

/-! ### Scans in step -/

/-- A scan with options is the scan without them, of which the options leave a part. -/
theorem scanFrom_eq_select (o : Options) (p : Position) (cs : List Char) :
    scanFrom o p cs = ⟨o.select (scanFrom {} p cs).tokens, (scanFrom {} p cs).error⟩ := by
  fun_induction scanFrom o p cs with
  | case1 p =>
    rw [scanFrom, select_cons_of_keeps rfl, textOf_endOfText]
    rfl
  | case2 p c cs fault hlex =>
    rw [scanFrom, hlex]
    rfl
  | case3 p c cs k n hlex slice rest hkept ih =>
    rw [scanFrom, hlex]
    simp only [keeps_all, if_true]
    rw [select_cons_of_keeps hkept]
    simp only [rest, ih]
    rfl
  | case4 p c cs k n hlex slice rest hdropped ih =>
    rw [scanFrom, hlex]
    simp only [keeps_all, if_true]
    rw [select_cons_of_not_keeps hdropped]
    exact ih

/-! ### The main result -/

/-- **Options only filter and recase.**  A scan with options gives the tokens of the scan without options,
less the white space and the comments that are to be skipped, and with identifiers and keywords in upper case
if that is asked for.  Classes and places are those of the scan without options, and so is the end-of-text
token.  Both scans end with the same error at the same place, or both without one. -/
theorem scan_eq_select (o : Options) (sql : String) :
    (scan o sql).tokens = o.select (scan {} sql).tokens ∧
      (∀ text p, ⟨.endOfText, text, p⟩ ∈ (scan o sql).tokens ↔
        ⟨.endOfText, text, p⟩ ∈ (scan {} sql).tokens) ∧
      (scan o sql).error = (scan {} sql).error := by
  have hscan : scan o sql = ⟨o.select (scan {} sql).tokens, (scan {} sql).error⟩ :=
    scanFrom_eq_select o .start (scanned sql)
  rw [hscan]
  exact ⟨rfl, fun _ _ => mem_select_endOfText_iff, rfl⟩

/-- The upper case form of this word is a byte shorter, which moves neither the error nor its place. -/
theorem scan_eq_select_shorter :
    (scan ⟨true, true, true⟩ "ⱥ /* b */ 'c").tokens = [⟨.identifier, "Ⱥ", ⟨1, 1, 0⟩⟩] ∧
      (scan ⟨true, true, true⟩ "ⱥ /* b */ 'c").error = some ⟨.unterminatedString, ⟨1, 11, 12⟩⟩ :=
  ⟨(scan_eq_select _ _).1.trans (by decide +kernel), (scan_eq_select _ _).2.2.trans (by decide +kernel)⟩

end SqlOutline.Scan
