import SqlOutline.Proofs.Layout.Formatted

/-!
# Formatting keeps the tokens

Formatting chooses white space and the spelling of keywords, and scanning the result gives back every other
token.  The one thing that can go wrong is a point that white space separates from a number: the white
space goes, and the two become one literal.

* `significant` : the tokens that are no white space;
* `hasRun` : three tokens in a row with given properties;
* `fuse_arrangeFrom` : without a separated point and number nothing is put together;
* `format_keeps_tokens` : the main result.
-/

namespace SqlOutline.Layout

open Scan Token

variable {o : Options} {s : State} {t : Token} {ts : List Token}

/-! ### Runs of three tokens -/

/-- The tokens that are no white space. -/
def significant (ts : List Token) : List Token := ts.filter (·.lexClass != .whitespace)

/-- Whether the first three tokens have the given properties. -/
def startsRun (p q r : Token → Bool) : List Token → Bool
  | a :: b :: c :: _ => p a && q b && r c
  | _ => false

/-- Whether three tokens in a row have the given properties. -/
def hasRun (p q r : Token → Bool) : List Token → Bool
  | [] => false
  | t :: ts => startsRun p q r (t :: ts) || hasRun p q r ts

/-- Whether white space separates a point from a number that starts with a digit. -/
def splitsFraction (ts : List Token) : Bool :=
  hasRun (·.lexClass == .dot) (·.lexClass == .whitespace) startsWithDigit ts

theorem startsRun_congr {p q r : Token → Bool} {ts us : List Token}
    (h : ts.map (fun t => (p t, q t, r t)) = us.map fun t => (p t, q t, r t)) :
    startsRun p q r ts = startsRun p q r us := by
  have hlen : ts.length = us.length := by simpa using congrArg List.length h
  rcases ts with _ | ⟨a, _ | ⟨b, _ | ⟨c, ts⟩⟩⟩ <;> rcases us with _ | ⟨a', _ | ⟨b', _ | ⟨c', us⟩⟩⟩
  case cons.cons.cons.cons.cons.cons =>
    simp only [List.map_cons, List.cons.injEq, Prod.mk.injEq] at h
    obtain ⟨⟨hp, -, -⟩, ⟨-, hq, -⟩, ⟨-, -, hr⟩, -⟩ := h
    simp only [startsRun, hp, hq, hr]
  all_goals first | rfl | simp at hlen

/-- Only the properties themselves matter. -/
theorem hasRun_congr {p q r : Token → Bool} {ts us : List Token}
    (h : ts.map (fun t => (p t, q t, r t)) = us.map fun t => (p t, q t, r t)) :
    hasRun p q r ts = hasRun p q r us := by
  induction ts generalizing us with
  | nil =>
    have hus : us = [] := by simpa using h.symm
    rw [hus]
  | cons t ts ih =>
    cases us with
    | nil => cases h
    | cons u us =>
      obtain ⟨hhead, htail⟩ := List.cons.inj h
      simp only [hasRun, startsRun_congr h, ih htail]

theorem map_trimLast {α : Type} {f : Token → α} (hf : ∀ t, f (trimComment t) = f t)
    (ts : List Token) : (trimLast ts).map f = ts.map f := by
  induction ts with
  | nil => rfl
  | cons t ts ih =>
    unfold trimLast
    split
    · simp [hf]
    · simp [ih]

theorem splitsFraction_trimLast (ts : List Token) : splitsFraction (trimLast ts) = splitsFraction ts := by
  apply hasRun_congr
  apply map_trimLast
  intro t
  simp [startsWithDigit_trimComment]

/-! ### Significant tokens -/

theorem significant_cons (t : Token) (ts : List Token) :
    significant (t :: ts) =
      if t.lexClass = .whitespace then significant ts else t :: significant ts := by
  unfold significant
  by_cases hspace : t.lexClass = .whitespace
  · rw [if_pos hspace, List.filter_cons_of_neg (by simp [hspace])]
  · rw [if_neg hspace, List.filter_cons_of_pos (by simpa using hspace)]

theorem significant_blank_append (sep : String) (ts : List Token) :
    significant (blank sep ++ ts) = significant ts := by
  unfold blank
  split
  · rfl
  · simp [significant]

theorem significant_arrangeFrom (o : Options) (s : State) (ts : List Token) :
    significant (arrangeFrom o s ts) = (significant ts).map o.written := by
  induction ts generalizing s with
  | nil => rfl
  | cons t ts ih =>
    unfold arrangeFrom
    split
    · rename_i hspace
      rw [ih, significant_cons, if_pos hspace]
    · rename_i hspace
      rw [significant_blank_append, significant_cons, significant_cons, written_lexClass, if_neg hspace,
        if_neg hspace, ih]
      rfl

theorem significant_map_written (o : Options) (ts : List Token) :
    significant (ts.map o.written) = (significant ts).map o.written := by
  simp [significant, List.filter_map, Function.comp_def]

theorem all_significant (ts : List Token) :
    (significant ts).all (·.lexClass == .whitespace) = ts.all (·.lexClass == .whitespace) := by
  induction ts with
  | nil => rfl
  | cons t ts ih =>
    rw [significant_cons]
    split
    · rename_i hspace
      rw [ih, List.all_cons, hspace]
      rfl
    · rw [List.all_cons, List.all_cons, ih]

theorem map_significant_placed {α : Type} (f : Token → α) (hf : ∀ t p, f { t with pos := p } = f t)
    (p : Position) (ts : List Token) :
    (significant (placed p ts)).map f = (significant ts).map f := by
  induction ts generalizing p with
  | nil => rfl
  | cons t ts ih =>
    rw [placed, significant_cons, significant_cons]
    split
    · exact ih _
    · rw [List.map_cons, List.map_cons, hf, ih]

/-- The last significant token is the last token that is trimmed. -/
theorem significant_trimLast (ts : List Token) :
    significant (trimLast ts) = trimLast (significant ts) := by
  induction ts with
  | nil => rfl
  | cons t ts ih =>
    by_cases hall : ts.all (·.lexClass == .whitespace) = true
    · have hnil : significant ts = [] := by
        apply List.filter_eq_nil_iff.mpr
        intro u hu
        simpa using List.all_eq_true.mp hall u hu
      rw [trimLast, if_pos hall, significant_cons, significant_cons, trimComment_lexClass, hnil]
      split
      · rfl
      · simp [trimLast]
    · rw [trimLast, if_neg hall, significant_cons, significant_cons]
      split
      · exact ih
      · rw [trimLast, all_significant, if_neg hall, ih]

/-! ### Nothing is put together -/

/-- The first token of an arrangement, when it is no separator, was the first token of the list or stood
behind white space. -/
theorem head_arrangeFrom {n : Token} (hts : Lexed ts) (h : (arrangeFrom o s ts).head? = some n)
    (hn : n.lexClass ≠ .whitespace) :
    ∃ u us, n = o.written u ∧ (ts = u :: us ∨
      ∃ w, w.lexClass = .whitespace ∧ ts = w :: u :: us ∧ separator o { s with gap := true } u = "") := by
  have hhead : ∀ {s : State} {u : Token} {us : List Token},
      (blank (separator o s u) ++ o.written u :: us).head? = some n →
      n = o.written u ∧ separator o s u = "" := by
    intro s u us hhead
    by_cases hsep : separator o s u = ""
    · rw [blank, if_pos hsep] at hhead
      exact ⟨by simpa using hhead.symm, hsep⟩
    · rw [blank, if_neg hsep] at hhead
      have hblank : ⟨.whitespace, separator o s u, .start⟩ = n := by simpa using hhead
      rw [← hblank] at hn
      exact absurd rfl hn
  cases hts with
  | nil => cases h
  | @cons u us _ hends hus =>
    unfold arrangeFrom at h
    split at h
    · rename_i hspace
      cases hus with
      | nil => cases h
      | @cons v vs hv hvends hvs =>
        -- two tokens of white space in a row would be one
        have hvspace : v.lexClass ≠ .whitespace := by
          intro hvspace
          have hfirst := ((endsBefore_spell_cons (.cons hv hvends hvs) _ _).mp hends).1
          obtain ⟨c, w, hw⟩ := List.exists_cons_of_ne_nil hv.ne_nil
          rw [hw] at hv hfirst
          rw [hspace] at hfirst
          have hc : Text.isSpace c = false := hfirst
          rw [hv.isSpace_head_iff.mpr hvspace] at hc
          cases hc
        rw [arrangeFrom, if_neg hvspace] at h
        obtain ⟨hwritten, hsep⟩ := hhead h
        exact ⟨v, vs, hwritten, .inr ⟨u, hspace, rfl, hsep⟩⟩
    · exact ⟨u, us, (hhead h).1, .inl rfl⟩

theorem fuseWith_eq_cons (hpoint : t.lexClass = .dot → ∀ n ∈ ts.head?, startsWithDigit n = false)
    (hfraction : isWhole t = true → ∀ n ∈ ts.head?, startsWithPoint n = false) :
    fuseWith t ts = t :: ts := by
  cases ts with
  | nil => rfl
  | cons n ts =>
    rcases fuseWith_cases t n ts with ⟨hdot, hn, -⟩ | ⟨hwhole, hn, -⟩ | ⟨-, -, heq⟩
    · rw [hpoint hdot n rfl] at hn
      cases hn
    · rw [hfraction hwhole n rfl] at hn
      cases hn
    · exact heq

/-- A point stays alone when no white space separates it from a number. -/
theorem not_startsWithDigit_arrangeFrom (h : Lexed (t :: ts)) (hdot : t.lexClass = .dot)
    (hrun : splitsFraction (t :: ts) = false) :
    ∀ n ∈ (arrangeFrom o s ts).head?, startsWithDigit n = false := by
  intro n hn
  cases hdigit : startsWithDigit n with
  | false => rfl
  | true =>
    exfalso
    cases h with
    | cons _ hends hts =>
      have hclass : n.lexClass = .number := by
        simpa using (Bool.and_eq_true_iff.mp hdigit).1
      obtain ⟨u, us, rfl, hcase⟩ := head_arrangeFrom hts hn (by simp [hclass])
      rw [startsWithDigit_written] at hdigit
      rcases hcase with rfl | ⟨w, hw, rfl, -⟩
      · have hfirst := ((endsBefore_spell_cons hts _ _).mp hends).1
        rw [hdot] at hfirst
        have hnot : startsWith Char.isDigit u.text.toList = false := hfirst
        simp [startsWithDigit, hnot] at hdigit
      · simp [splitsFraction, hasRun, startsRun, hdot, hw, hdigit] at hrun

/-- A whole number stays alone: no fraction stands right after it, and white space in between is kept. -/
theorem not_startsWithPoint_arrangeFrom (h : Lexed (t :: ts)) (hwhole : isWhole t = true) :
    ∀ n ∈ (arrangeFrom o (s.after o t) ts).head?, startsWithPoint n = false := by
  intro n hn
  have ht : t.lexClass = .number ∧ t.text.toList.all Char.isDigit = true :=
    ⟨by simpa using (Bool.and_eq_true_iff.mp hwhole).1, (Bool.and_eq_true_iff.mp hwhole).2⟩
  cases hpoint : startsWithPoint n with
  | false => rfl
  | true =>
    exfalso
    cases h with
    | cons _ hends hts =>
      have hclass : n.lexClass = .number := by
        simpa using (Bool.and_eq_true_iff.mp hpoint).1
      obtain ⟨u, us, rfl, hcase⟩ := head_arrangeFrom hts hn (by simp [hclass])
      rw [startsWithPoint_written] at hpoint
      rcases hcase with rfl | ⟨w, hw, rfl, hsep⟩
      · rw [((endsBefore_spell_cons hts _ _).mp hends).2 ht.1 ht.2] at hpoint
        cases hpoint
      · have hu : u.lexClass = .number := hclass
        rcases separator_eq_empty (l := t) rfl hsep with hgap | hmem | hmem
        · cases hgap
        · simp [hu] at hmem
        · simp [ht.1] at hmem

/-- Without a separated point and number, nothing is put together. -/
theorem fuse_arrangeFrom (h : Lexed ts) (hrun : splitsFraction ts = false) :
    fuse (arrangeFrom o s ts) = arrangeFrom o s ts := by
  induction h generalizing s with
  | nil => rfl
  | @cons t ts hshape hends hts ih =>
    have hrest : splitsFraction ts = false := by
      simpa [splitsFraction] using (Bool.or_eq_false_iff.mp hrun).2
    unfold arrangeFrom
    split
    · exact ih hrest
    · rw [fuse_blank_append, fuse_cons, ih hrest]
      congr 1
      refine fuseWith_eq_cons (fun hdot => ?_) fun hwhole => ?_
      · exact not_startsWithDigit_arrangeFrom (.cons hshape hends hts) hdot hrun
      · have hwhole' : isWhole t = true := by
          have hclass : t.lexClass = .number := by
            simpa using (Bool.and_eq_true_iff.mp hwhole).1
          have htext := textOf_of_not_keyword o (t := t) (by simp [hclass, LexClass.isKeyword])
          simpa [isWhole, htext] using hwhole
        exact not_startsWithPoint_arrangeFrom (.cons hshape hends hts) hwhole'

/-! ### The main result -/

/-- **Formatting keeps the tokens.**  A formatted text scans without an error, and its significant tokens
are those of the source: the same classes in the same order, keywords in the chosen spelling, everything
else unchanged.  Only when the layout is chosen anew, a line comment at the very end loses the white space
at its end. -/
theorem format_keeps_tokens (o : Options) (sql out : String) (h : format o sql = .ok out) :
    ∃ ts us, tokenize sql = .ok ts ∧ tokenize out = .ok us ∧ (splitsFraction ts = false →
      (significant us).map (fun u => (u.lexClass, u.text)) =
        (if o.reindent || o.stripWhitespace then trimLast (significant ts) else significant ts).map
          fun t => (t.lexClass, if t.lexClass.isKeyword then o.keywordCase.apply t.text else t.text)) := by
  obtain ⟨ts, hts, -, rfl⟩ := (format_eq_ok_iff o sql out).mp h
  refine ⟨ts, placed .start (formatted o ts), hts, tokenize_spell_formatted hts o, fun hpoint => ?_⟩
  have hlexed := (lexed_of_tokenize hts).1
  rw [map_significant_placed _ fun _ _ => rfl]
  unfold formatted
  split
  · rw [fuse_arrangeFrom (lexed_trimLast hlexed) (by rw [splitsFraction_trimLast, hpoint]),
      significant_arrangeFrom, significant_trimLast, List.map_map]
    rfl
  · rw [significant_map_written, List.map_map]
    rfl

theorem format_keeps_tokens_query :
    ∃ ts us, format {} "select a . b,1.5 -- c " = .ok "SELECT a.b, 1.5 -- c" ∧
      tokenize "select a . b,1.5 -- c " = .ok ts ∧ splitsFraction ts = false ∧
      tokenize "SELECT a.b, 1.5 -- c" = .ok us ∧
      (significant us).map (fun u => (u.lexClass, u.text)) =
        [(.keyword .SELECT, "SELECT"), (.identifier, "a"), (.dot, "."), (.identifier, "b"), (.comma, ","),
          (.number, "1.5"), (.lineComment, "-- c")] := by
  have hformat : format {} "select a . b,1.5 -- c " = .ok "SELECT a.b, 1.5 -- c" := by decide +kernel
  have hscan : tokenize "select a . b,1.5 -- c " =
      .ok [⟨.keyword .SELECT, "select", ⟨1, 1, 0⟩⟩, ⟨.whitespace, " ", ⟨1, 7, 6⟩⟩,
        ⟨.identifier, "a", ⟨1, 8, 7⟩⟩, ⟨.whitespace, " ", ⟨1, 9, 8⟩⟩, ⟨.dot, ".", ⟨1, 10, 9⟩⟩,
        ⟨.whitespace, " ", ⟨1, 11, 10⟩⟩, ⟨.identifier, "b", ⟨1, 12, 11⟩⟩, ⟨.comma, ",", ⟨1, 13, 12⟩⟩,
        ⟨.number, "1.5", ⟨1, 14, 13⟩⟩, ⟨.whitespace, " ", ⟨1, 17, 16⟩⟩,
        ⟨.lineComment, "-- c ", ⟨1, 18, 17⟩⟩] := by decide +kernel
  obtain ⟨ts, us, hts, hus, hmap⟩ := format_keeps_tokens {} _ _ hformat
  obtain rfl := Except.ok.inj (hscan.symm.trans hts)
  exact ⟨_, us, hformat, hts, by decide +kernel, hus,
    (hmap (by decide +kernel)).trans (by decide +kernel)⟩

end SqlOutline.Layout
