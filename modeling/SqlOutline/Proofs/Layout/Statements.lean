import SqlOutline.Proofs.Layout.Joined

/-!
# Statements formatted one after the other

A text that ends with a semicolon does not reach into the text after it: both together are formatted to the
two formatted texts with an empty line between them.  One thing does reach over the semicolon.  A `BETWEEN`
whose `AND` has not come in its condition stays open, and then the first condition of the second text that
starts with `AND` is taken for that `AND` and stays on its line.

* `State.breakAt` : the place of a token in the line structure; `State.opened` : a state with an open
  `BETWEEN`;
* `breaksAtAnd` : whether an `AND` starts a line before any further `BETWEEN`;
* `opened_cases` : one token from two states that differ in the open `BETWEEN`;
* `layoutFrom_opened`, `layoutFrom_opened_differs` : the layout from two such states;
* `layoutFrom_statement`, `layoutFrom_joined`, `exists_joined` : a statement starts anew but for an open `BETWEEN`;
* `format_append_iff` : the main result.
-/

namespace SqlOutline.Layout

open Scan Token Statement

variable {o : Options} {s : State} {t : Token} {ts us : List Token}

/-! ### An open `BETWEEN` -/

/-- The place of a token in the line structure; nothing is asked of the first token. -/
def State.breakAt (o : Options) (s : State) (t : Token) : Break :=
  match s.last with
  | none => .stay
  | some last => breakBefore o s last t

/-- The state with a `BETWEEN` that waits for its `AND`. -/
def State.opened (s : State) : State := { s with betweenOpen := true }

/-- Whether a condition that starts with `AND` comes before any `BETWEEN` of a condition and starts a line
that it would not start as the `AND` of a `BETWEEN`.  After a line comment it starts a line in any case, so
that only an indentation shows. -/
def breaksAtAnd (o : Options) : State → List Token → Bool
  | _, [] => false
  | s, t :: ts =>
    if t.lexClass = .whitespace then breaksAtAnd o { s with gap := true } ts
    else
      match s.breakAt o t with
      | .between => false
      | .condition =>
        if t.lexClass = .keyword .AND then
          decide (0 < o.indentWidth) || !s.last.any (·.lexClass == .lineComment)
        else breaksAtAnd o (s.after o t) ts
      | _ => breaksAtAnd o (s.after o t) ts

/-- A token that is neither a `BETWEEN` nor an `AND` at the start of a condition is passed over. -/
theorem breaksAtAnd_cons (hspace : t.lexClass ≠ .whitespace) (hbetween : s.breakAt o t ≠ .between)
    (hand : ¬(s.breakAt o t = .condition ∧ t.lexClass = .keyword .AND)) (ts : List Token) :
    breaksAtAnd o s (t :: ts) = breaksAtAnd o (s.after o t) ts := by
  rw [breaksAtAnd, if_neg hspace]
  cases hbreak : s.breakAt o t with
  | between => exact absurd hbreak hbetween
  | condition => exact if_neg fun hclass => hand ⟨hbreak, hclass⟩
  | stay | statement | clause | betweenAnd => rfl

/-- An open `BETWEEN` changes the place of one kind of token. -/
theorem breakAt_opened (hs : s.betweenOpen = false) (t : Token) :
    s.opened.breakAt o t =
      if s.breakAt o t = .condition ∧ t.lexClass = .keyword .AND then .betweenAnd else s.breakAt o t := by
  obtain ⟨last, gap, depth, inWhere, betweenOpen⟩ := s
  obtain rfl : betweenOpen = false := hs
  cases last with
  | none => rfl
  | some l =>
    by_cases hand : t.lexClass = .keyword .AND
    · simp only [State.breakAt, State.opened, breakBefore, State.depthAt, hand, and_true]
      generalize (!o.reindent || (if LexClass.keyword .AND = .closeParen then depth - 1 else depth) != 0) = inner
      generalize isClauseStart l t = clause
      by_cases hsemicolon : l.lexClass = .semicolon
      · simp only [hsemicolon, if_true]
        cases inner <;> rfl
      · simp only [hsemicolon, if_false]
        cases inner <;> cases clause <;> cases inWhere <;> rfl
    · -- the rule for an open `BETWEEN` asks for an `AND`
      have hclass : (t.lexClass == .keyword .AND) = false := by simpa using hand
      rw [if_neg fun h => hand h.2]
      simp only [State.breakAt, State.opened, breakBefore, State.depthAt, hclass, Bool.and_false,
        Bool.false_and]

/-- Where no `BETWEEN` is open, no `AND` belongs to one. -/
theorem breakAt_ne_betweenAnd (hs : s.betweenOpen = false) : s.breakAt o t ≠ .betweenAnd := by
  unfold State.breakAt
  split
  · simp
  · simp only [breakBefore, hs, Bool.and_false, Bool.false_eq_true, if_false]
    split_ifs <;> simp

/-- The separator is decided by the place, the gap and the tokens on both sides. -/
theorem separator_opened (h : s.opened.breakAt o t = s.breakAt o t) :
    separator o s.opened t = separator o s t := by
  obtain ⟨last, gap, depth, inWhere, betweenOpen⟩ := s
  cases last with
  | none => rfl
  | some l =>
    have hbreak : breakBefore o (State.opened ⟨some l, gap, depth, inWhere, betweenOpen⟩) l t =
      breakBefore o ⟨some l, gap, depth, inWhere, betweenOpen⟩ l t := h
    simp only [separator, State.opened] at hbreak ⊢
    rw [hbreak]

/-- The state after a token, in terms of its place. -/
theorem after_eq (o : Options) (s : State) (t : Token) :
    s.after o t =
      { last := some t
        gap := false
        depth := if t.lexClass = .openParen then s.depthAt t + 1 else s.depthAt t
        inWhere :=
          match s.breakAt o t with
          | .statement => false
          | .clause => t.lexClass == .keyword .WHERE
          | _ => s.inWhere
        betweenOpen :=
          match s.breakAt o t with
          | .between => true
          | .betweenAnd => false
          | _ => s.betweenOpen } := rfl

/-- One token from a state and from the same state with an open `BETWEEN`: a `BETWEEN` or an `AND` leads to
the same state, any other token keeps the difference and is separated alike. -/
theorem opened_cases (hs : s.betweenOpen = false) (t : Token) :
    (s.breakAt o t = .between ∧ separator o s.opened t = separator o s t ∧
      s.opened.after o t = s.after o t) ∨
    (s.breakAt o t = .condition ∧ t.lexClass = .keyword .AND ∧ s.opened.breakAt o t = .betweenAnd ∧
      s.opened.after o t = s.after o t) ∨
    (s.breakAt o t ≠ .between ∧ ¬(s.breakAt o t = .condition ∧ t.lexClass = .keyword .AND) ∧
      separator o s.opened t = separator o s t ∧ s.opened.after o t = (s.after o t).opened ∧
      (s.after o t).betweenOpen = false) := by
  have hopened := breakAt_opened (o := o) hs t
  by_cases hand : s.breakAt o t = .condition ∧ t.lexClass = .keyword .AND
  · rw [if_pos hand] at hopened
    refine .inr (.inl ⟨hand.1, hand.2, hopened, ?_⟩)
    rw [after_eq, after_eq, hopened, hand.1, hs]
    rfl
  · rw [if_neg hand] at hopened
    have hsep := separator_opened hopened
    cases hbreak : s.breakAt o t with
    | between =>
      refine .inl ⟨rfl, hsep, ?_⟩
      rw [after_eq, after_eq, hopened, hbreak]
      rfl
    | betweenAnd => exact absurd hbreak (breakAt_ne_betweenAnd hs)
    | stay | statement | clause | condition =>
      rw [hbreak] at hand
      refine .inr (.inr ⟨by simp, hand, hsep, ?_, ?_⟩)
      · rw [after_eq, after_eq, hopened, hbreak]
        rfl
      · rw [after_eq, hbreak]
        exact hs

/-- An `AND` is separated differently as the `AND` of a `BETWEEN`, unless a line comment stands before it and
nothing is indented. -/
theorem separator_and (hbreak : s.breakAt o t = .condition)
    (hopened : s.opened.breakAt o t = .betweenAnd) :
    separator o s.opened t = separator o s t ↔
      (decide (0 < o.indentWidth) || !s.last.any (·.lexClass == .lineComment)) = false := by
  obtain ⟨last, gap, depth, inWhere, betweenOpen⟩ := s
  cases last with
  | none => cases hbreak
  | some l =>
    have hline : separator o ⟨some l, gap, depth, inWhere, betweenOpen⟩ t =
        "\n" ++ String.ofList (List.replicate o.indentWidth.toNat ' ') := by
      have hbreak : breakBefore o ⟨some l, gap, depth, inWhere, betweenOpen⟩ l t = .condition := hbreak
      simp only [separator, hbreak]
    have hstay : separator o (State.opened ⟨some l, gap, depth, inWhere, betweenOpen⟩) t =
        inlineSeparator gap l t := by
      have hopened : breakBefore o (State.opened ⟨some l, gap, depth, inWhere, betweenOpen⟩) l t =
        .betweenAnd := hopened
      simp only [separator, State.opened] at hopened ⊢
      rw [hopened]
    have hchars : ("\n" ++ String.ofList (List.replicate o.indentWidth.toNat ' ')).toList =
        '\n' :: List.replicate o.indentWidth.toNat ' ' := by simp
    rw [hline, hstay, ← String.toList_inj, hchars]
    by_cases hcomment : l.lexClass = .lineComment
    · have hnewline : (inlineSeparator gap l t).toList = ['\n'] := by
        rw [inlineSeparator, if_pos hcomment]
        rfl
      rw [hnewline]
      simp [hcomment]
    · have hspace : inlineSeparator gap l t = "" ∨ inlineSeparator gap l t = " " := by
        unfold inlineSeparator
        rw [if_neg hcomment]
        split_ifs <;> simp
      rcases hspace with hempty | hblank
      · simp [hempty, hcomment]
      · simp [hblank, hcomment]

/-! ### The layout after an open `BETWEEN` -/

/-- Without such an `AND` an open `BETWEEN` does not show. -/
theorem layoutFrom_opened (hs : s.betweenOpen = false) (h : breaksAtAnd o s ts = false) :
    layoutFrom o s.opened ts = layoutFrom o s ts := by
  induction ts generalizing s with
  | nil => rfl
  | cons t ts ih =>
    rw [layoutFrom, layoutFrom]
    by_cases hspace : t.lexClass = .whitespace
    · rw [breaksAtAnd, if_pos hspace] at h
      rw [if_pos hspace, if_pos hspace]
      exact ih (s := { s with gap := true }) hs h
    · rw [if_neg hspace, if_neg hspace]
      rcases opened_cases (o := o) hs t with ⟨-, hsep, hafter⟩ | ⟨hbreak, hand, hopened, hafter⟩ |
        ⟨hbetween, hnot, hsep, hafter, hclosed⟩
      · rw [hsep, hafter]
      · rw [breaksAtAnd, if_neg hspace] at h
        simp only [hbreak, hand, if_true] at h
        rw [(separator_and hbreak hopened).mpr h, hafter]
      · rw [breaksAtAnd_cons hspace hbetween hnot] at h
        rw [hsep, hafter, ih hclosed h]

/-- At such an `AND` the two layouts differ. -/
theorem layoutFrom_opened_differs (hts : ∀ t ∈ ts, Shape t.lexClass t.text.toList)
    (hs : s.betweenOpen = false) (h : breaksAtAnd o s ts = true) :
    ∃ p a b r, a ≠ b ∧ (∃ c ∈ r, Text.isSpace c = false) ∧ layoutFrom o s.opened ts = p ++ (a ++ r) ∧
      layoutFrom o s ts = p ++ (b ++ r) := by
  induction ts generalizing s with
  | nil => cases h
  | cons t ts ih =>
    have hrest : ∀ u ∈ ts, Shape u.lexClass u.text.toList := fun u hu => hts u (by simp [hu])
    rw [layoutFrom, layoutFrom]
    by_cases hspace : t.lexClass = .whitespace
    · rw [breaksAtAnd, if_pos hspace] at h
      rw [if_pos hspace, if_pos hspace]
      exact ih (s := { s with gap := true }) hrest hs h
    · rw [if_neg hspace, if_neg hspace]
      rcases opened_cases (o := o) hs t with ⟨hbreak, -, -⟩ | ⟨hbreak, hand, hopened, hafter⟩ |
        ⟨hbetween, hnot, hsep, hafter, hclosed⟩
      · rw [breaksAtAnd, if_neg hspace] at h
        simp only [hbreak] at h
        cases h
      · rw [breaksAtAnd, if_neg hspace] at h
        simp only [hbreak, hand, if_true] at h
        obtain ⟨c, w, hw, hc⟩ := isSpace_textOf_head (o := o) (hts t (by simp)) hspace
        refine ⟨[], (separator o s.opened t).toList, (separator o s t).toList,
          (o.textOf t).toList ++ layoutFrom o (s.after o t) ts, ?_, ⟨c, by simp [hw], hc⟩, ?_, ?_⟩
        · intro hsame
          have hfalse := (separator_and hbreak hopened).mp (String.toList_inj.mp hsame)
          rw [h] at hfalse
          cases hfalse
        · rw [hafter, List.nil_append, List.append_assoc]
        · rw [List.nil_append, List.append_assoc]
      · rw [breaksAtAnd_cons hspace hbetween hnot] at h
        obtain ⟨p, a, b, r, hne, hr, hfirst, hsecond⟩ := ih hrest hclosed h
        refine ⟨(separator o s t).toList ++ (o.textOf t).toList ++ p, a, b, r, hne, hr, ?_, ?_⟩
        · rw [hsep, hafter, hfirst, List.append_assoc _ p]
        · rw [hsecond, List.append_assoc _ p]

/-! ### The start of a statement -/

/-- After a semicolon outside parentheses the layout starts anew, but for an open `BETWEEN`. -/
theorem layoutFrom_statement (ho : o.reindent = true) {l : Token} (hlast : s.last = some l)
    (hl : l.lexClass = .semicolon) (hdepth : s.depth = 0) (hspace : t.lexClass ≠ .whitespace)
    (hclose : t.lexClass ≠ .closeParen) (ts : List Token) :
    layoutFrom o s (t :: ts) = '\n' :: '\n' :: layoutFrom o { betweenOpen := s.betweenOpen } (t :: ts) := by
  have hzero : s.depthAt t = 0 := by rw [State.depthAt, if_neg hclose, hdepth]
  have hbreak : s.breakAt o t = .statement := by
    simp only [State.breakAt, hlast]
    simp [breakBefore, ho, hzero, hl]
  have hsep : separator o s t = "\n\n" := by
    have hbreak' : breakBefore o s l t = .statement := by simpa [State.breakAt, hlast] using hbreak
    simp only [separator, hlast, hbreak']
  have hafter : s.after o t = State.after o { betweenOpen := s.betweenOpen } t := by
    rw [after_eq, after_eq, hbreak, hzero, State.depthAt, if_neg hclose]
    rfl
  rw [layoutFrom_cons hspace, layoutFrom_cons hspace, hsep, hafter]
  simp [separator]

/-- White space at the boundary of two statements does not show, whatever it is. -/
theorem layoutFrom_joined (ho : o.reindent = true) {core gap gap' mid : List Token} {l : Token}
    (hgap : gap.all (·.lexClass == .whitespace) = true) (hgap' : gap'.all (·.lexClass == .whitespace) = true)
    (hmid : mid.all (·.lexClass == .whitespace) = true) (hlast : (stateAfter o {} core).last = some l)
    (hl : l.lexClass = .semicolon) (hdepth : (stateAfter o {} core).depth = 0)
    (hspace : t.lexClass ≠ .whitespace) (hclose : t.lexClass ≠ .closeParen) (rest : List Token) :
    layoutFrom o {} (core ++ (mid ++ t :: rest)) = layoutFrom o {} (core ++ gap) ++
      '\n' :: '\n' :: layoutFrom o { betweenOpen := (stateAfter o {} (core ++ gap)).betweenOpen }
        (gap' ++ t :: rest) := by
  obtain ⟨g, hstate⟩ := stateAfter_of_all_space (o := o) (s := stateAfter o {} core) hgap
  obtain ⟨g', hskip⟩ := layoutFrom_space_append (o := o) (s := stateAfter o {} core) hmid (t :: rest)
  obtain ⟨g'', hskip'⟩ := layoutFrom_space_append (o := o)
    (s := { betweenOpen := (stateAfter o {} core).betweenOpen }) hgap' (t :: rest)
  rw [layoutFrom_append, hskip, layoutFrom_append_space hgap, stateAfter_append, hstate, hskip',
    layoutFrom_gap (s := { betweenOpen := (stateAfter o {} core).betweenOpen }) rfl]
  congr 1
  exact layoutFrom_statement (s := { stateAfter o {} core with gap := g' }) ho hlast hl hdepth hspace hclose rest

/-- Two texts, the first of which ends with a semicolon, have tokens together, and these are laid out as the
tokens of the first text and then as a new statement. -/
theorem exists_joined (ho : o.reindent = true) (hts : Lexed ts) (hus : Lexed us)
    (hbalanced : balances 0 (parens ts) = true) (hbalanced' : balances 0 (parens us) = true)
    (hlast : (significant ts).getLast?.map (·.lexClass) = some .semicolon) (hsome : significant us ≠ []) :
    ∃ vs, Lexed vs ∧ spell vs = spell ts ++ spell us ∧ parens vs = parens ts ++ parens us ∧
      layoutFrom o {} vs = layoutFrom o {} ts ++
        '\n' :: '\n' :: layoutFrom o { betweenOpen := (stateAfter o {} ts).betweenOpen } us := by
  obtain ⟨l, hl, hsemicolon⟩ : ∃ l, (significant ts).getLast? = some l ∧ l.lexClass = .semicolon := by
    simpa using hlast
  obtain ⟨core, gap, rfl, hgap, hcore⟩ := exists_core ts
  obtain ⟨gap', t, rest, rfl, hgap', hspace⟩ := exists_rest hsome
  -- the white space at the boundary is one token
  have hchars : ∀ c ∈ (String.ofList (spell gap ++ spell gap')).toList, Text.isSpace c = true := by
    intro c hc
    rw [String.toList_ofList] at hc
    rcases List.mem_append.mp hc with hc | hc
    · exact isSpace_of_mem_spell (shape_of_lexed hts.of_append_right) hgap c hc
    · exact isSpace_of_mem_spell (shape_of_lexed hus.of_append_left) hgap' c hc
  have hrest : Lexed (t :: rest) := hus.of_append_right
  have hstart : startsWith Text.isSpace (spell (t :: rest)) = false := by
    have ht := shape_of_lexed hrest t (by simp)
    obtain ⟨c, w, hw⟩ := List.exists_cons_of_ne_nil ht.ne_nil
    rw [hw] at ht
    rw [spell_cons, hw]
    simpa using ht.isSpace_head_iff.not.mpr hspace
  have hjoined := lexed_space_append hchars hrest hstart
  have hclose : t.lexClass ≠ .closeParen := by
    have hfront : balances 0 (parens (t :: rest)) = true := by
      rwa [parens_append, parens_of_all_space hgap', List.nil_append] at hbalanced'
    exact fun hclose => ((balances_cons 0 t rest).mp hfront).1 hclose rfl
  refine ⟨core ++ (blank (String.ofList (spell gap ++ spell gap')) ++ t :: rest), ?_, ?_, ?_, ?_⟩
  · refine hts.of_append_left.append hjoined fun l' hl' => ?_
    rw [hcore, hl] at hl'
    obtain rfl : l = l' := by simpa using hl'
    rw [hsemicolon, endsBefore_of_ne_number (by simp)]
    cases spell (blank (String.ofList (spell gap ++ spell gap')) ++ t :: rest) <;> rfl
  · simp
  · rw [parens_append, parens_append, parens_append, parens_append, parens_blank,
      parens_of_all_space hgap, parens_of_all_space hgap']
    simp
  · have hbefore : (stateAfter o {} core).last = some l := by
      rw [last_stateAfter, ← hl]
      have hnone : significant gap = [] := significant_of_all_space hgap
      rw [significant_append, hnone, List.append_nil, Option.or_none]
    have hdepth : (stateAfter o {} core).depth = 0 := by
      rw [parens_append, parens_of_all_space hgap, List.append_nil] at hbalanced
      rw [depth_stateAfter]
      exact foldl_depthAfter_of_balances hbalanced
    exact layoutFrom_joined ho hgap hgap' (all_space_blank _) hbefore hsemicolon hdepth hspace hclose rest

/-! ### The layout of a further statement -/

/-- The layout of the tokens of a text before which a `BETWEEN` may have been left open. -/
def layoutAfter (o : Options) (betweenOpen : Bool) (ts : List Token) : String :=
  String.ofList (Text.trimList (layoutFrom o { betweenOpen } ts))

/-- A `BETWEEN` that was left open shows exactly when it takes an `AND` of the text. -/
theorem layoutAfter_eq_iff (hts : ∀ t ∈ ts, Shape t.lexClass t.text.toList) (betweenOpen : Bool) :
    layoutAfter o betweenOpen ts = layout o ts ↔ (betweenOpen && breaksAtAnd o {} ts) = false := by
  cases betweenOpen with
  | false => exact ⟨fun _ => rfl, fun _ => rfl⟩
  | true =>
    have hstart := startsWith_isSpace_layoutFrom (o := o) (s := State.opened {}) hts rfl
    have hstart' := startsWith_isSpace_layoutFrom (o := o) (s := {}) hts rfl
    rw [Bool.true_and, layoutAfter, show ({ betweenOpen := true } : State) = State.opened {} from rfl,
      layout, String.ofList_inj, trimList_of_startsWith hstart, trimList_of_startsWith hstart']
    constructor
    · intro heq
      by_contra hbreak
      obtain ⟨p, a, b, r, hne, hr, hopened, hclosed⟩ :=
        layoutFrom_opened_differs (o := o) (s := {}) hts rfl (by simpa using hbreak)
      rw [hopened, hclosed, ← List.append_assoc, ← List.append_assoc, dropEndWhile_append hr,
        dropEndWhile_append hr] at heq
      exact hne (List.append_cancel_left (List.append_cancel_right heq))
    · intro hbreak
      rw [layoutFrom_opened (s := {}) rfl hbreak]

/-- The layout of tokens that end with a semicolon has no white space at its ends. -/
theorem exists_layoutFrom_semicolon (hts : ∀ t ∈ ts, Shape t.lexClass t.text.toList)
    (hlast : (significant ts).getLast?.map (·.lexClass) = some .semicolon) :
    ∃ a c, layoutFrom o {} ts = a ++ [c] ∧ Text.isSpace c = false := by
  obtain ⟨l, hl, hsemicolon⟩ : ∃ l, (significant ts).getLast? = some l ∧ l.lexClass = .semicolon := by
    simpa using hlast
  obtain ⟨core, gap, rfl, hgap, hcore⟩ := exists_core ts
  obtain ⟨before, rfl⟩ : ∃ before, core = before ++ [l] :=
    List.getLast?_eq_some_iff.mp (hcore.trans hl)
  obtain ⟨w, c, hw, hc⟩ := (shape_textOf o (hts l (by simp))).last_not_isSpace (by simp [hsemicolon])
    (by simp [hsemicolon])
  rw [layoutFrom_append_space hgap, layoutFrom_append, layoutFrom_cons (by simp [hsemicolon]), hw]
  exact ⟨layoutFrom o {} before ++ ((separator o (stateAfter o {} before) l).toList ++ w), c,
    by simp [layoutFrom], hc⟩

/-- The two layouts stand one after the other; trimming stays inside the second one. -/
theorem layout_joined {vs : List Token} {betweenOpen : Bool}
    (hts : ∀ t ∈ ts, Shape t.lexClass t.text.toList) (hus : ∀ t ∈ us, Shape t.lexClass t.text.toList)
    (hlast : (significant ts).getLast?.map (·.lexClass) = some .semicolon) (hsome : significant us ≠ [])
    (hvs : layoutFrom o {} vs = layoutFrom o {} ts ++ '\n' :: '\n' :: layoutFrom o { betweenOpen } us) :
    layout o vs = layout o ts ++ "\n\n" ++ layoutAfter o betweenOpen us := by
  obtain ⟨a, c, hfirst, hc⟩ := exists_layoutFrom_semicolon (o := o) hts hlast
  have hstart := startsWith_isSpace_layoutFrom (o := o) (s := {}) hts rfl
  have hstart' := startsWith_isSpace_layoutFrom (o := o) (s := { betweenOpen }) hus rfl
  obtain ⟨x, hx, hspace⟩ : ∃ x ∈ layoutFrom o { betweenOpen } us, Text.isSpace x = false :=
    exists_mem_layoutFrom hus (by
      cases hall : us.all (·.lexClass == .whitespace) with
      | false => rfl
      | true => exact absurd (significant_of_all_space hall) hsome)
  rw [hfirst] at hvs hstart
  have hfront : startsWith Text.isSpace
      ((a ++ [c] ++ ['\n', '\n']) ++ layoutFrom o { betweenOpen } us) = false := by
    obtain ⟨d, w, hfront⟩ : ∃ d w, a ++ [c] = d :: w := List.exists_cons_of_ne_nil (by simp)
    rw [hfront] at hstart ⊢
    exact hstart
  have hassoc : a ++ [c] ++ '\n' :: '\n' :: layoutFrom o { betweenOpen } us =
      (a ++ [c] ++ ['\n', '\n']) ++ layoutFrom o { betweenOpen } us := by simp
  rw [layout, layout, layoutAfter, hvs, hfirst, hassoc, trimList_of_startsWith hfront,
    trimList_of_startsWith hstart, trimList_of_startsWith hstart', dropEndWhile_concat a hc,
    dropEndWhile_append ⟨x, hx, hspace⟩, ← String.toList_inj]
  simp

/-! ### The main result -/

/-- **Statements are formatted one after the other, up to one case.**  Two texts that can be formatted, the
first of which ends with a semicolon, can be formatted together.  When clauses start lines of their own, this
gives the two formatted texts with an empty line between them, unless the first text leaves a `BETWEEN` open
and an `AND` of the second one starts a line before any further `BETWEEN`. -/
theorem format_append_iff (o : Options) (ho : o.reindent = true) (sql sql' out out' : String)
    (ts ts' : List Token) (hnul : '\x00' ∉ sql.toList) (hnul' : '\x00' ∉ sql'.toList)
    (h : format o sql = .ok out) (h' : format o sql' = .ok out')
    (hts : tokenize sql = .ok ts) (hts' : tokenize sql' = .ok ts')
    (hlast : (significant ts).getLast?.map (·.lexClass) = some .semicolon) (hsome : significant ts' ≠ []) :
    (∃ both, format o (sql ++ sql') = .ok both) ∧
      (format o (sql ++ sql') = .ok (out ++ "\n\n" ++ out') ↔
        ((stateAfter o {} ts).betweenOpen && breaksAtAnd o {} ts') = false) := by
  have hlayout : (o.reindent || o.stripWhitespace) = true := by rw [ho]; rfl
  obtain ⟨us, hus, hbalanced, rfl⟩ := (format_eq_ok_iff_layout hlayout sql out).mp h
  obtain rfl := Except.ok.inj (hts.symm.trans hus)
  obtain ⟨us', hus', hbalanced', rfl⟩ := (format_eq_ok_iff_layout hlayout sql' out').mp h'
  obtain rfl := Except.ok.inj (hts'.symm.trans hus')
  have hlexed := (lexed_of_tokenize hts).1
  have hlexed' := (lexed_of_tokenize hts').1
  obtain ⟨vs, hvs, hspell, hparens, hjoined⟩ :=
    exists_joined ho hlexed hlexed' hbalanced hbalanced' hlast hsome
  have hscanned : spell vs = scanned (sql ++ sql') := by
    rw [hspell, spell_of_tokenize hts, spell_of_tokenize hts', scanned_eq_toList hnul,
      scanned_eq_toList hnul', scanned_eq_toList (by simpa using ⟨hnul, hnul'⟩), String.toList_append]
  have hboth : format o (sql ++ sql') =
      .ok (layout o ts ++ "\n\n" ++ layoutAfter o (stateAfter o {} ts).betweenOpen ts') := by
    rw [← layout_joined (shape_of_lexed hlexed) (shape_of_lexed hlexed') hlast hsome hjoined]
    have hbalances : balances 0 (parens vs) = true := by
      rw [hparens]
      exact balances_append hbalanced hbalanced'
    rw [format_of_lexed hvs hscanned hbalances, if_pos hlayout]
  refine ⟨⟨_, hboth⟩, ?_⟩
  rw [hboth, Except.ok.injEq, ← layoutAfter_eq_iff (shape_of_lexed hlexed')]
  constructor
  · intro hsame
    have hchars := congrArg String.toList hsame
    simp only [String.toList_append] at hchars
    exact String.toList_inj.mp (List.append_cancel_left hchars)
  · intro hsame
    rw [hsame]

/-- The exception occurs: the second text loses the line break before its `AND`. -/
theorem format_append_iff_open :
    ∃ ts ts',
      format {} "SELECT 1 WHERE a BETWEEN LEFT(b) AND c; " =
        .ok "SELECT 1\nWHERE a BETWEEN\nLEFT(b) AND c;" ∧
      format {} "SELECT 1 WHERE d AND e" = .ok "SELECT 1\nWHERE d\n  AND e" ∧
      tokenize "SELECT 1 WHERE a BETWEEN LEFT(b) AND c; " = .ok ts ∧
      tokenize "SELECT 1 WHERE d AND e" = .ok ts' ∧
      (significant ts).getLast?.map (·.lexClass) = some .semicolon ∧ significant ts' ≠ [] ∧
      (∃ both, format {} ("SELECT 1 WHERE a BETWEEN LEFT(b) AND c; " ++
        "SELECT 1 WHERE d AND e") = .ok both) ∧
      ¬ format {} ("SELECT 1 WHERE a BETWEEN LEFT(b) AND c; " ++
        "SELECT 1 WHERE d AND e") =
          .ok ("SELECT 1\nWHERE a BETWEEN\nLEFT(b) AND c;" ++ "\n\n" ++
            "SELECT 1\nWHERE d\n  AND e") := by
  have hfirst : format {} "SELECT 1 WHERE a BETWEEN LEFT(b) AND c; " =
      .ok "SELECT 1\nWHERE a BETWEEN\nLEFT(b) AND c;" := by decide +kernel
  have hsecond : format {} "SELECT 1 WHERE d AND e" =
      .ok "SELECT 1\nWHERE d\n  AND e" := by decide +kernel
  obtain ⟨ts, hts, -⟩ := (format_eq_ok_iff _ _ _).mp hfirst
  obtain ⟨ts', hts', -⟩ := (format_eq_ok_iff _ _ _).mp hsecond
  have hopen : (tokenize "SELECT 1 WHERE a BETWEEN LEFT(b) AND c; ").toOption.map (fun ts =>
      ((significant ts).getLast?.map (·.lexClass), (stateAfter {} {} ts).betweenOpen)) =
        some (some .semicolon, true) := by decide +kernel
  have hbreak : (tokenize "SELECT 1 WHERE d AND e").toOption.map (fun ts =>
      ((significant ts).isEmpty, breaksAtAnd {} {} ts)) = some (false, true) := by decide +kernel
  rw [hts] at hopen
  rw [hts'] at hbreak
  simp only [Except.toOption, Option.map_some, Option.some.injEq, Prod.mk.injEq] at hopen hbreak
  have hsome : significant ts' ≠ [] := by
    intro hnone
    simp [hnone] at hbreak
  obtain ⟨hboth, hiff⟩ := format_append_iff {} rfl _ _ _ _ ts ts' (by decide +kernel) (by decide +kernel)
    hfirst hsecond hts hts' hopen.1 hsome
  refine ⟨ts, ts', hfirst, hsecond, hts, hts', hopen.1, hsome, hboth, fun hsame => ?_⟩
  exact absurd (hiff.mp hsame) (by rw [hopen.2, hbreak.2]; decide)

end SqlOutline.Layout
