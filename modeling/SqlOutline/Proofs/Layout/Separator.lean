import Mathlib.Data.List.Forall2
import SqlOutline.Layout.Basic
import SqlOutline.Proofs.Scan.Lexed

/-!
# Separators

What the white space between two tokens depends on, what it looks like, and when there is none.

* `Alike`, `State.Alike` : the tokens and states that the layout rules cannot tell apart;
* `layoutFrom_alike`, `layoutFrom_placed` : the layout of such tokens from two such states is the same, and
  places do not matter;
* `isBreakChar` : separators are made of spaces and line breaks;
* `separator_eq_empty` : when two tokens stand next to each other;
* `separator_stable` : a separator is chosen again when it is all that stands between the tokens.
-/

namespace SqlOutline.Layout

open Scan Token

variable {o : Options} {s s' : State} {l l' t t' : Token}

/-! ### What a separator depends on -/

/-- The layout rules cannot tell the two tokens apart. -/
structure Alike (t t' : Token) : Prop where
  lexClass : t.lexClass = t'.lexClass
  modifier : isJoinModifier t = isJoinModifier t'

/-- The layout rules cannot tell the two states apart. -/
structure State.Alike (s s' : State) : Prop where
  last : Option.Rel Layout.Alike s.last s'.last
  gap : s.gap = s'.gap
  depth : s.depth = s'.depth
  inWhere : s.inWhere = s'.inWhere
  betweenOpen : s.betweenOpen = s'.betweenOpen

theorem Alike.refl (t : Token) : Alike t t := ⟨rfl, rfl⟩

theorem State.Alike.refl (s : State) : s.Alike s := by
  refine ⟨?_, rfl, rfl, rfl, rfl⟩
  cases s.last with
  | none => exact .none
  | some l => exact .some (.refl l)

theorem State.Alike.exists_last (h : s.Alike s') (hl : s.last = some l) :
    ∃ l', s'.last = some l' ∧ Layout.Alike l l' := by
  have hlast := h.last
  rw [hl] at hlast
  cases hl' : s'.last with
  | none =>
    rw [hl'] at hlast
    cases hlast
  | some l' =>
    rw [hl'] at hlast
    cases hlast with
    | some halike => exact ⟨l', rfl, halike⟩

theorem State.Alike.symm (h : s.Alike s') : s'.Alike s := by
  refine ⟨?_, h.gap.symm, h.depth.symm, h.inWhere.symm, h.betweenOpen.symm⟩
  rcases Option.eq_none_or_eq_some s.last with hl | ⟨l, hl⟩
  · have hlast := h.last
    rw [hl] at hlast ⊢
    cases hl' : s'.last with
    | none => exact .none
    | some l' =>
      rw [hl'] at hlast
      cases hlast
  · obtain ⟨l', hl', halike⟩ := h.exists_last hl
    rw [hl, hl']
    exact .some ⟨halike.lexClass.symm, halike.modifier.symm⟩

theorem State.Alike.withGap (h : s.Alike s') (g : Bool) :
    State.Alike { s with gap := g } { s' with gap := g } :=
  ⟨h.last, rfl, h.depth, h.inWhere, h.betweenOpen⟩

theorem isClauseStart_congr (hl : Alike l l') (ht : Alike t t') :
    isClauseStart l t = isClauseStart l' t' := by
  unfold isClauseStart
  rw [hl.lexClass, hl.modifier, ht.lexClass, ht.modifier]

theorem depthAt_congr (h : s.Alike s') (ht : Alike t t') : s.depthAt t = s'.depthAt t' := by
  unfold State.depthAt
  rw [h.depth, ht.lexClass]

theorem breakBefore_congr (h : s.Alike s') (hl : Alike l l') (ht : Alike t t') :
    breakBefore o s l t = breakBefore o s' l' t' := by
  unfold breakBefore
  rw [depthAt_congr h ht, isClauseStart_congr hl ht, hl.lexClass, ht.lexClass, h.inWhere, h.betweenOpen]

theorem separator_congr (h : s.Alike s') (ht : Alike t t') : separator o s t = separator o s' t' := by
  obtain ⟨last, gap, depth, inWhere, betweenOpen⟩ := s
  obtain ⟨last', gap', depth', inWhere', betweenOpen'⟩ := s'
  have hlast : Option.Rel Layout.Alike last last' := h.last
  have hgap : gap = gap' := h.gap
  cases hlast with
  | none => rfl
  | @some l l' hl =>
    simp only [separator]
    rw [breakBefore_congr h hl ht]
    unfold inlineSeparator
    rw [hl.lexClass, ht.lexClass, hgap]

theorem after_congr (h : s.Alike s') (ht : Alike t t') : (s.after o t).Alike (s'.after o t') := by
  have hdepth := depthAt_congr h ht
  obtain ⟨last, gap, depth, inWhere, betweenOpen⟩ := s
  obtain ⟨last', gap', depth', inWhere', betweenOpen'⟩ := s'
  have hlast : Option.Rel Layout.Alike last last' := h.last
  obtain rfl : inWhere = inWhere' := h.inWhere
  obtain rfl : betweenOpen = betweenOpen' := h.betweenOpen
  cases hlast with
  | none => exact ⟨.some ht, rfl, by simp [State.after, hdepth, ht.lexClass], rfl, rfl⟩
  | @some l l' hl =>
    have hbreak := breakBefore_congr (o := o) h hl ht
    refine ⟨.some ht, rfl, ?_, ?_, ?_⟩
    · simp only [State.after, hdepth, ht.lexClass]
    · simp only [State.after, hbreak, ht.lexClass]
    · simp only [State.after, hbreak]

/-- Tokens that the rules cannot tell apart, written with the same words, have the same layout. -/
theorem layoutFrom_alike (h : s.Alike s') {ts us : List Token}
    (hts : List.Forall₂ (fun t u => Alike t u ∧ (t.lexClass ≠ .whitespace → o.textOf t = o.textOf u)) ts
      us) : layoutFrom o s ts = layoutFrom o s' us := by
  induction hts generalizing s s' with
  | nil => rfl
  | @cons t u ts us htu _ ih =>
    obtain ⟨halike, htext⟩ := htu
    unfold layoutFrom
    rw [← halike.lexClass]
    split
    · exact ih (h.withGap true)
    · rename_i hspace
      rw [separator_congr h halike, htext hspace, ih (after_congr h halike)]

/-- The layout from two states that the rules cannot tell apart is the same. -/
theorem layoutFrom_congr (h : s.Alike s') (ts : List Token) : layoutFrom o s ts = layoutFrom o s' ts :=
  layoutFrom_alike h (List.forall₂_same.mpr fun t _ => ⟨.refl t, fun _ => rfl⟩)

/-- The layout does not depend on the places of tokens. -/
theorem layoutFrom_placed (h : s.Alike s') (p : Position) (ts : List Token) :
    layoutFrom o s (placed p ts) = layoutFrom o s' ts := by
  induction ts generalizing s s' p with
  | nil => rfl
  | cons t ts ih =>
    have ht : Alike { t with pos := p } t := ⟨rfl, rfl⟩
    simp only [placed, layoutFrom]
    rw [ih (h.withGap true), separator_congr h ht, ih (after_congr h ht)]
    rfl

/-! ### What a separator looks like -/

/-- The characters of separators. -/
def isBreakChar (c : Char) : Bool := c == ' ' || c == '\n'

/-- A separator either starts a line, and then does not look at the gap, or it is the separator of one
line. -/
theorem separator_cases (o : Options) (h : s.last = some l) (t : Token) :
    (∃ cs, (separator o s t).toList = '\n' :: cs ∧ (∀ c ∈ cs, isBreakChar c = true) ∧
      ∀ g, separator o { s with gap := g } t = separator o s t) ∨
    ∀ g, separator o { s with gap := g } t = inlineSeparator g l t := by
  obtain ⟨last, gap, depth, inWhere, betweenOpen⟩ := s
  obtain rfl : last = some l := h
  have hbreak : ∀ g, breakBefore o ⟨some l, g, depth, inWhere, betweenOpen⟩ l t =
      breakBefore o ⟨some l, gap, depth, inWhere, betweenOpen⟩ l t := fun _ => rfl
  simp only [separator, hbreak]
  cases breakBefore o ⟨some l, gap, depth, inWhere, betweenOpen⟩ l t with
  | statement => exact .inl ⟨['\n'], by simp, by simp [isBreakChar], fun _ => rfl⟩
  | clause => exact .inl ⟨[], by simp, by simp, fun _ => rfl⟩
  | condition =>
    refine .inl ⟨List.replicate o.indentWidth.toNat ' ', by simp, fun c hc => ?_, fun _ => rfl⟩
    rw [List.eq_of_mem_replicate hc]
    rfl
  | stay | between | betweenAnd => exact .inr fun _ => rfl

theorem inlineSeparator_mem {g : Bool} {c : Char} (h : c ∈ (inlineSeparator g l t).toList) :
    isBreakChar c = true := by
  have hall : inlineSeparator g l t ∈ ["\n", "", " "] := by
    unfold inlineSeparator
    split
    · simp
    · split
      · simp
      · split
        · simp
        · split
          · simp
          · split <;> simp
  have hchars : ∀ w ∈ ["\n", "", " "], ∀ c ∈ w.toList, isBreakChar c = true := by decide
  exact hchars _ hall c h

theorem separator_mem {c : Char} (h : c ∈ (separator o s t).toList) : isBreakChar c = true := by
  cases hl : s.last with
  | none =>
    rw [separator, hl] at h
    simp at h
  | some l =>
    rcases separator_cases o hl t with ⟨cs, hsep, hcs, -⟩ | hinline
    · rw [hsep] at h
      rcases List.mem_cons.mp h with rfl | h
      · rfl
      · exact hcs c h
    · rw [show separator o s t = _ from hinline s.gap] at h
      exact inlineSeparator_mem h

/-- A line comment is followed by a line break. -/
theorem separator_lineComment (h : s.last = some l) (hl : l.lexClass = .lineComment) :
    ∃ cs, (separator o s t).toList = '\n' :: cs := by
  rcases separator_cases o h t with ⟨cs, hsep, -⟩ | hinline
  · exact ⟨cs, hsep⟩
  · refine ⟨[], ?_⟩
    rw [show separator o s t = _ from hinline s.gap, inlineSeparator, if_pos hl]
    simp

/-- When two tokens stand next to each other: nothing stood between them, or the second one follows
without a space, or the first one does. -/
theorem separator_eq_empty (h : s.last = some l) (hsep : separator o s t = "") :
    s.gap = false ∨ t.lexClass ∈ [LexClass.comma, .closeParen, .semicolon, .dot] ∨
      l.lexClass ∈ [LexClass.openParen, .dot] := by
  rcases separator_cases o h t with ⟨cs, hcs, -⟩ | hinline
  · rw [hsep] at hcs
    simp at hcs
  · rw [show separator o s t = _ from hinline s.gap] at hsep
    unfold inlineSeparator at hsep
    split at hsep
    · simp at hsep
    · split at hsep
      · rename_i ht
        exact .inr (.inl (List.contains_iff_mem.mp ht))
      · split at hsep
        · rename_i hl
          exact .inr (.inr (List.contains_iff_mem.mp hl))
        · split at hsep
          · simp at hsep
          · split at hsep
            · simp at hsep
            · rename_i hgap
              exact .inl (by simpa using hgap)

/-- On one line the gap decides between a space and nothing, or does not matter. -/
theorem inlineSeparator_gap (l t : Token) :
    (∀ g, inlineSeparator g l t = inlineSeparator false l t) ∨
      ∀ g, inlineSeparator g l t = if g then " " else "" := by
  unfold inlineSeparator
  split
  · exact .inl fun _ => rfl
  · split
    · exact .inl fun _ => rfl
    · split
      · exact .inl fun _ => rfl
      · split
        · exact .inl fun _ => rfl
        · exact .inr fun _ => rfl

/-- A separator is chosen again when it is all that stands between the tokens. -/
theorem separator_stable (o : Options) (s : State) (t : Token) :
    separator o { s with gap := separator o s t != "" } t = separator o s t := by
  rcases Option.eq_none_or_eq_some s.last with hl | ⟨l, hl⟩
  · simp [separator, hl]
  · rcases separator_cases o hl t with ⟨cs, -, -, hgap⟩ | hinline
    · exact hgap _
    · have hsep : separator o s t = inlineSeparator s.gap l t := hinline s.gap
      rw [hinline, hsep]
      rcases inlineSeparator_gap l t with hconst | hgap
      · rw [hconst, hconst s.gap]
      · rw [hgap, hgap]
        cases s.gap <;> rfl

/-! ### Points and numbers -/

/-- A token from which numeric literals can be put together. -/
def isNumeric (t : Token) : Bool := t.lexClass == .dot || t.lexClass == .number

theorem isJoinModifier_of_ne (h : t.lexClass ≠ .reservedWord) : isJoinModifier t = false := by
  simp [isJoinModifier, h]

theorem alike_of_number (ht : t.lexClass = .number) (ht' : t'.lexClass = .number) : Alike t t' := by
  refine ⟨ht.trans ht'.symm, ?_⟩
  rw [isJoinModifier_of_ne (by simp [ht]), isJoinModifier_of_ne (by simp [ht'])]

theorem isNumeric_cases (h : isNumeric t = true) : t.lexClass = .dot ∨ t.lexClass = .number := by
  simpa [isNumeric] using h

theorem depthAt_numeric (h : isNumeric t = true) : s.depthAt t = s.depth := by
  rcases isNumeric_cases h with h | h <;> simp [State.depthAt, h]

/-- A point or number starts a line only as the start of a statement. -/
theorem breakBefore_numeric (h : isNumeric t = true) :
    breakBefore o s l t =
      if !o.reindent || s.depth != 0 then .stay
      else if l.lexClass = .semicolon then .statement else .stay := by
  unfold breakBefore
  rw [depthAt_numeric h]
  rcases isNumeric_cases h with h | h <;> simp [h, isClauseStart, isJoinModifier, startsClause]

/-- Where a token stays on its line, only the tokens on both sides decide the white space. -/
theorem separator_of_stay {last : Token} (hlast : s.last = some last) (h : breakBefore o s last t = .stay) :
    separator o s t = inlineSeparator s.gap last t := by
  unfold separator
  rw [hlast]
  dsimp only
  rw [h]

/-- A token that stays on its line leaves the clause as it is. -/
theorem after_of_stay {last : Token} (hlast : s.last = some last) (h : breakBefore o s last t = .stay) :
    (s.after o t).inWhere = s.inWhere ∧ (s.after o t).betweenOpen = s.betweenOpen := by
  unfold State.after
  rw [hlast]
  dsimp only
  rw [h]
  exact ⟨rfl, rfl⟩

/-- Nothing stands between a point or number and a number right after it. -/
theorem separator_after_numeric (ht : isNumeric t = true) (ht' : t'.lexClass = .number) :
    separator o (s.after o t) t' = "" := by
  have hnum : isNumeric t' = true := by simp [isNumeric, ht']
  have hstay : breakBefore o (s.after o t) t t' = .stay := by
    rw [breakBefore_numeric hnum]
    rcases isNumeric_cases ht with h | h <;> simp [h]
  have hgap : (s.after o t).gap = false := rfl
  rw [separator_of_stay rfl hstay, hgap]
  rcases isNumeric_cases ht with h | h <;> simp [inlineSeparator, h, ht']

/-- After a point or number a further number changes nothing. -/
theorem after_after_numeric (o : Options) (s : State) {n n' : Token} (ht : isNumeric t = true)
    (hn : n.lexClass = .number) (hn' : n'.lexClass = .number) :
    ((s.after o t).after o n).Alike (s.after o n') := by
  have hnum : isNumeric n = true := by simp [isNumeric, hn]
  have hnum' : isNumeric n' = true := by simp [isNumeric, hn']
  have hstay : breakBefore o (s.after o t) t n = .stay := by
    rw [breakBefore_numeric hnum]
    rcases isNumeric_cases ht with h | h <;> simp [h]
  have hafter := after_of_stay (s := s.after o t) rfl hstay
  have hopen : ∀ {x : Token}, isNumeric x = true → x.lexClass ≠ .openParen := by
    intro x hx
    rcases isNumeric_cases hx with h | h <;> simp [h]
  have hsame : ∀ l, breakBefore o s l t = breakBefore o s l n' := by
    intro l
    rw [breakBefore_numeric ht, breakBefore_numeric hnum']
  have hclause : ∀ l, breakBefore o s l n' ≠ .clause := by
    intro l
    rw [breakBefore_numeric hnum']
    split
    · simp
    · split <;> simp
  refine ⟨.some (alike_of_number hn hn'), rfl, ?_, ?_, ?_⟩
  · simp [State.after, hopen, hnum, hnum', ht, depthAt_numeric]
  · rw [hafter.1]
    cases hl : s.last with
    | none => simp [State.after, hl]
    | some l =>
      have := hclause l
      simp only [State.after, hl, hsame]
      cases hb : breakBefore o s l n' <;> simp_all
  · rw [hafter.2]
    cases hl : s.last with
    | none => simp [State.after, hl]
    | some l => simp only [State.after, hl, hsame]

/-- A number is separated as a point is, when that takes white space, or when nothing stood before it and
no comma. -/
theorem separator_number_eq_dot {n d : Token} (hn : n.lexClass = .number) (hd : d.lexClass = .dot)
    (h : separator o s d ≠ "" ∨ s.gap = false ∧ ∀ l, s.last = some l → l.lexClass ≠ .comma) :
    separator o s n = separator o s d := by
  rcases Option.eq_none_or_eq_some s.last with hl | ⟨l, hl⟩
  · simp [separator, hl]
  · have hsame : breakBefore o s l n = breakBefore o s l d := by
      rw [breakBefore_numeric (by simp [isNumeric, hn]), breakBefore_numeric (by simp [isNumeric, hd])]
    simp only [separator, hl, hsame] at h ⊢
    cases hb : breakBefore o s l d with
    | statement | clause | condition => rfl
    | stay | between | betweenAnd =>
      rw [hb] at h
      by_cases hcomment : l.lexClass = .lineComment
      · simp [inlineSeparator, hcomment]
      · rcases h with h | ⟨hgap, hcomma⟩
        · simp [inlineSeparator, hcomment, hd] at h
        · have hne := hcomma l rfl
          simp [inlineSeparator, hcomment, hn, hd, hgap, hne]

/-- After a comma a number is set off by a space and a point is not. -/
theorem separator_after_comma {n d : Token} (hl : s.last = some l) (hcomma : l.lexClass = .comma)
    (hn : n.lexClass = .number) (hd : d.lexClass = .dot) :
    separator o s n = " " ∧ separator o s d = "" := by
  have hstay : ∀ {t : Token}, isNumeric t = true → breakBefore o s l t = .stay := by
    intro t ht
    rw [breakBefore_numeric ht]
    simp [hcomma]
  simp only [separator, hl, hstay (t := n) (by simp [isNumeric, hn]),
    hstay (t := d) (by simp [isNumeric, hd])]
  simp [inlineSeparator, hcomma, hn, hd]

end SqlOutline.Layout
