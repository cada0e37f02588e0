import SqlOutline.Proofs.Piece.Acceptance

/-!
# Which parenthesis has no partner

Parentheses match when no prefix of a list of tokens closes more than it opens and the whole list closes as
many as it opens.  The check keeps a stack of the open ones instead of numbers.  It passes the lists whose
parentheses match, and the error for any other list names a parenthesis that can be told from the numbers.

* `Balanced` : lists whose parentheses match;
* `balances_iff` : the check by classes in terms of the numbers;
* `checkParensFrom_eq_close_iff`, `checkParensFrom_eq_open_iff` : which parenthesis an error names, whatever
  is open;
* `FirstExcess`, `LastUnclosed` : the parenthesis that is named when nothing is open;
* `checkParens_eq_ok_iff`, `checkParens_eq_close_iff`, `checkParens_eq_open_iff` : the main results.
-/

namespace SqlOutline.Statement

open Token

/-! ### Counting parentheses -/

/-- The number of opening parentheses. -/
def openings (ts : List Token) : Nat := ts.countP (·.lexClass == .openParen)

/-- The number of closing parentheses. -/
def closings (ts : List Token) : Nat := ts.countP (·.lexClass == .closeParen)

/-- At no point are more parentheses closed than were open before and have been opened since. -/
def NeverExceeds (depth : Nat) (ts : List Token) : Prop :=
  ∀ before, before <+: ts → closings before ≤ depth + openings before

/-- Parentheses that match: no prefix closes more than it opens, and all together close as many as they
open. -/
structure Balanced (ts : List Token) : Prop where
  /-- No prefix closes more than it opens. -/
  le : ∀ before, before <+: ts → closings before ≤ openings before
  /-- As many are closed as are opened. -/
  eq : closings ts = openings ts

variable {depth : Nat} {t : Token} {ts : List Token}

@[simp] theorem openings_nil : openings [] = 0 := rfl

@[simp] theorem closings_nil : closings [] = 0 := rfl

theorem openings_append (ts us : List Token) : openings (ts ++ us) = openings ts + openings us :=
  List.countP_append

theorem closings_append (ts us : List Token) : closings (ts ++ us) = closings ts + closings us :=
  List.countP_append

theorem openings_cons (t : Token) (ts : List Token) : openings (t :: ts) = openings [t] + openings ts :=
  openings_append [t] ts

theorem closings_cons (t : Token) (ts : List Token) : closings (t :: ts) = closings [t] + closings ts :=
  closings_append [t] ts

theorem counts_of_open (h : t.lexClass = .openParen) : openings [t] = 1 ∧ closings [t] = 0 := by
  simp [openings, closings, h]

theorem counts_of_close (h : t.lexClass = .closeParen) : openings [t] = 0 ∧ closings [t] = 1 := by
  simp [openings, closings, h]

theorem counts_of_other (ho : t.lexClass ≠ .openParen) (hc : t.lexClass ≠ .closeParen) :
    openings [t] = 0 ∧ closings [t] = 0 := by
  simp [openings, closings, ho, hc]

/-- A token moves the number of open parentheses by what it opens and closes. -/
theorem depthAfter_add (h : t.lexClass = .closeParen → depth ≠ 0) :
    depthAfter depth t + closings [t] = depth + openings [t] := by
  by_cases ho : t.lexClass = .openParen
  · obtain ⟨hone, hzero⟩ := counts_of_open ho
    simp [depthAfter, ho, hone, hzero]
  · by_cases hc : t.lexClass = .closeParen
    · obtain ⟨hzero, hone⟩ := counts_of_close hc
      have hpos := h hc
      have hless : depthAfter depth t = depth - 1 := by simp [depthAfter, hc]
      omega
    · obtain ⟨hzero, hzero'⟩ := counts_of_other ho hc
      rw [depthAfter_other ho hc, hzero, hzero']

theorem neverExceeds_nil (depth : Nat) : NeverExceeds depth [] := by
  intro before hbefore
  rw [List.prefix_nil.mp hbefore]
  simp

theorem neverExceeds_zero_iff (ts : List Token) :
    NeverExceeds 0 ts ↔ ∀ before, before <+: ts → closings before ≤ openings before := by
  simp only [NeverExceeds, Nat.zero_add]

/-- One token of the count: a parenthesis is closed only where one is open. -/
theorem neverExceeds_cons (depth : Nat) (t : Token) (ts : List Token) :
    NeverExceeds depth (t :: ts) ↔
      (t.lexClass = .closeParen → depth ≠ 0) ∧ NeverExceeds (depthAfter depth t) ts := by
  constructor
  · intro h
    have hopen : t.lexClass = .closeParen → depth ≠ 0 := by
      intro hc
      have hfirst := h [t] ⟨ts, rfl⟩
      have hcounts := counts_of_close hc
      omega
    refine ⟨hopen, fun before hbefore => ?_⟩
    have hall := h (t :: before) (List.cons_prefix_cons.mpr ⟨rfl, hbefore⟩)
    have hdepth := depthAfter_add hopen
    rw [openings_cons, closings_cons] at hall
    omega
  · rintro ⟨hopen, hrest⟩ before hbefore
    cases before with
    | nil => simp
    | cons u before =>
      obtain ⟨rfl, hprefix⟩ := List.cons_prefix_cons.mp hbefore
      have hall := hrest before hprefix
      have hdepth := depthAfter_add hopen
      rw [openings_cons, closings_cons]
      omega

/-- Where no more is closed than is open, the number of open parentheses is exact. -/
theorem foldl_depthAfter_add (h : NeverExceeds depth ts) :
    ts.foldl depthAfter depth + closings ts = depth + openings ts := by
  induction ts generalizing depth with
  | nil => rfl
  | cons t ts ih =>
    obtain ⟨hopen, hrest⟩ := (neverExceeds_cons depth t ts).mp h
    have hdepth := depthAfter_add hopen
    have hall := ih hrest
    rw [List.foldl_cons, openings_cons, closings_cons]
    omega

theorem NeverExceeds.of_prefix {before : List Token} (h : NeverExceeds depth ts) (hbefore : before <+: ts) :
    NeverExceeds depth before := fun first hfirst => h first (hfirst.trans hbefore)

/-- The check by classes in numbers: at no point is more closed than open, and in the end nothing is. -/
theorem balances_iff (depth : Nat) (ts : List Token) :
    balances depth (parens ts) = true ↔ NeverExceeds depth ts ∧ closings ts = depth + openings ts := by
  induction ts generalizing depth with
  | nil =>
    have hnil : balances depth (parens []) = true ↔ depth = 0 := by simp [parens, balances]
    rw [hnil]
    constructor
    · rintro rfl
      exact ⟨neverExceeds_nil 0, rfl⟩
    · rintro ⟨-, h⟩
      simpa using h.symm
  | cons t ts ih =>
    rw [balances_cons, neverExceeds_cons, ih, and_assoc]
    refine and_congr_right fun hopen => and_congr_right fun _ => ?_
    have hdepth := depthAfter_add hopen
    rw [openings_cons, closings_cons]
    omega

theorem balanced_iff (ts : List Token) : Balanced ts ↔ balances 0 (parens ts) = true := by
  rw [balances_iff, neverExceeds_zero_iff, Nat.zero_add]
  constructor
  · rintro ⟨hle, heq⟩
    exact ⟨hle, heq⟩
  · rintro ⟨hle, heq⟩
    exact ⟨hle, heq⟩

/-- The check succeeds exactly for balanced lists. -/
theorem checkParens_eq_ok_iff (ts : List Token) : checkParens ts = .ok () ↔ Balanced ts := by
  rw [balanced_iff]
  exact checkParensFrom_eq_ok_iff [] ts

/-! ### The parenthesis that an error names -/

/-- A place in a list is its start or a place in its tail. -/
theorem exists_place_cons {P : List Token → Token → List Token → Prop} :
    (∃ before u after, t :: ts = before ++ u :: after ∧ P before u after) ↔
      P [] t ts ∨ ∃ before u after, ts = before ++ u :: after ∧ P (t :: before) u after := by
  constructor
  · rintro ⟨before, u, after, heq, h⟩
    cases before with
    | nil =>
      obtain ⟨rfl, rfl⟩ := List.cons.inj heq
      exact .inl h
    | cons b before =>
      obtain ⟨rfl, rfl⟩ := List.cons.inj heq
      exact .inr ⟨before, u, after, rfl, h⟩
  · rintro (h | ⟨before, u, after, rfl, h⟩)
    · exact ⟨[], t, ts, rfl, h⟩
    · exact ⟨t :: before, u, after, rfl, h⟩

/-- One token of the check: it fails at a closing parenthesis with none open, and goes on otherwise. -/
theorem checkParensFrom_cons (opened : List Position) (t : Token) (ts : List Token) :
    (t.lexClass = .closeParen ∧ opened = [] ∧
      checkParensFrom opened (t :: ts) = .error (.unmatchedClose t.pos)) ∨
    ((t.lexClass = .closeParen → opened.length ≠ 0) ∧ ∃ opened' : List Position,
      checkParensFrom opened (t :: ts) = checkParensFrom opened' ts ∧
      opened'.length = depthAfter opened.length t ∧
      (t.lexClass = .openParen ∧ opened' = t.pos :: opened ∨
        t.lexClass = .closeParen ∧ opened' = opened.tail ∨
        t.lexClass ≠ .openParen ∧ t.lexClass ≠ .closeParen ∧ opened' = opened)) := by
  by_cases ho : t.lexClass = .openParen
  · refine .inr ⟨by simp [ho], t.pos :: opened, checkParensFrom_open ho opened ts, ?_, .inl ⟨ho, rfl⟩⟩
    simp [depthAfter, ho]
  · by_cases hc : t.lexClass = .closeParen
    · cases opened with
      | nil => exact .inl ⟨hc, rfl, checkParensFrom_close_nil hc ts⟩
      | cons p opened =>
        refine .inr ⟨by simp, opened, checkParensFrom_close hc p opened ts, ?_, .inr (.inl ⟨hc, rfl⟩)⟩
        simp [depthAfter, hc]
    · have hother : isParen t.lexClass = false := by simp [isParen, ho, hc]
      exact .inr ⟨fun h => absurd h hc, opened, checkParensFrom_other hother opened ts,
        (depthAfter_other ho hc).symm, .inr (.inr ⟨ho, hc, rfl⟩)⟩

/-- A closing parenthesis is named exactly when the tokens before it close all that is open. -/
theorem checkParensFrom_eq_close_iff (opened : List Position) (ts : List Token) (pos : Position) :
    checkParensFrom opened ts = .error (.unmatchedClose pos) ↔
      ∃ before t after, ts = before ++ t :: after ∧ t.lexClass = .closeParen ∧ pos = t.pos ∧
        balances opened.length (parens before) = true := by
  induction ts generalizing opened with
  | nil => cases opened <;> simp [checkParensFrom]
  | cons t ts ih =>
    rw [exists_place_cons]
    simp only [balances_cons]
    rcases checkParensFrom_cons opened t ts with
      ⟨hc, rfl, herror⟩ | ⟨hopen, opened', hstep, hlength, -⟩
    · rw [herror]
      constructor
      · intro h
        have hpos : t.pos = pos := by simpa using h
        exact .inl ⟨hc, hpos.symm, rfl⟩
      · rintro (⟨-, rfl, -⟩ | ⟨_, _, _, -, -, -, hopen, -⟩)
        · rfl
        · exact absurd rfl (hopen hc)
    · rw [hstep, ih, hlength]
      constructor
      · rintro ⟨before, u, after, rfl, hu, rfl, hbalances⟩
        exact .inr ⟨before, u, after, rfl, hu, rfl, hopen, hbalances⟩
      · rintro (⟨hc, -, hbalances⟩ | ⟨before, u, after, rfl, hu, rfl, -, hbalances⟩)
        · have hzero : opened.length = 0 := by simpa [parens, balances] using hbalances
          exact absurd hzero (hopen hc)
        · exact ⟨before, u, after, rfl, hu, rfl, hbalances⟩

/-- The parenthesis at the place is the latest of the open ones that the tokens leave open: they close just
those that were opened after it. -/
def Remains (opened : List Position) (ts : List Token) (pos : Position) : Prop :=
  ∃ k, opened[k]? = some pos ∧ balances k (parens ts) = true

theorem remains_open (h : t.lexClass = .openParen) (opened : List Position) (pos : Position) :
    Remains (t.pos :: opened) ts pos ↔
      pos = t.pos ∧ balances 0 (parens ts) = true ∨ Remains opened (t :: ts) pos := by
  have hstep : ∀ k, balances k (parens (t :: ts)) = true ↔ balances (k + 1) (parens ts) = true := by
    intro k
    simp [balances_cons, depthAfter, h]
  constructor
  · rintro ⟨k, hk, hbalances⟩
    cases k with
    | zero => exact .inl ⟨(Option.some.inj hk).symm, hbalances⟩
    | succ k => exact .inr ⟨k, hk, (hstep k).mpr hbalances⟩
  · rintro (⟨rfl, hbalances⟩ | ⟨k, hk, hbalances⟩)
    · exact ⟨0, rfl, hbalances⟩
    · exact ⟨k + 1, hk, (hstep k).mp hbalances⟩

theorem remains_close (h : t.lexClass = .closeParen) (opened : List Position) (pos : Position) :
    Remains opened.tail ts pos ↔ Remains opened (t :: ts) pos := by
  have hstep : ∀ k, balances k (parens (t :: ts)) = true ↔ k ≠ 0 ∧ balances (k - 1) (parens ts) = true := by
    intro k
    simp [balances_cons, depthAfter, h]
  constructor
  · rintro ⟨k, hk, hbalances⟩
    exact ⟨k + 1, by rwa [List.getElem?_tail] at hk, (hstep _).mpr ⟨by omega, hbalances⟩⟩
  · rintro ⟨k, hk, hbalances⟩
    obtain ⟨hpos, hrest⟩ := (hstep k).mp hbalances
    refine ⟨k - 1, ?_, hrest⟩
    rwa [List.getElem?_tail, Nat.sub_add_cancel (by omega)]

theorem remains_other (ho : t.lexClass ≠ .openParen) (hc : t.lexClass ≠ .closeParen)
    (opened : List Position) (pos : Position) : Remains opened ts pos ↔ Remains opened (t :: ts) pos := by
  have hstep : ∀ k, balances k (parens (t :: ts)) = true ↔ balances k (parens ts) = true := by
    intro k
    simp [balances_cons, depthAfter_other ho hc, hc]
  simp only [Remains, hstep]

/-- An opening parenthesis is named exactly when nothing exceeds and it is the latest one that is left open:
one of the tokens with a balanced rest behind it, or else one of those that were open before. -/
theorem checkParensFrom_eq_open_iff (opened : List Position) (ts : List Token) (pos : Position) :
    checkParensFrom opened ts = .error (.unmatchedOpen pos) ↔ NeverExceeds opened.length ts ∧
      ((∃ before t after, ts = before ++ t :: after ∧ t.lexClass = .openParen ∧ pos = t.pos ∧
        balances 0 (parens after) = true) ∨ Remains opened ts pos) := by
  induction ts generalizing opened with
  | nil =>
    have hplace : ¬∃ (before : List Token) (t : Token) (after : List Token), [] = before ++ t :: after ∧
        t.lexClass = .openParen ∧ pos = t.pos ∧ balances 0 (parens after) = true := by simp
    simp only [neverExceeds_nil, true_and, hplace, false_or]
    cases opened with
    | nil => simp [checkParensFrom, Remains]
    | cons p opened => simp [checkParensFrom, Remains, parens, balances]
  | cons t ts ih =>
    rw [exists_place_cons, neverExceeds_cons]
    rcases checkParensFrom_cons opened t ts with
      ⟨hc, rfl, herror⟩ | ⟨hopen, opened', hstep, hlength, hcases⟩
    · rw [herror]
      constructor
      · intro h
        simp at h
      · rintro ⟨⟨hopen, -⟩, -⟩
        exact absurd rfl (hopen hc)
    · rw [hstep, ih, hlength, and_assoc, and_iff_right hopen]
      refine and_congr_right fun _ => ?_
      -- an opening parenthesis is on the stack after its step, so the stack carries it through the induction
      rcases hcases with ⟨ho, rfl⟩ | ⟨hc, rfl⟩ | ⟨ho, hc, rfl⟩
      · rw [remains_open ho, or_left_comm]
        simp only [ho, true_and, or_assoc]
      · rw [remains_close hc]
        simp [hc]
      · rw [remains_other ho hc]
        simp [ho]

/-! ### Nothing open before -/

/-- The first closing parenthesis up to which more is closed than opened. -/
def FirstExcess (ts : List Token) (t : Token) : Prop :=
  ∃ before after, ts = before ++ t :: after ∧ t.lexClass = .closeParen ∧
    openings (before ++ [t]) < closings (before ++ [t]) ∧
    ∀ first, first <+: before → closings first ≤ openings first

/-- An opening parenthesis before the tokens is closed by one of them: a closing parenthesis with a balanced
list before it. -/
def ClosedBy (ts : List Token) : Prop :=
  ∃ middle t rest, ts = middle ++ t :: rest ∧ t.lexClass = .closeParen ∧ Balanced middle

/-- The last opening parenthesis that is not closed by the tokens after it. -/
def LastUnclosed (ts : List Token) (t : Token) : Prop :=
  ∃ before after, ts = before ++ t :: after ∧ t.lexClass = .openParen ∧ ¬ClosedBy after ∧
    ∀ middle u rest, after = middle ++ u :: rest → u.lexClass = .openParen → ClosedBy rest

/-- A closing parenthesis is the first in excess exactly when the tokens before it are balanced. -/
theorem firstExcess_iff (ts : List Token) (t : Token) : FirstExcess ts t ↔
    ∃ before after, ts = before ++ t :: after ∧ t.lexClass = .closeParen ∧ Balanced before := by
  refine exists_congr fun before => exists_congr fun after => and_congr_right fun _ =>
    and_congr_right fun hc => ?_
  have hcounts := counts_of_close hc
  rw [openings_append, closings_append]
  constructor
  · rintro ⟨hexcess, hle⟩
    have hwhole := hle before List.prefix_rfl
    exact ⟨hle, by omega⟩
  · rintro ⟨hle, heq⟩
    exact ⟨by omega, hle⟩

theorem checkParens_eq_close_iff (ts : List Token) (pos : Position) :
    checkParens ts = .error (.unmatchedClose pos) ↔ ∃ t, FirstExcess ts t ∧ pos = t.pos := by
  have hcheck := checkParensFrom_eq_close_iff [] ts pos
  rw [List.length_nil] at hcheck
  simp only [firstExcess_iff, balanced_iff]
  rw [checkParens, hcheck]
  constructor
  · rintro ⟨before, t, after, heq, hc, hpos, hbefore⟩
    exact ⟨t, ⟨before, after, heq, hc, hbefore⟩, hpos⟩
  · rintro ⟨t, ⟨before, after, heq, hc, hbefore⟩, hpos⟩
    exact ⟨before, t, after, heq, hc, hpos, hbefore⟩

/-- What closes a parenthesis from before is the first in excess. -/
theorem closedBy_iff_firstExcess (ts : List Token) : ClosedBy ts ↔ ∃ t, FirstExcess ts t := by
  simp only [firstExcess_iff]
  exact exists_comm

theorem closedBy_iff (ts : List Token) : ClosedBy ts ↔ ¬NeverExceeds 0 ts := by
  constructor
  · rintro ⟨middle, t, rest, rfl, hc, hmiddle⟩ hnever
    have hle := hnever (middle ++ [t]) ⟨rest, by simp⟩
    have hcounts := counts_of_close hc
    have heq := hmiddle.eq
    rw [openings_append, closings_append] at hle
    omega
  · intro hexceeds
    cases hcheck : checkParens ts with
    | ok u =>
      have hbalances := (balances_iff 0 ts).mp ((balanced_iff ts).mp ((checkParens_eq_ok_iff ts).mp hcheck))
      exact absurd hbalances.1 hexceeds
    | error e =>
      cases e with
      | unmatchedOpen pos =>
        exact absurd ((checkParensFrom_eq_open_iff [] ts pos).mp hcheck).1 hexceeds
      | unmatchedClose pos =>
        obtain ⟨t, hfirst, -⟩ := (checkParens_eq_close_iff ts pos).mp hcheck
        exact (closedBy_iff_firstExcess ts).mpr ⟨t, hfirst⟩

/-- An opening parenthesis is closed when it stands in a balanced list. -/
theorem Balanced.closedBy {before after : List Token} (h : Balanced (before ++ t :: after))
    (ho : t.lexClass = .openParen) : ClosedBy after := by
  rw [closedBy_iff]
  intro hnever
  have hbefore := h.le before (List.prefix_append before _)
  have hafter := hnever after List.prefix_rfl
  have hcounts := counts_of_open ho
  have hall := h.eq
  rw [openings_append, closings_append, openings_cons, closings_cons] at hall
  omega

/-- A list is balanced when it closes nothing from before and all that it opens. -/
theorem balanced_of_closed (hnever : NeverExceeds 0 ts)
    (hclosed : ∀ before u after, ts = before ++ u :: after → u.lexClass = .openParen → ClosedBy after) :
    Balanced ts := by
  rw [← checkParens_eq_ok_iff]
  cases hcheck : checkParens ts with
  | ok u => rfl
  | error e =>
    cases e with
    | unmatchedClose pos =>
      obtain ⟨t, hfirst, -⟩ := (checkParens_eq_close_iff ts pos).mp hcheck
      exact absurd hnever ((closedBy_iff ts).mp ((closedBy_iff_firstExcess ts).mpr ⟨t, hfirst⟩))
    | unmatchedOpen pos =>
      obtain ⟨-, ⟨before, u, after, heq, hu, -, hafter⟩ | ⟨k, hk, -⟩⟩ :=
        (checkParensFrom_eq_open_iff [] ts pos).mp hcheck
      · have hexceeds := (closedBy_iff after).mp (hclosed before u after heq hu)
        exact absurd ((balances_iff 0 after).mp hafter).1 hexceeds
      · simp at hk

/-- The last opening parenthesis that is not closed is the one with a balanced rest behind it. -/
theorem lastUnclosed_iff (ts : List Token) (t : Token) : LastUnclosed ts t ↔
    ∃ before after, ts = before ++ t :: after ∧ t.lexClass = .openParen ∧ Balanced after := by
  refine exists_congr fun before => exists_congr fun after => and_congr_right fun _ =>
    and_congr_right fun _ => ?_
  rw [closedBy_iff, not_not]
  constructor
  · rintro ⟨hnever, hclosed⟩
    exact balanced_of_closed hnever hclosed
  · intro hafter
    refine ⟨(neverExceeds_zero_iff after).mpr hafter.le, ?_⟩
    rintro middle u rest rfl hu
    exact hafter.closedBy hu

theorem checkParens_eq_open_iff (ts : List Token) (pos : Position) :
    checkParens ts = .error (.unmatchedOpen pos) ↔
      (∀ before, before <+: ts → closings before ≤ openings before) ∧
        ∃ t, LastUnclosed ts t ∧ pos = t.pos := by
  have hcheck := checkParensFrom_eq_open_iff [] ts pos
  have hnone : ¬Remains [] ts pos := by simp [Remains]
  rw [List.length_nil, neverExceeds_zero_iff] at hcheck
  simp only [hnone, or_false] at hcheck
  simp only [lastUnclosed_iff, balanced_iff]
  rw [checkParens, hcheck]
  refine and_congr_right fun _ => ?_
  constructor
  · rintro ⟨before, t, after, heq, ho, hpos, hafter⟩
    exact ⟨t, ⟨before, after, heq, ho, hafter⟩, hpos⟩
  · rintro ⟨t, ⟨before, after, heq, ho, hafter⟩, hpos⟩
    exact ⟨before, t, after, heq, ho, hpos, hafter⟩

end SqlOutline.Statement
