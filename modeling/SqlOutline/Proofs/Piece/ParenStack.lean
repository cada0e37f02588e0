import SqlOutline.Proofs.Piece.ParenCount

/-!
# Parentheses neither run out nor stay open

The check of parentheses keeps a stack of the open ones, cutting into statements keeps their number, and
nesting keeps a stack of levels.  The three agree on every list of tokens: a list that passes the check is
cut into parts that can be nested with no level missing and none left over, and a list that does not pass is
refused for the right parenthesis.

* `pushToken` : one token of a nesting that keeps its levels in a stack of lists;
* `levelsOf` : the levels that such a nesting has at a point;
* `nestFrom_eq_ok_iff` : it does the same as `nest`;
* `checkParens_settles` : the main result.
-/

namespace SqlOutline.Statement

open Token Piece Rules

variable {t : Token} {ts : List Token}

/-! ### A stack of levels -/

/-- One token of a nesting that keeps its levels in a stack of lists, the innermost one first.  The outermost
level begins empty, and every other level begins with its opening parenthesis.  There is no result when the
token needs a level that is not there, or the first piece of a level that has none. -/
def pushToken (levels : List (List Piece)) (t : Token) : Option (List (List Piece)) :=
  match t.lexClass with
  | .openParen => some ([.leaf t] :: levels)
  | .closeParen =>
    match levels with
    | (opening :: inner) :: outer :: below =>
      some ((outer ++ [ofMembers .parenthesis (opening :: groupLevel inner ++ [.leaf t])]) :: below)
    | _ => none
  | _ =>
    match levels with
    | level :: below => some ((level ++ [.leaf t]) :: below)
    | [] => none

/-- The levels of a nesting that keeps the open parentheses apart from the pieces behind them. -/
def levelsOf : List (Token × List Piece) → List Piece → List (List Piece)
  | [], level => [level.reverse]
  | (opening, outer) :: below, level => (.leaf opening :: level.reverse) :: levelsOf below outer

theorem length_levelsOf (stack : List (Token × List Piece)) (level : List Piece) :
    (levelsOf stack level).length = stack.length + 1 := by
  induction stack generalizing level with
  | nil => rfl
  | cons e stack ih => rw [levelsOf, List.length_cons, ih, List.length_cons]

/-- The innermost level takes a piece at its end. -/
theorem exists_levelsOf (stack : List (Token × List Piece)) (level : List Piece) :
    ∃ top below, levelsOf stack level = top :: below ∧
      ∀ p, levelsOf stack (p :: level) = (top ++ [p]) :: below := by
  cases stack with
  | nil => exact ⟨level.reverse, [], rfl, fun p => by simp [levelsOf]⟩
  | cons e stack => exact ⟨_, _, rfl, fun p => by simp [levelsOf]⟩

theorem pushToken_open (h : t.lexClass = .openParen) (stack : List (Token × List Piece))
    (level : List Piece) : pushToken (levelsOf stack level) t = some (levelsOf ((t, level) :: stack) []) := by
  simp only [pushToken, h]
  rfl

theorem pushToken_close_nil (h : t.lexClass = .closeParen) (level : List Piece) :
    pushToken (levelsOf [] level) t = none := by
  simp only [pushToken, h, levelsOf]
  cases level.reverse <;> rfl

theorem pushToken_close (h : t.lexClass = .closeParen) (opening : Token) (outer : List Piece)
    (below : List (Token × List Piece)) (level : List Piece) :
    pushToken (levelsOf ((opening, outer) :: below) level) t =
      some (levelsOf below (ofMembers .parenthesis
        (.leaf opening :: groupLevel level.reverse ++ [.leaf t]) :: outer)) := by
  obtain ⟨top, rest, hlevels, hpush⟩ := exists_levelsOf below outer
  rw [hpush, levelsOf, hlevels]
  simp only [pushToken, h]

theorem pushToken_other (ho : t.lexClass ≠ .openParen) (hc : t.lexClass ≠ .closeParen)
    (stack : List (Token × List Piece)) (level : List Piece) :
    pushToken (levelsOf stack level) t = some (levelsOf stack (.leaf t :: level)) := by
  obtain ⟨top, rest, hlevels, hpush⟩ := exists_levelsOf stack level
  rw [hpush, hlevels]
  cases hk : t.lexClass <;> first
    | exact absurd hk ho
    | exact absurd hk hc
    | simp only [pushToken, hk]

/-- Nesting succeeds exactly when the stack of levels never runs out and ends with one level, and then that
level is what is grouped. -/
theorem nestFrom_eq_ok_iff (stack : List (Token × List Piece)) (level : List Piece) (ts : List Token)
    (ps : List Piece) : nestFrom stack level ts = .ok ps ↔
      ∃ top, ts.foldlM pushToken (levelsOf stack level) = some [top] ∧ ps = groupLevel top := by
  induction ts generalizing stack level with
  | nil =>
    cases stack with
    | nil => simp [nestFrom, levelsOf, eq_comm]
    | cons e stack =>
      have hlength := length_levelsOf (e :: stack) level
      -- a parenthesis that is still open leaves a second level
      have hne : ∀ top, levelsOf (e :: stack) level ≠ [top] := by
        intro top h
        rw [h] at hlength
        simp at hlength
      simp [nestFrom, hne]
  | cons t ts ih =>
    rw [List.foldlM_cons]
    by_cases ho : t.lexClass = .openParen
    · rw [nestFrom_open ho, pushToken_open ho, ih]
      rfl
    · by_cases hc : t.lexClass = .closeParen
      · cases stack with
        | nil =>
          rw [nestFrom_close_nil hc, pushToken_close_nil hc]
          simp
        | cons e stack =>
          obtain ⟨opening, outer⟩ := e
          rw [nestFrom_close hc, pushToken_close hc, ih]
          rfl
      · rw [nestFrom_other ho hc, pushToken_other ho hc, ih]
        rfl

/-! ### The main result -/

/-- **Parentheses neither run out nor stay open.**  The check passes exactly the balanced lists.  In such a
list the number that cutting keeps is at every point what is opened less what is closed.  Every part that it
is cut into is balanced, the stack of levels never runs out while the part is nested, and one level is left,
which is what nesting groups.  A list that does not pass is refused for the first closing parenthesis up to
which more is closed than opened, and if there is none, for the last opening parenthesis that is not
closed. -/
theorem checkParens_settles (ts : List Token) :
    (checkParens ts = .ok () ↔ Balanced ts) ∧
    (checkParens ts = .ok () →
      (∀ before, before <+: ts → before.foldl depthAfter 0 + closings before = openings before) ∧
      ∀ chunk ∈ split ts, Balanced chunk ∧
        ∃ level, chunk.foldlM pushToken [[]] = some [level] ∧ nest chunk = .ok (groupLevel level)) ∧
    ∀ e, checkParens ts = .error e ↔
      (∃ t, FirstExcess ts t ∧ e = .unmatchedClose t.pos) ∨
      (∀ before, before <+: ts → closings before ≤ openings before) ∧
        ∃ t, LastUnclosed ts t ∧ e = .unmatchedOpen t.pos := by
  refine ⟨checkParens_eq_ok_iff ts, fun hcheck => ⟨fun before hbefore => ?_, fun chunk hchunk => ?_⟩,
    fun e => ?_⟩
  · have hnever := (neverExceeds_zero_iff ts).mpr ((checkParens_eq_ok_iff ts).mp hcheck).le
    rw [foldl_depthAfter_add (hnever.of_prefix hbefore), Nat.zero_add]
  · have hts := (balanced_iff ts).mp ((checkParens_eq_ok_iff ts).mp hcheck)
    have hpart := balances_of_mem_split hts hchunk
    obtain ⟨ps, hnest⟩ : ∃ ps, nest chunk = .ok ps := exists_nestFrom [] [] hpart
    obtain ⟨level, hlevels, rfl⟩ := (nestFrom_eq_ok_iff [] [] chunk ps).mp hnest
    exact ⟨(balanced_iff chunk).mpr hpart, level, hlevels, hnest⟩
  · cases e with
    | unmatchedClose pos => simp [checkParens_eq_close_iff]
    | unmatchedOpen pos => simp [checkParens_eq_open_iff]

/-- Of `();()` both parts can be nested.  In `(;()` the second parenthesis is closed, so the first one is
named. -/
theorem checkParens_settles_outer :
    (∃ ts : List Token, ts = [⟨.openParen, "(", ⟨1, 1, 0⟩⟩, ⟨.closeParen, ")", ⟨1, 2, 1⟩⟩,
        ⟨.semicolon, ";", ⟨1, 3, 2⟩⟩, ⟨.openParen, "(", ⟨1, 4, 3⟩⟩, ⟨.closeParen, ")", ⟨1, 5, 4⟩⟩] ∧
      checkParens ts = .ok () ∧ (split ts).length = 2 ∧ ∀ chunk ∈ split ts, Balanced chunk ∧
        ∃ level, chunk.foldlM pushToken [[]] = some [level] ∧ nest chunk = .ok (groupLevel level)) ∧
    ∃ (ts : List Token) (t : Token), ts = [⟨.openParen, "(", ⟨1, 1, 0⟩⟩, ⟨.semicolon, ";", ⟨1, 2, 1⟩⟩,
        ⟨.openParen, "(", ⟨1, 3, 2⟩⟩, ⟨.closeParen, ")", ⟨1, 4, 3⟩⟩] ∧
      checkParens ts = .error (.unmatchedOpen ⟨1, 1, 0⟩) ∧ LastUnclosed ts t ∧ t.pos = ⟨1, 1, 0⟩ := by
  constructor
  · have hcheck : checkParens [⟨.openParen, "(", ⟨1, 1, 0⟩⟩, ⟨.closeParen, ")", ⟨1, 2, 1⟩⟩,
        ⟨.semicolon, ";", ⟨1, 3, 2⟩⟩, ⟨.openParen, "(", ⟨1, 4, 3⟩⟩, ⟨.closeParen, ")", ⟨1, 5, 4⟩⟩] =
        .ok () := by decide
    exact ⟨_, rfl, hcheck, by decide, ((checkParens_settles _).2.1 hcheck).2⟩
  · have hcheck : checkParens [⟨.openParen, "(", ⟨1, 1, 0⟩⟩, ⟨.semicolon, ";", ⟨1, 2, 1⟩⟩,
        ⟨.openParen, "(", ⟨1, 3, 2⟩⟩, ⟨.closeParen, ")", ⟨1, 4, 3⟩⟩] =
        .error (.unmatchedOpen ⟨1, 1, 0⟩) := by decide
    obtain ⟨t, -, herror⟩ | ⟨-, t, hlast, herror⟩ := ((checkParens_settles _).2.2 _).mp hcheck
    · cases herror
    · injection herror with hpos
      exact ⟨_, t, rfl, hcheck, hlast, hpos.symm⟩

end SqlOutline.Statement
