import SqlOutline.Proofs.Piece.Parse

/-!
# Which texts have statements

A text whose tokens are complete and whose parentheses match is grouped without an error: a semicolon that
ends a statement stands outside parentheses, so the parentheses match within every part, and a part with
matching parentheses can be nested.

* `balances_cons` : one token of the check of parentheses;
* `balances_of_mem_split` : the parts of a token list with matching parentheses have matching parentheses;
* `exists_nestFrom` : such a part can be nested, whatever is open;
* `parse_eq_error_iff`, `exists_parse` : a text is refused for its tokens and parentheses only;
* `statementsFrom` : the number of statements, counted from left to right.
-/

namespace SqlOutline.Statement

open Token

variable {depth : Nat} {t : Token} {ts : List Token}

/-! ### Matching parentheses -/

/-- One token of the check: a parenthesis is closed only where one is open. -/
theorem balances_cons (depth : Nat) (t : Token) (ts : List Token) :
    balances depth (parens (t :: ts)) = true ↔
      (t.lexClass = .closeParen → depth ≠ 0) ∧ balances (depthAfter depth t) (parens ts) = true := by
  rw [parens_cons]
  by_cases ho : t.lexClass = .openParen
  · simp [ho, isParen, balances, depthAfter]
  · by_cases hc : t.lexClass = .closeParen
    · cases depth with
      | zero => simp [hc, isParen, balances]
      | succ n => simp [hc, isParen, balances, depthAfter]
    · have hparen : isParen t.lexClass = false := by simp [isParen, ho, hc]
      rw [if_neg (by simp [hparen]), depthAfter_other ho hc]
      simp [hc]

/-- No parenthesis is open after a list that closes all of them. -/
theorem foldl_depthAfter_of_balances (h : balances depth (parens ts) = true) :
    ts.foldl depthAfter depth = 0 := by
  induction ts generalizing depth with
  | nil => simpa [parens, balances] using h
  | cons t ts ih => exact ih ((balances_cons depth t ts).mp h).2

/-- The parentheses of the first part match those that are open, and the parentheses of every other part
match among themselves. -/
theorem balances_splitFrom (h : balances depth (parens ts) = true) :
    (splitFrom depth ts = [] ∧ depth = 0) ∨ ∃ chunk chunks, splitFrom depth ts = chunk :: chunks ∧
      balances depth (parens chunk) = true ∧ ∀ c ∈ chunks, balances 0 (parens c) = true := by
  induction ts generalizing depth with
  | nil => exact .inl ⟨rfl, by simpa [balances, parens] using h⟩
  | cons t ts ih =>
    right
    obtain ⟨hclose, hrest⟩ := (balances_cons depth t ts).mp h
    by_cases hend : t.lexClass = .semicolon ∧ depth = 0
    · have hsemicolon := hend.1
      obtain rfl : depth = 0 := hend.2
      have hdepth : depthAfter 0 t = 0 := by simp [depthAfter, hsemicolon]
      rw [hdepth] at hrest
      refine ⟨[t], splitFrom 0 ts, splitFrom_end hend, ?_, ?_⟩
      · simp [parens, isParen, hsemicolon, balances]
      · rcases ih hrest with ⟨hnil, -⟩ | ⟨chunk, chunks, hsplit, hchunk, hchunks⟩
        · simp [hnil]
        · simpa [hsplit] using ⟨hchunk, hchunks⟩
    · rw [splitFrom_inside hend]
      rcases ih hrest with ⟨hnil, hdepth⟩ | ⟨chunk, chunks, hsplit, hchunk, hchunks⟩
      · refine ⟨[t], [], by rw [hnil], (balances_cons depth t []).mpr ⟨hclose, ?_⟩, by simp⟩
        rw [hdepth]
        rfl
      · refine ⟨t :: chunk, chunks, by rw [hsplit], ?_, hchunks⟩
        exact (balances_cons depth t chunk).mpr ⟨hclose, hchunk⟩

/-- The parentheses match within every part of a token list in which they match. -/
theorem balances_of_mem_split (h : balances 0 (parens ts) = true) {chunk : List Token}
    (hchunk : chunk ∈ split ts) : balances 0 (parens chunk) = true := by
  unfold split at hchunk
  rcases balances_splitFrom h with ⟨hnil, -⟩ | ⟨first, chunks, hsplit, hfirst, hchunks⟩
  · rw [hnil] at hchunk
    cases hchunk
  · rw [hsplit] at hchunk
    rcases List.mem_cons.mp hchunk with rfl | hmem
    · exact hfirst
    · exact hchunks chunk hmem

/-! ### Nesting -/

/-- Nesting never meets a parenthesis without its partner when the parentheses match those that are
open. -/
theorem exists_nestFrom (stack : List (Token × List Piece)) (level : List Piece)
    (h : balances stack.length (parens ts) = true) : ∃ ps, nestFrom stack level ts = .ok ps := by
  induction ts generalizing stack level with
  | nil =>
    cases stack with
    | nil => exact ⟨_, by rw [nestFrom]⟩
    | cons e stack => simp [balances, parens] at h
  | cons t ts ih =>
    obtain ⟨hclose, hrest⟩ := (balances_cons stack.length t ts).mp h
    by_cases ho : t.lexClass = .openParen
    · rw [nestFrom_open ho]
      apply ih
      simpa [depthAfter, ho] using hrest
    · by_cases hc : t.lexClass = .closeParen
      · cases stack with
        | nil => exact absurd rfl (hclose hc)
        | cons e stack =>
          obtain ⟨opening, outer⟩ := e
          rw [nestFrom_close hc]
          apply ih
          simpa [depthAfter, hc] using hrest
      · rw [nestFrom_other ho hc]
        apply ih
        rwa [depthAfter_other ho hc] at hrest

theorem exists_mapM {α β ε : Type} {f : α → Except ε β} {xs : List α} (h : ∀ x ∈ xs, ∃ y, f x = .ok y) :
    ∃ ys, xs.mapM f = .ok ys := by
  induction xs with
  | nil => exact ⟨[], rfl⟩
  | cons x xs ih =>
    obtain ⟨y, hy⟩ := h x (by simp)
    obtain ⟨ys, hys⟩ := ih fun z hz => h z (by simp [hz])
    refine ⟨y :: ys, ?_⟩
    rw [List.mapM_cons, hy, hys]
    rfl

/-! ### Accepted texts -/

theorem parse_eq_mapM {sql : String} (h : balancedTokens sql = .ok ts) :
    parse sql = ((split ts).filter isSignificant).mapM fun chunk =>
      match nest chunk with
      | .ok pieces => .ok ⟨pieces⟩
      | .error e => .error (.parens e) := by
  unfold parse
  rw [h]
  rfl

/-- A text with complete tokens and matching parentheses has one statement for every significant part. -/
theorem exists_parse {sql : String} (h : balancedTokens sql = .ok ts) :
    ∃ statements, parse sql = .ok statements ∧
      statements.length = ((split ts).filter isSignificant).length := by
  obtain ⟨-, hcheck⟩ := (balancedTokens_eq_ok_iff sql ts).mp h
  have hbalanced : balances 0 (parens ts) = true := (checkParensFrom_eq_ok_iff [] ts).mp hcheck
  have hparse := parse_eq_mapM h
  obtain ⟨statements, hstatements⟩ : ∃ statements, parse sql = .ok statements := by
    rw [hparse]
    apply exists_mapM
    intro chunk hchunk
    have hmatch := balances_of_mem_split hbalanced (List.mem_of_mem_filter hchunk)
    obtain ⟨ps, hps⟩ : ∃ ps, nest chunk = .ok ps := exists_nestFrom [] [] hmatch
    exact ⟨⟨ps⟩, by rw [hps]⟩
  refine ⟨statements, hstatements, ?_⟩
  rw [hparse] at hstatements
  exact (Except.mapM_eq_ok_iff.mp hstatements).length_eq.symm

/-- A text is refused for incomplete tokens or parentheses that do not match, and for nothing else. -/
theorem parse_eq_error_iff (sql : String) (e : MalformedSql) :
    parse sql = .error e ↔ balancedTokens sql = .error e := by
  cases hb : balancedTokens sql with
  | error e' =>
    have hparse : parse sql = .error e' := by
      unfold parse
      rw [hb]
      rfl
    rw [hparse]
    simp
  | ok ts =>
    obtain ⟨statements, hparse, -⟩ := exists_parse hb
    rw [hparse]
    simp

/-! ### The number of statements -/

/-- The number of statements of a token list at a depth of open parentheses; `begun` says whether the
current statement already has a significant token. -/
def statementsFrom : (depth : Nat) → (begun : Bool) → List Token → Nat
  | _, begun, [] => begun.toNat
  | depth, begun, t :: ts =>
    if t.lexClass = .semicolon ∧ depth = 0 then 1 + statementsFrom 0 false ts
    else statementsFrom (depthAfter depth t) (begun || !t.lexClass.isTrivia) ts

theorem length_filter_cons (chunk : List Token) (chunks : List (List Token)) :
    ((chunk :: chunks).filter isSignificant).length =
      (isSignificant chunk).toNat + (chunks.filter isSignificant).length := by
  cases hchunk : isSignificant chunk with
  | true => rw [List.filter_cons_of_pos hchunk, List.length_cons, Bool.toNat_true, Nat.add_comm]
  | false => rw [List.filter_cons_of_neg (by simp [hchunk]), Bool.toNat_false, Nat.zero_add]

/-- What is begun counts with the first part, and every other part counts when it is significant. -/
theorem statementsFrom_eq (depth : Nat) (begun : Bool) (ts : List Token) :
    statementsFrom depth begun ts = match splitFrom depth ts with
      | [] => begun.toNat
      | chunk :: chunks => (begun || isSignificant chunk).toNat + (chunks.filter isSignificant).length := by
  induction ts generalizing depth begun with
  | nil => rfl
  | cons t ts ih =>
    by_cases hend : t.lexClass = .semicolon ∧ depth = 0
    · have hsignificant : isSignificant [t] = true := by
        simp [isSignificant, hend.1, LexClass.isTrivia]
      rw [statementsFrom, if_pos hend, splitFrom_end hend, ih]
      dsimp only
      rw [hsignificant, Bool.or_true]
      cases splitFrom 0 ts with
      | nil => rfl
      | cons chunk chunks =>
        dsimp only
        rw [length_filter_cons, Bool.false_or]
        rfl
    · rw [statementsFrom, if_neg hend, splitFrom_inside hend, ih]
      cases splitFrom (depthAfter depth t) ts with
      | nil => simp [isSignificant]
      | cons chunk chunks => simp [isSignificant, Bool.or_assoc]

/-- The statements of a token list are its significant parts. -/
theorem length_filter_split (ts : List Token) :
    ((split ts).filter isSignificant).length = statementsFrom 0 false ts := by
  rw [statementsFrom_eq]
  unfold split
  cases splitFrom 0 ts with
  | nil => rfl
  | cons chunk chunks =>
    rw [length_filter_cons]
    rfl

end SqlOutline.Statement
