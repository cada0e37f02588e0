import SqlOutline.Token.Parens

/-!
# Balanced parentheses by class

The check of parentheses keeps places for its errors.  Whether it succeeds depends on the classes of the
parentheses alone.

* `parens` : the classes of the parentheses of a list of tokens;
* `balances` : whether they match; `balances_append` puts two balanced lists together;
* `checkParens_congr` : lists with the same parentheses pass the check together;
* `balancedTokens_eq_ok_iff` : the tokens of a text that passes it.
-/

namespace SqlOutline.Token

/-- Whether a class is a parenthesis. -/
def isParen (k : LexClass) : Bool := k == .openParen || k == .closeParen

/-- The classes of the parentheses of a list of tokens. -/
def parens (ts : List Token) : List LexClass := (ts.map (·.lexClass)).filter isParen

/-- Whether the parentheses match when a number of them is already open. -/
def balances : Nat → List LexClass → Bool
  | n, [] => n == 0
  | n, k :: ks =>
    if k = .openParen then balances (n + 1) ks
    else match n with
      | 0 => false
      | m + 1 => balances m ks

/-- A list that is balanced in itself may follow. -/
theorem balances_append {n : Nat} {ks ks' : List LexClass} (h : balances n ks = true)
    (h' : balances 0 ks' = true) : balances n (ks ++ ks') = true := by
  induction ks generalizing n with
  | nil =>
    obtain rfl : n = 0 := by simpa [balances] using h
    exact h'
  | cons k ks ih =>
    by_cases hk : k = .openParen
    · simp only [List.cons_append, balances, hk, if_true] at h ⊢
      exact ih h
    · cases n with
      | zero => simp [balances, hk] at h
      | succ m =>
        simp only [List.cons_append, balances, hk, if_false] at h ⊢
        exact ih h

theorem parens_cons (t : Token) (ts : List Token) :
    parens (t :: ts) = if isParen t.lexClass then t.lexClass :: parens ts else parens ts := by
  unfold parens
  rw [List.map_cons, List.filter_cons]

theorem checkParensFrom_open {t : Token} (h : t.lexClass = .openParen) (opened : List Position)
    (ts : List Token) : checkParensFrom opened (t :: ts) = checkParensFrom (t.pos :: opened) ts := by
  cases opened <;> simp only [checkParensFrom, h]

theorem checkParensFrom_close {t : Token} (h : t.lexClass = .closeParen) (p : Position)
    (opened : List Position) (ts : List Token) :
    checkParensFrom (p :: opened) (t :: ts) = checkParensFrom opened ts := by
  simp only [checkParensFrom, h]

theorem checkParensFrom_close_nil {t : Token} (h : t.lexClass = .closeParen) (ts : List Token) :
    checkParensFrom [] (t :: ts) = .error (.unmatchedClose t.pos) := by
  simp only [checkParensFrom, h]

theorem checkParensFrom_other {t : Token} (h : isParen t.lexClass = false) (opened : List Position)
    (ts : List Token) : checkParensFrom opened (t :: ts) = checkParensFrom opened ts := by
  cases hk : t.lexClass <;> first
    | (rw [hk] at h; cases h; done)
    | cases opened <;> simp only [checkParensFrom, hk]

theorem checkParensFrom_eq_ok_iff (opened : List Position) (ts : List Token) :
    checkParensFrom opened ts = .ok () ↔ balances opened.length (parens ts) = true := by
  induction ts generalizing opened with
  | nil => cases opened <;> simp [checkParensFrom, balances, parens]
  | cons t ts ih =>
    rw [parens_cons]
    by_cases ho : t.lexClass = .openParen
    · rw [checkParensFrom_open ho, ih, ho]
      rfl
    · by_cases hc : t.lexClass = .closeParen
      · rw [hc]
        cases opened with
        | nil =>
          rw [checkParensFrom_close_nil hc]
          simp [balances, isParen]
        | cons p opened =>
          rw [checkParensFrom_close hc, ih]
          rfl
      · have hother : isParen t.lexClass = false := by simp [isParen, ho, hc]
        rw [checkParensFrom_other hother, ih, if_neg (by simp [hother])]

/-- Lists with the same parentheses pass the check together. -/
theorem checkParens_congr {ts us : List Token} (h : parens ts = parens us) :
    checkParens ts = .ok () ↔ checkParens us = .ok () := by
  unfold checkParens
  rw [checkParensFrom_eq_ok_iff, checkParensFrom_eq_ok_iff, h]

theorem balancedTokens_eq_ok_iff (sql : String) (ts : List Token) :
    balancedTokens sql = .ok ts ↔ Scan.tokenize sql = .ok ts ∧ checkParens ts = .ok () := by
  unfold balancedTokens
  cases hus : Scan.tokenize sql with
  | error e => simp
  | ok us =>
    cases hp : checkParens us with
    | error e =>
      constructor
      · intro h
        simp [hp] at h
      · rintro ⟨hsame, hts⟩
        rw [← Except.ok.inj hsame, hp] at hts
        cases hts
    | ok u =>
      constructor
      · intro h
        obtain rfl : us = ts := by simpa [hp] using h
        exact ⟨rfl, hp⟩
      · rintro ⟨hsame, -⟩
        simpa [hp] using hsame

end SqlOutline.Token
