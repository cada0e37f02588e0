import SqlOutline.Proofs.Piece.Matching

/-!
# Which `CASE` has an `END`

A `CASE` expression reaches to the `END` that closes it, so in its inside every `CASE` is closed and every
`END` closes one.  Folding such a list leaves neither.

* `closesCases` : whether every `CASE` is closed and every `END` closes one;
* `closesCases_of_splitAtEnd`, `exists_splitAtEnd` : splitting at an `END` succeeds on such lists, and what
  stands before the `END` is one;
* `not_isLeafOf_foldCases` : what is left after folding.
-/

namespace SqlOutline.Rules

open Piece Pattern

/-- Whether every `CASE` is closed and every `END` closes one, when a number of them is already open. -/
def closesCases : (opened : Nat) → List Piece → Bool
  | n, [] => n == 0
  | n, p :: ps =>
    if p.isLeaf (.keyword .CASE) then closesCases (n + 1) ps
    else if p.isLeaf (.keyword .END) then
      match n with
      | 0 => false
      | m + 1 => closesCases m ps
    else closesCases n ps

variable {p last : Piece} {ps body rest : List Piece} {n k : Nat}

theorem closesCases_case (hp : p.isLeaf (.keyword .CASE) = true) :
    closesCases n (p :: ps) = closesCases (n + 1) ps := by
  simp [closesCases, hp]

theorem closesCases_end (hc : p.isLeaf (.keyword .CASE) ≠ true) (he : p.isLeaf (.keyword .END) = true) :
    closesCases 0 (p :: ps) = false ∧ closesCases (n + 1) (p :: ps) = closesCases n ps := by
  simp [closesCases, hc, he]

theorem closesCases_other (hc : p.isLeaf (.keyword .CASE) ≠ true) (he : p.isLeaf (.keyword .END) ≠ true) :
    closesCases n (p :: ps) = closesCases n ps := by
  simp [closesCases, hc, he]

/-! ### Splitting -/

theorem splitAtEnd_case (hp : p.isLeaf (.keyword .CASE) = true) :
    splitAtEnd n (p :: ps) =
      (splitAtEnd (n + 1) ps).map fun (body, last, rest) => (p :: body, last, rest) := by
  rw [splitAtEnd, if_pos hp]

theorem splitAtEnd_end (hc : p.isLeaf (.keyword .CASE) ≠ true) (he : p.isLeaf (.keyword .END) = true) :
    splitAtEnd 1 (p :: ps) = some ([], p, ps) := by
  rw [splitAtEnd, if_neg hc, if_pos he, if_pos (Nat.le_refl 1)]

theorem splitAtEnd_inner_end (hc : p.isLeaf (.keyword .CASE) ≠ true)
    (he : p.isLeaf (.keyword .END) = true) :
    splitAtEnd (n + 2) (p :: ps) =
      (splitAtEnd (n + 1) ps).map fun (body, last, rest) => (p :: body, last, rest) := by
  rw [splitAtEnd, if_neg hc, if_pos he, if_neg (by omega)]
  rfl

theorem splitAtEnd_other (hc : p.isLeaf (.keyword .CASE) ≠ true) (he : p.isLeaf (.keyword .END) ≠ true) :
    splitAtEnd n (p :: ps) =
      (splitAtEnd n ps).map fun (body, last, rest) => (p :: body, last, rest) := by
  rw [splitAtEnd, if_neg hc, if_neg he]

theorem exists_of_map_cons {o : Option (List Piece × Piece × List Piece)}
    (h : o.map (fun (body, last, rest) => (p :: body, last, rest)) = some (body, last, rest)) :
    ∃ inner, body = p :: inner ∧ o = some (inner, last, rest) := by
  obtain ⟨⟨inner, l, r⟩, ho, heq⟩ := Option.map_eq_some_iff.mp h
  obtain ⟨rfl, rfl, rfl⟩ : p :: inner = body ∧ l = last ∧ r = rest := by simpa using heq
  exact ⟨inner, rfl, ho⟩

/-- What stands before the `END` closes all but one of the open `CASE`s. -/
theorem closesCases_of_splitAtEnd (h : splitAtEnd (n + 1) ps = some (body, last, rest)) :
    closesCases n body = true ∧ last.isLeaf (.keyword .END) = true := by
  induction ps generalizing n body with
  | nil => cases h
  | cons p ps ih =>
    by_cases hc : p.isLeaf (.keyword .CASE) = true
    · rw [splitAtEnd_case hc] at h
      obtain ⟨inner, rfl, hinner⟩ := exists_of_map_cons h
      obtain ⟨hcloses, hlast⟩ := ih hinner
      exact ⟨(closesCases_case hc).trans hcloses, hlast⟩
    · by_cases he : p.isLeaf (.keyword .END) = true
      · cases n with
        | zero =>
          rw [splitAtEnd_end hc he] at h
          obtain ⟨rfl, rfl, rfl⟩ : [] = body ∧ p = last ∧ ps = rest := by simpa using h
          exact ⟨rfl, he⟩
        | succ n =>
          rw [splitAtEnd_inner_end hc he] at h
          obtain ⟨inner, rfl, hinner⟩ := exists_of_map_cons h
          obtain ⟨hcloses, hlast⟩ := ih hinner
          exact ⟨(closesCases_end hc he).2.trans hcloses, hlast⟩
      · rw [splitAtEnd_other hc he] at h
        obtain ⟨inner, rfl, hinner⟩ := exists_of_map_cons h
        obtain ⟨hcloses, hlast⟩ := ih hinner
        exact ⟨(closesCases_other hc he).trans hcloses, hlast⟩

/-- Where all `CASE`s are closed, the `END` of one of them is found, and the others are closed behind
it. -/
theorem exists_splitAtEnd (h : closesCases (k + n + 1) ps = true) :
    ∃ body last rest, splitAtEnd (n + 1) ps = some (body, last, rest) ∧ closesCases k rest = true := by
  induction ps generalizing n with
  | nil => simp [closesCases] at h
  | cons p ps ih =>
    by_cases hc : p.isLeaf (.keyword .CASE) = true
    · rw [closesCases_case hc] at h
      obtain ⟨body, last, rest, hsplit, hrest⟩ := ih (n := n + 1) h
      exact ⟨p :: body, last, rest, by rw [splitAtEnd_case hc, hsplit]; rfl, hrest⟩
    · by_cases he : p.isLeaf (.keyword .END) = true
      · rw [(closesCases_end hc he).2] at h
        cases n with
        | zero => exact ⟨[], p, ps, splitAtEnd_end hc he, h⟩
        | succ n =>
          obtain ⟨body, last, rest, hsplit, hrest⟩ := ih h
          exact ⟨p :: body, last, rest, by rw [splitAtEnd_inner_end hc he, hsplit]; rfl, hrest⟩
      · rw [closesCases_other hc he] at h
        obtain ⟨body, last, rest, hsplit, hrest⟩ := ih h
        exact ⟨p :: body, last, rest, by rw [splitAtEnd_other hc he, hsplit]; rfl, hrest⟩

/-! ### Folding -/

theorem isLeafOf_pair (p : Piece) (k l : LexClass) :
    p.isLeafOf [k, l] = false ↔ p.isLeaf k ≠ true ∧ p.isLeaf l ≠ true := by
  cases p with
  | leaf t => simp [isLeafOf, isLeaf, lexClass?]
  | group kind text pos members => simp [isLeafOf, isLeaf, lexClass?]

/-- Folding leaves neither `CASE` nor `END` in a list in which all of them belong together. -/
theorem not_isLeafOf_foldCases (h : closesCases 0 ps = true) :
    ∀ q ∈ foldCases ps, q.isLeafOf [.keyword .CASE, .keyword .END] = false := by
  fun_induction foldCases ps with
  | case1 => simp
  | case2 p ps hp body last rest hsplit _ ihrest =>
    rw [closesCases_case hp] at h
    obtain ⟨body', last', rest', hsplit', hrest⟩ := exists_splitAtEnd (k := 0) (n := 0) h
    obtain ⟨-, -, rfl⟩ : body = body' ∧ last = last' ∧ rest = rest' := by
      rw [hsplit] at hsplit'
      simpa using hsplit'
    intro q hq
    rcases List.mem_cons.mp hq with rfl | hq
    · rfl
    · exact ihrest hrest q hq
  | case3 p ps hp hnone _ =>
    -- there is an `END` for this `CASE`
    rw [closesCases_case hp] at h
    obtain ⟨body, last, rest, hsplit, -⟩ := exists_splitAtEnd (k := 0) (n := 0) h
    rw [hnone] at hsplit
    cases hsplit
  | case4 p ps hp ih =>
    by_cases he : p.isLeaf (.keyword .END) = true
    · rw [(closesCases_end (n := 0) hp he).1] at h
      cases h
    · rw [closesCases_other hp he] at h
      intro q hq
      rcases List.mem_cons.mp hq with rfl | hq
      · exact (isLeafOf_pair q _ _).mpr ⟨hp, he⟩
      · exact ih h q hq

end SqlOutline.Rules
