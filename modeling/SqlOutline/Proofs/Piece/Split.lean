import SqlOutline.Piece.Statement

/-!
# Cutting a token list into statements

A token list is cut after every semicolon outside parentheses.  What is cut is put together again by
appending, a part has such a semicolon at its end only, and only the last part may be without one.

* `IsOuterSemicolon` : a semicolon outside parentheses;
* `EndsStatement`, `OneStatement` : a part with such a semicolon at its end, and with none before its end;
* `Chunks` : a list of such parts;
* `flatten_split`, `chunks_split` : the parts of a token list are its chunks;
* `Chunks.exists_rest` : which tokens are left when the parts without significant tokens are left out.
-/

namespace SqlOutline.Statement

/-! ### Semicolons outside parentheses -/

/-- The number of open parentheses after a token. -/
def depthAfter (depth : Nat) (t : Token) : Nat :=
  match t.lexClass with
  | .openParen => depth + 1
  | .closeParen => depth - 1
  | _ => depth

/-- A token after the given ones is a semicolon outside parentheses. -/
def IsOuterSemicolon (depth : Nat) (before : List Token) (t : Token) : Prop :=
  t.lexClass = .semicolon ∧ before.foldl depthAfter depth = 0

/-- The tokens end with a semicolon outside parentheses. -/
def EndsStatement (depth : Nat) (ts : List Token) : Prop :=
  ∃ before t, ts = before ++ [t] ∧ IsOuterSemicolon depth before t

/-- No semicolon outside parentheses stands before the end of the tokens. -/
def OneStatement (depth : Nat) (ts : List Token) : Prop :=
  ∀ before t after, ts = before ++ t :: after → IsOuterSemicolon depth before t → after = []

/-- No semicolon of the tokens stands outside parentheses. -/
def NoStatementEnd (depth : Nat) (ts : List Token) : Prop :=
  ∀ before t after, ts = before ++ t :: after → ¬ IsOuterSemicolon depth before t

variable {depth : Nat} {t : Token} {ts us : List Token}

theorem depthAfter_other (ho : t.lexClass ≠ .openParen) (hc : t.lexClass ≠ .closeParen) :
    depthAfter depth t = depth := by
  unfold depthAfter
  split
  · contradiction
  · contradiction
  · rfl

theorem EndsStatement.cons (h : EndsStatement (depthAfter depth t) ts) :
    EndsStatement depth (t :: ts) := by
  obtain ⟨before, last, rfl, hlast⟩ := h
  exact ⟨t :: before, last, rfl, hlast⟩

theorem OneStatement.cons (ht : ¬ (t.lexClass = .semicolon ∧ depth = 0))
    (h : OneStatement (depthAfter depth t) ts) : OneStatement depth (t :: ts) := by
  intro before u after heq hu
  cases before with
  | nil =>
    obtain ⟨rfl, -⟩ := List.cons.inj heq
    exact absurd hu ht
  | cons b before =>
    obtain ⟨rfl, rfl⟩ := List.cons.inj heq
    exact h before u after rfl hu

theorem NoStatementEnd.cons (ht : ¬ (t.lexClass = .semicolon ∧ depth = 0))
    (h : NoStatementEnd (depthAfter depth t) ts) : NoStatementEnd depth (t :: ts) := by
  intro before u after heq hu
  cases before with
  | nil =>
    obtain ⟨rfl, -⟩ := List.cons.inj heq
    exact ht hu
  | cons b before =>
    obtain ⟨rfl, rfl⟩ := List.cons.inj heq
    exact h before u after rfl hu

/-- After a statement all parentheses are closed. -/
theorem EndsStatement.depth_eq (h : EndsStatement depth ts) : ts.foldl depthAfter depth = 0 := by
  obtain ⟨before, t, rfl, hsemicolon, hdepth⟩ := h
  simp [hdepth, depthAfter, hsemicolon]

theorem EndsStatement.append (h : EndsStatement depth ts) (h' : EndsStatement 0 us) :
    EndsStatement depth (ts ++ us) := by
  obtain ⟨before, t, rfl, hsemicolon, hdepth⟩ := h'
  refine ⟨ts ++ before, t, by simp, hsemicolon, ?_⟩
  rw [List.foldl_append, h.depth_eq, hdepth]

theorem EndsStatement.isSignificant (h : EndsStatement depth ts) : isSignificant ts = true := by
  obtain ⟨before, t, rfl, hsemicolon, -⟩ := h
  simp [Statement.isSignificant, hsemicolon, LexClass.isTrivia]

/-! ### The parts of a token list -/

/-- Parts of a token list: each ends its statement and is one statement, and only the last one may be
unfinished.  The first one starts at the given depth. -/
inductive Chunks : Nat → List (List Token) → Prop
  | nil (depth : Nat) : Chunks depth []
  | last {depth : Nat} {chunk : List Token} : chunk ≠ [] → NoStatementEnd depth chunk →
      Chunks depth [chunk]
  | cons {depth : Nat} {chunk : List Token} {chunks : List (List Token)} : EndsStatement depth chunk →
      OneStatement depth chunk → Chunks 0 chunks → Chunks depth (chunk :: chunks)

theorem splitFrom_end (ht : t.lexClass = .semicolon ∧ depth = 0) :
    splitFrom depth (t :: ts) = [t] :: splitFrom 0 ts := by
  rw [splitFrom, if_pos ht]

theorem splitFrom_inside (ht : ¬ (t.lexClass = .semicolon ∧ depth = 0)) :
    splitFrom depth (t :: ts) = match splitFrom (depthAfter depth t) ts with
      | [] => [[t]]
      | chunk :: chunks => (t :: chunk) :: chunks := by
  rw [splitFrom, if_neg ht]
  rfl

theorem flatten_splitFrom (depth : Nat) (ts : List Token) : (splitFrom depth ts).flatten = ts := by
  induction ts generalizing depth with
  | nil => rfl
  | cons t ts ih =>
    by_cases hend : t.lexClass = .semicolon ∧ depth = 0
    · rw [splitFrom_end hend]
      simp [ih]
    · have hrest := ih (depthAfter depth t)
      rw [splitFrom_inside hend]
      cases hsplit : splitFrom (depthAfter depth t) ts with
      | nil =>
        rw [hsplit] at hrest
        simpa using hrest
      | cons chunk chunks =>
        rw [hsplit] at hrest
        simpa using hrest

theorem chunks_splitFrom (depth : Nat) (ts : List Token) : Chunks depth (splitFrom depth ts) := by
  induction ts generalizing depth with
  | nil => exact .nil depth
  | cons t ts ih =>
    by_cases hend : t.lexClass = .semicolon ∧ depth = 0
    · rw [splitFrom_end hend]
      refine .cons ⟨[], t, rfl, hend⟩ ?_ (ih 0)
      intro before u after heq _
      have hlen := congrArg List.length heq
      simp only [List.length_cons, List.length_nil, List.length_append] at hlen
      exact List.length_eq_zero_iff.mp (by omega)
    · have hrest := ih (depthAfter depth t)
      rw [splitFrom_inside hend]
      cases hsplit : splitFrom (depthAfter depth t) ts with
      | nil =>
        refine .last (by simp) (.cons hend ?_)
        intro before u after heq
        simp at heq
      | cons chunk chunks =>
        rw [hsplit] at hrest
        cases hrest with
        | last _ hno => exact .last (by simp) (hno.cons hend)
        | cons hends hone hchunks => exact .cons hends.cons (hone.cons hend) hchunks

/-- The parts of a token list make it up. -/
theorem flatten_split (ts : List Token) : (split ts).flatten = ts := flatten_splitFrom 0 ts

theorem chunks_split (ts : List Token) : Chunks 0 (split ts) := chunks_splitFrom 0 ts

/-! ### Leaving out what is not significant -/

theorem isSignificant_eq (ts : List Token) : isSignificant ts = !ts.all (·.lexClass.isTrivia) := by
  induction ts with
  | nil => rfl
  | cons t ts ih =>
    have hcons : isSignificant (t :: ts) = (!t.lexClass.isTrivia || isSignificant ts) := rfl
    rw [hcons, ih, List.all_cons, Bool.not_and]

theorem Chunks.filter {chunks : List (List Token)} (h : Chunks depth chunks) :
    Chunks depth (chunks.filter isSignificant) := by
  induction h with
  | nil depth => exact .nil depth
  | @last depth chunk hne hno =>
    cases hs : isSignificant chunk with
    | true => simpa [hs] using Chunks.last hne hno
    | false => simpa [hs] using Chunks.nil depth
  | cons hends hone _ ih =>
    rw [List.filter_cons_of_pos hends.isSignificant]
    exact .cons hends hone ih

/-- Only tokens after the last semicolon outside parentheses are left out, and only when none of them is
significant. -/
theorem Chunks.exists_rest {chunks : List (List Token)} (h : Chunks depth chunks) (hdepth : depth = 0) :
    ∃ kept rest, chunks.flatten = kept ++ rest ∧ (kept = [] ∨ EndsStatement 0 kept) ∧
      NoStatementEnd 0 rest ∧ (chunks.filter isSignificant).flatten =
        if rest.all (·.lexClass.isTrivia) then kept else chunks.flatten := by
  induction h with
  | nil depth => exact ⟨[], [], rfl, .inl rfl, fun _ _ _ heq => by simp at heq, rfl⟩
  | @last depth chunk hne hno =>
    subst hdepth
    refine ⟨[], chunk, by simp, .inl rfl, hno, ?_⟩
    cases hall : chunk.all (·.lexClass.isTrivia) with
    | true => simp [isSignificant_eq, hall]
    | false => simp [isSignificant_eq, hall]
  | @cons depth chunk chunks hends hone hchunks ih =>
    subst hdepth
    obtain ⟨kept, rest, hflat, hkept, hrest, hfilter⟩ := ih rfl
    refine ⟨chunk ++ kept, rest, ?_, .inr ?_, hrest, ?_⟩
    · rw [List.flatten_cons, hflat, List.append_assoc]
    · rcases hkept with rfl | hkept
      · simpa using hends
      · exact hends.append hkept
    · rw [List.filter_cons_of_pos hends.isSignificant, List.flatten_cons, hfilter, List.flatten_cons]
      split <;> rfl

theorem Chunks.oneStatement {chunks : List (List Token)} (h : Chunks depth chunks) (hdepth : depth = 0) :
    ∀ chunk ∈ chunks, OneStatement 0 chunk := by
  induction h with
  | nil => simp
  | last _ hno =>
    subst hdepth
    intro chunk hchunk before t after heq hsemicolon
    rw [List.mem_singleton.mp hchunk] at heq
    exact absurd hsemicolon (hno before t after heq)
  | cons _ hone _ ih =>
    subst hdepth
    simpa using ⟨hone, ih rfl⟩

theorem Chunks.endsStatement {chunks before after : List (List Token)} {chunk : List Token}
    (h : Chunks depth chunks) (hdepth : depth = 0) (heq : chunks = before ++ chunk :: after)
    (hafter : after ≠ []) : EndsStatement 0 chunk := by
  induction h generalizing before with
  | nil => simp at heq
  | last _ _ =>
    have hlen := congrArg List.length heq
    simp only [List.length_cons, List.length_nil, List.length_append] at hlen
    exact absurd (List.length_eq_zero_iff.mp (by omega)) hafter
  | cons hends _ _ ih =>
    subst hdepth
    cases before with
    | nil =>
      obtain ⟨rfl, -⟩ := List.cons.inj heq
      exact hends
    | cons b before =>
      obtain ⟨-, htail⟩ := List.cons.inj heq
      exact ih rfl htail

end SqlOutline.Statement
