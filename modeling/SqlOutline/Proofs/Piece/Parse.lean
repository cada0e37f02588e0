import Mathlib.Data.List.Forall2
import SqlOutline.Proofs.Piece.Rules
import SqlOutline.Proofs.Piece.Split
import SqlOutline.Proofs.Result
import SqlOutline.Proofs.Scan.Balance
import SqlOutline.Proofs.Scan.Lexed

/-!
# Grouping keeps the tokens

The statements of a text are groups over the tokens of the text.  Nothing is lost, invented or reordered,
and every group says truly what it covers.

* `pending` : the tokens that stand in the open levels of a nesting;
* `nestFrom_cons_ok` : one token of a nesting;
* `nestFrom_regroups`, `nest_regroups` : nesting a token list regroups its leaves;
* `Marks` : a token, or a star marked as a wildcard;
* `parse_keeps_tokens` : the main result.
-/

namespace SqlOutline.Statement

open Piece Rules

variable {t : Token} {ts : List Token} {stack : List (Token × List Piece)} {level ps : List Piece}

/-! ### Nesting -/

/-- The tokens that stand in the open levels of a nesting, in source order. -/
def pending : List (Token × List Piece) → List Piece → List Token
  | [], level => leavesOf level.reverse
  | (opening, outer) :: stack, level => pending stack outer ++ opening :: leavesOf level.reverse

theorem pending_cons (stack : List (Token × List Piece)) (p : Piece) (level : List Piece) :
    pending stack (p :: level) = pending stack level ++ p.leaves := by
  cases stack with
  | nil => simp [pending]
  | cons e stack => simp [pending]

theorem nestFrom_open (h : t.lexClass = .openParen) :
    nestFrom stack level (t :: ts) = nestFrom ((t, level) :: stack) [] ts := by
  cases stack <;> simp only [nestFrom, h]

theorem nestFrom_close (h : t.lexClass = .closeParen) (opening : Token) (outer : List Piece) :
    nestFrom ((opening, outer) :: stack) level (t :: ts) =
      nestFrom stack (ofMembers .parenthesis
        (.leaf opening :: groupLevel level.reverse ++ [.leaf t]) :: outer) ts := by
  simp only [nestFrom, h]

theorem nestFrom_close_nil (h : t.lexClass = .closeParen) :
    nestFrom [] level (t :: ts) = .error (.unmatchedClose t.pos) := by
  simp only [nestFrom, h]

theorem nestFrom_other (ho : t.lexClass ≠ .openParen) (hc : t.lexClass ≠ .closeParen) :
    nestFrom stack level (t :: ts) = nestFrom stack (.leaf t :: level) ts := by
  cases hk : t.lexClass <;> first
    | exact absurd hk ho
    | exact absurd hk hc
    | cases stack <;> simp only [nestFrom, hk]

theorem nestFrom_nil_ok (h : nestFrom stack level [] = .ok ps) :
    stack = [] ∧ ps = groupLevel level.reverse := by
  cases stack with
  | nil => exact ⟨rfl, (Except.ok.inj h).symm⟩
  | cons e stack => cases h

/-- What the next token does: it opens a level, closes one, or joins the innermost one. -/
theorem nestFrom_cons_ok (h : nestFrom stack level (t :: ts) = .ok ps) :
    (t.lexClass = .openParen ∧ nestFrom ((t, level) :: stack) [] ts = .ok ps) ∨
    (t.lexClass = .closeParen ∧ ∃ opening outer below, stack = (opening, outer) :: below ∧
      nestFrom below (ofMembers .parenthesis
        (.leaf opening :: groupLevel level.reverse ++ [.leaf t]) :: outer) ts = .ok ps) ∨
    (t.lexClass ≠ .openParen ∧ t.lexClass ≠ .closeParen ∧ nestFrom stack (.leaf t :: level) ts = .ok ps) := by
  by_cases ho : t.lexClass = .openParen
  · rw [nestFrom_open ho] at h
    exact .inl ⟨ho, h⟩
  · by_cases hc : t.lexClass = .closeParen
    · cases stack with
      | nil =>
        rw [nestFrom_close_nil hc] at h
        cases h
      | cons e below =>
        obtain ⟨opening, outer⟩ := e
        rw [nestFrom_close hc] at h
        exact .inr (.inl ⟨hc, opening, outer, below, rfl, h⟩)
    · rw [nestFrom_other ho hc] at h
      exact .inr (.inr ⟨ho, hc, h⟩)

/-- The pieces of a nesting are well-formed and stand for the tokens of its open levels and the tokens that
were still to come. -/
theorem nestFrom_regroups (h : nestFrom stack level ts = .ok ps)
    (hstack : ∀ e ∈ stack, ∀ p ∈ e.2, p.WellFormed) (hlevel : ∀ p ∈ level, p.WellFormed) :
    (leavesOf ps).map unmark = (pending stack level ++ ts).map unmark ∧ ∀ p ∈ ps, p.WellFormed := by
  induction ts generalizing stack level with
  | nil =>
    obtain ⟨rfl, rfl⟩ := nestFrom_nil_ok h
    have hgroup := regroups_groupLevel level.reverse
    refine ⟨?_, hgroup.wellFormed fun p hp => hlevel p (List.mem_reverse.mp hp)⟩
    rw [hgroup.tokens, List.append_nil]
    rfl
  | cons t ts ih =>
    rcases nestFrom_cons_ok h with ⟨-, hrest⟩ | ⟨-, opening, outer, below, rfl, hrest⟩ | ⟨-, -, hrest⟩
    · obtain ⟨htokens, hwell⟩ := ih hrest (List.forall_mem_cons.mpr ⟨hlevel, hstack⟩) (by simp)
      refine ⟨?_, hwell⟩
      rw [htokens]
      simp [pending]
    · obtain ⟨houter, hbelow⟩ := List.forall_mem_cons.mp hstack
      have hgroup := regroups_groupLevel level.reverse
      have hinner : ∀ p ∈ groupLevel level.reverse, p.WellFormed :=
        hgroup.wellFormed fun p hp => hlevel p (List.mem_reverse.mp hp)
      have hmembers : ∀ p ∈ Piece.leaf opening :: groupLevel level.reverse ++ [Piece.leaf t],
          p.WellFormed := forall_mem_bracket (.leaf _) hinner (.leaf _)
      obtain ⟨htokens, hwell⟩ := ih hrest hbelow
        (List.forall_mem_cons.mpr ⟨wellFormed_ofMembers (by simp) hmembers, houter⟩)
      refine ⟨?_, hwell⟩
      rw [htokens, pending_cons]
      simp [pending, ofMembers, hgroup.tokens]
    · obtain ⟨htokens, hwell⟩ := ih hrest hstack (List.forall_mem_cons.mpr ⟨.leaf t, hlevel⟩)
      refine ⟨?_, hwell⟩
      rw [htokens, pending_cons]
      simp

/-- The pieces of a nested token list are well-formed and stand for its tokens. -/
theorem nest_regroups (h : nest ts = .ok ps) :
    (leavesOf ps).map unmark = ts.map unmark ∧ ∀ p ∈ ps, p.WellFormed := by
  have hall := nestFrom_regroups h (by simp) (by simp)
  simpa [pending] using hall

theorem sourceText_eq_ofList (ts : List Token) : sourceText ts = String.ofList (Token.spell ts) := by
  apply String.toList_inj.mp
  simp [sourceText, Token.spell, String.toList_join, List.flatMap_def, Function.comp_def]

theorem joinText_nest (h : nest ts = .ok ps) : joinText ps = String.ofList (Token.spell ts) := by
  obtain ⟨htokens, hwell⟩ := nest_regroups h
  rw [joinText_eq hwell, ← sourceText_eq_ofList, ← sourceText_map_unmark, htokens, sourceText_map_unmark]

/-! ### Marked tokens -/

/-- The second token is the first one, or the first one is a star that the second one marks as a
wildcard. -/
def Marks (t t' : Token) : Prop :=
  t' = t ∨ t.lexClass = .star ∧ t' = { t with lexClass := .wildcard }

theorem marks_unmark (t : Token) : Marks (unmark t) t := by
  unfold unmark
  split
  · rename_i h
    refine .inr ⟨rfl, ?_⟩
    obtain ⟨lexClass, text, pos⟩ := t
    obtain rfl : lexClass = .wildcard := h
    rfl
  · exact .inl rfl

theorem forall₂_marks_unmark (ts : List Token) : List.Forall₂ Marks (ts.map unmark) ts := by
  induction ts with
  | nil => exact .nil
  | cons t ts ih => exact .cons (marks_unmark t) ih

/-- The scanner never gives a wildcard. -/
theorem ne_wildcard_of_shape {k : LexClass} {w : List Char} (h : Scan.Shape k w) : k ≠ .wildcard := by
  cases h with
  | word _ _ => exact Scan.ofWord_ne rfl _
  | symbol hmem => exact Scan.ne_of_mem_symbols (by decide) hmem
  | _ => simp

theorem map_unmark_of_shape (h : ∀ t ∈ ts, Scan.Shape t.lexClass t.text.toList) : ts.map unmark = ts := by
  rw [List.map_congr_left (g := id) fun t ht => ?_, List.map_id]
  simp [unmark, ne_wildcard_of_shape (h t ht)]

theorem depthAfter_unmark (depth : Nat) (t : Token) : depthAfter depth (unmark t) = depthAfter depth t := by
  unfold unmark
  split
  · rename_i h
    simp [depthAfter, h]
  · rfl

theorem isOuterSemicolon_map_unmark (depth : Nat) (before : List Token) (t : Token) :
    IsOuterSemicolon depth (before.map unmark) (unmark t) ↔ IsOuterSemicolon depth before t := by
  have hclass : (unmark t).lexClass = .semicolon ↔ t.lexClass = .semicolon := by
    unfold unmark
    split
    · rename_i h
      simp [h]
    · rfl
  have hdepth : (before.map unmark).foldl depthAfter depth = before.foldl depthAfter depth := by
    rw [List.foldl_map]
    congr 1
    funext n u
    exact depthAfter_unmark n u
  unfold IsOuterSemicolon
  rw [hclass, hdepth]

theorem endsStatement_of_map_unmark (h : EndsStatement 0 (ts.map unmark)) : EndsStatement 0 ts := by
  obtain ⟨before, t, heq, hsemicolon⟩ := h
  obtain ⟨before', last, rfl, rfl, hlast⟩ := List.map_eq_append_iff.mp heq
  obtain ⟨t', rfl, rfl⟩ := List.map_eq_singleton_iff.mp hlast
  exact ⟨before', t', rfl, (isOuterSemicolon_map_unmark 0 before' t').mp hsemicolon⟩

theorem oneStatement_of_map_unmark (h : OneStatement 0 (ts.map unmark)) : OneStatement 0 ts := by
  rintro before t after rfl hsemicolon
  have hafter := h (before.map unmark) (unmark t) (after.map unmark) (by simp)
    ((isOuterSemicolon_map_unmark 0 before t).mpr hsemicolon)
  simpa using hafter

/-! ### The statements of a text -/

/-- The statements of a text are its significant parts, nested. -/
theorem nest_of_parse {sql : String} {statements : List Statement} (h : parse sql = .ok statements) :
    ∃ ts, Scan.tokenize sql = .ok ts ∧
      List.Forall₂ (fun chunk s => nest chunk = .ok s.pieces) ((split ts).filter isSignificant)
        statements := by
  unfold parse at h
  cases hb : balancedTokens sql with
  | error e =>
    rw [hb] at h
    cases h
  | ok ts =>
    rw [hb] at h
    obtain ⟨hts, -⟩ := (Token.balancedTokens_eq_ok_iff sql ts).mp hb
    refine ⟨ts, hts, (Except.mapM_eq_ok_iff.mp h).imp fun chunk s hs => ?_⟩
    cases hn : nest chunk with
    | error e =>
      rw [hn] at hs
      cases hs
    | ok pieces =>
      rw [hn] at hs
      have hpieces : (⟨pieces⟩ : Statement) = s := Except.ok.inj hs
      rw [← hpieces]

/-- Nested parts have their tokens as leaves, up to marks, and are well-formed. -/
theorem leaves_of_nest {chunks : List (List Token)} {statements : List Statement}
    (h : List.Forall₂ (fun chunk s => nest chunk = .ok s.pieces) chunks statements)
    (hplain : ∀ chunk ∈ chunks, chunk.map unmark = chunk) :
    chunks = statements.map (fun s => s.leaves.map unmark) ∧
      ∀ s ∈ statements, ∀ p ∈ s.pieces, p.WellFormed := by
  induction h with
  | nil => simp
  | @cons chunk s chunks statements hnest _ ih =>
    obtain ⟨htokens, hwell⟩ := nest_regroups hnest
    obtain ⟨hrest, hwells⟩ := ih fun c hc => hplain c (by simp [hc])
    constructor
    · rw [List.map_cons, ← hrest]
      congr 1
      rw [← hplain chunk (by simp)]
      exact htokens.symm
    · simpa using ⟨hwell, hwells⟩

/-- The leaves of the statements of a text, without their marks, are its significant parts. -/
theorem significant_of_parse {sql : String} {statements : List Statement} (h : parse sql = .ok statements) :
    ∃ ts, Scan.tokenize sql = .ok ts ∧
      (split ts).filter isSignificant = statements.map (fun s => s.leaves.map unmark) ∧
      ∀ s ∈ statements, ∀ p ∈ s.pieces, p.WellFormed := by
  obtain ⟨ts, hts, hnested⟩ := nest_of_parse h
  have hlexed := (Scan.lexed_of_tokenize hts).1
  have hplain : ∀ chunk ∈ (split ts).filter isSignificant, chunk.map unmark = chunk := by
    intro chunk hchunk
    refine map_unmark_of_shape fun t ht => Scan.shape_of_lexed hlexed t ?_
    rw [← flatten_split ts]
    exact List.mem_flatten_of_mem (List.mem_of_mem_filter hchunk) ht
  exact ⟨ts, hts, leaves_of_nest hnested hplain⟩

/-- No statement of a text is empty. -/
theorem pieces_ne_nil_of_parse {sql : String} {statements : List Statement} (h : parse sql = .ok statements)
    {s : Statement} (hs : s ∈ statements) : s.pieces ≠ [] := by
  obtain ⟨ts, -, hchunks, -⟩ := significant_of_parse h
  have hmem : s.leaves.map unmark ∈ (split ts).filter isSignificant := by
    rw [hchunks]
    exact List.mem_map_of_mem hs
  have hsignificant := (List.mem_filter.mp hmem).2
  intro hnil
  have hleaves : s.leaves = [] := by rw [leaves, hnil, leavesOf]
  rw [hleaves] at hsignificant
  cases hsignificant

/-- **Grouping keeps the tokens.**  The leaves of the statements of a text are its tokens in order, with
some stars marked as wildcards, and without the tokens after the last semicolon outside parentheses when
these are white space and comments only.  Every statement but the last ends with such a semicolon and none
has one before its end.  Every group is made of something and covers the text that it says, where it
says. -/
theorem parse_keeps_tokens (sql : String) (statements : List Statement) (h : parse sql = .ok statements) :
    ∃ ts, Scan.tokenize sql = .ok ts ∧
      (∃ kept rest, ts = kept ++ rest ∧ (kept = [] ∨ EndsStatement 0 kept) ∧ NoStatementEnd 0 rest ∧
        List.Forall₂ Marks (if rest.all (·.lexClass.isTrivia) then kept else ts)
          (statements.flatMap leaves)) ∧
      (∀ before s after, statements = before ++ s :: after → after ≠ [] → EndsStatement 0 s.leaves) ∧
      (∀ s ∈ statements, OneStatement 0 s.leaves) ∧
      ∀ s ∈ statements, ∀ p ∈ s.pieces, p.WellFormed := by
  obtain ⟨ts, hts, hchunks, hwell⟩ := significant_of_parse h
  have hsplit : Chunks 0 (statements.map fun s => s.leaves.map unmark) := by
    rw [← hchunks]
    exact (chunks_split ts).filter
  refine ⟨ts, hts, ?_, ?_, ?_, hwell⟩
  · obtain ⟨kept, rest, hflat, hkept, hrest, hfilter⟩ := (chunks_split ts).exists_rest rfl
    rw [flatten_split] at hflat hfilter
    refine ⟨kept, rest, hflat, hkept, hrest, ?_⟩
    rw [← hfilter, hchunks]
    have hmarks := forall₂_marks_unmark (statements.flatMap leaves)
    rw [List.map_flatMap] at hmarks
    exact hmarks
  · rintro before s after rfl hafter
    apply endsStatement_of_map_unmark
    exact hsplit.endsStatement rfl (by rw [List.map_append, List.map_cons]) (by simpa using hafter)
  · intro s hs
    apply oneStatement_of_map_unmark
    exact hsplit.oneStatement rfl _ (List.mem_map_of_mem hs)

theorem parse_keeps_tokens_two :
    ∃ ts statements, parse "select t.*, f(1 * 2) from t; case x when 1 then 2 end; -- end" = .ok statements ∧
      Scan.tokenize "select t.*, f(1 * 2) from t; case x when 1 then 2 end; -- end" = .ok ts ∧
      statements.map text = ["select t.*, f(1 * 2) from t;", " case x when 1 then 2 end;"] ∧
      (∃ kept rest, ts = kept ++ rest ∧ (kept = [] ∨ EndsStatement 0 kept) ∧ NoStatementEnd 0 rest ∧
        List.Forall₂ Marks (if rest.all (·.lexClass.isTrivia) then kept else ts)
          (statements.flatMap leaves)) ∧
      ∀ s ∈ statements, ∀ p ∈ s.pieces, p.WellFormed := by
  have htext : (parse "select t.*, f(1 * 2) from t; case x when 1 then 2 end; -- end").toOption.map
      (·.map text) = some ["select t.*, f(1 * 2) from t;", " case x when 1 then 2 end;"] := by
    decide +kernel
  cases hparse : parse "select t.*, f(1 * 2) from t; case x when 1 then 2 end; -- end" with
  | error e =>
    rw [hparse] at htext
    cases htext
  | ok statements =>
    rw [hparse] at htext
    obtain ⟨ts, hts, htokens, -, -, hwell⟩ := parse_keeps_tokens _ statements hparse
    exact ⟨ts, statements, rfl, hts, Option.some.inj htext, htokens, hwell⟩

end SqlOutline.Statement
