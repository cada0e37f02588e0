import SqlOutline.Proofs.Piece.Parse

/-!
# Nesting without a stack

Nesting a token list works with a stack of open parentheses.  What it gives can be said without one: a
token list is a sequence of plain tokens and of parentheses around token lists, and every parenthesis is
grouped from its inside alone.

* `Nested` : a token list and the pieces of its outermost level, before the rules of that level;
* `Nested.nestFrom_append` : the stack makes these pieces, whatever is open around them;
* `exists_nestedFrom` : every token list that can be nested is of this form;
* `nest_eq_ok_iff` : nesting is the rules on such pieces.
-/

namespace SqlOutline.Statement

open Piece Rules

/-- The pieces of the outermost level of a token list: its plain tokens, and a group for every parenthesis,
with its inside grouped as a level of its own. -/
inductive Nested : List Token → List Piece → Prop
  | nil : Nested [] []
  | plain {t : Token} {ts : List Token} {ps : List Piece} : t.lexClass ≠ .openParen →
      t.lexClass ≠ .closeParen → Nested ts ps → Nested (t :: ts) (.leaf t :: ps)
  | paren {o c : Token} {body ts : List Token} {inner ps : List Piece} : o.lexClass = .openParen →
      c.lexClass = .closeParen → Nested body inner → Nested ts ps →
      Nested (o :: body ++ c :: ts)
        (ofMembers .parenthesis (.leaf o :: groupLevel inner ++ [.leaf c]) :: ps)

variable {t : Token} {ts body : List Token} {ps inner : List Piece}

/-- The stack makes the pieces of a nested list on top of what it has already. -/
theorem Nested.nestFrom_append (h : Nested ts ps) (stack : List (Token × List Piece))
    (level : List Piece) (rest : List Token) :
    nestFrom stack level (ts ++ rest) = nestFrom stack (ps.reverse ++ level) rest := by
  induction h generalizing stack level rest with
  | nil => rfl
  | plain ho hc _ ih =>
    rw [List.cons_append, nestFrom_other ho hc, ih, List.reverse_cons, List.append_assoc]
    rfl
  | @paren o c body ts inner ps ho hc _ _ ihbody ihts =>
    have hinner : (inner.reverse ++ []).reverse = inner := by simp
    rw [List.cons_append, List.cons_append, List.append_assoc, List.cons_append, nestFrom_open ho, ihbody,
      nestFrom_close hc, hinner, ihts, List.reverse_cons, List.append_assoc]
    rfl

/-- A token list that can be nested is nested up to the parenthesis that closes the innermost open one, or
up to its end when none is open. -/
theorem exists_nestedFrom {stack : List (Token × List Piece)} {level : List Piece}
    (h : nestFrom stack level ts = .ok ps) :
    (stack = [] ∧ ∃ inner, Nested ts inner ∧ ps = groupLevel (level.reverse ++ inner)) ∨
      ∃ opening outer below body inner c rest, stack = (opening, outer) :: below ∧ ts = body ++ c :: rest ∧
        Nested body inner ∧ c.lexClass = .closeParen ∧
        nestFrom below (ofMembers .parenthesis (.leaf opening :: groupLevel (level.reverse ++ inner) ++
          [.leaf c]) :: outer) rest = .ok ps := by
  -- on the length of the list, since an inner parenthesis takes a part of it away
  induction hn : ts.length using Nat.strongRecOn generalizing stack level ts with
  | ind n ih =>
    cases ts with
    | nil =>
      obtain ⟨rfl, rfl⟩ := nestFrom_nil_ok h
      exact .inl ⟨rfl, [], .nil, by rw [List.append_nil]⟩
    | cons t ts =>
      rw [List.length_cons] at hn
      rcases nestFrom_cons_ok h with ⟨ho, hrest⟩ | ⟨hc, opening, outer, below, rfl, hrest⟩ | ⟨ho, hc, hrest⟩
      · rcases ih ts.length (by omega) hrest rfl with ⟨hstack, -⟩ |
          ⟨_, _, _, body, inner, c, rest, hstack, rfl, hbody, hc, hafter⟩
        · cases hstack
        · cases hstack
          rw [List.length_append, List.length_cons] at hn
          -- the group that has been closed joins the level around it
          rcases ih rest.length (by omega) hafter rfl with ⟨rfl, inner', hinner', rfl⟩ |
            ⟨opening, outer, below, body', inner', c', rest', rfl, rfl, hbody', hc', hafter'⟩
          · refine .inl ⟨rfl, _, .paren ho hc hbody hinner', ?_⟩
            simp
          · refine .inr ⟨opening, outer, below, t :: body ++ c :: body', _, c', rest', rfl, ?_,
              .paren ho hc hbody hbody', hc', ?_⟩
            · simp
            · simpa using hafter'
      · exact .inr ⟨opening, outer, below, [], [], t, ts, rfl, rfl, .nil, hc, by simpa using hrest⟩
      · rcases ih ts.length (by omega) hrest rfl with ⟨rfl, inner, hinner, rfl⟩ |
          ⟨opening, outer, below, body, inner, c, rest, rfl, rfl, hbody, hc', hafter⟩
        · exact .inl ⟨rfl, .leaf t :: inner, .plain ho hc hinner, by simp⟩
        · exact .inr ⟨opening, outer, below, t :: body, .leaf t :: inner, c, rest, rfl, rfl,
            .plain ho hc hbody, hc', by simpa using hafter⟩

/-- Nesting is the rules of a level on the pieces of the outermost level. -/
theorem nest_eq_ok_iff (ts : List Token) (ps : List Piece) :
    nest ts = .ok ps ↔ ∃ inner, Nested ts inner ∧ ps = groupLevel inner := by
  constructor
  · intro h
    rcases exists_nestedFrom h with ⟨-, inner, hinner, hps⟩ | ⟨_, _, _, _, _, _, _, hstack, -⟩
    · exact ⟨inner, hinner, by simpa using hps⟩
    · cases hstack
  · rintro ⟨inner, hinner, rfl⟩
    have hall := hinner.nestFrom_append [] [] []
    rw [List.append_nil] at hall
    unfold nest
    rw [hall, nestFrom]
    simp

end SqlOutline.Statement
