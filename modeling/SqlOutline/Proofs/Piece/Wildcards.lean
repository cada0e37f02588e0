import Mathlib.Data.List.Induction
import SqlOutline.Proofs.Piece.Levels

/-!
# Which stars are wildcards

Stars are marked level by level, and when a level is marked some of what stands before a star is a group
already.  Still it is the last token before a star, comments and white space apart, that decides.

* `Site.admitsWildcard` : whether a star behind a leaf is a wildcard;
* `StarsRight` : all stars of a reading are what their predecessors make them;
* `starsRight_markWildcardsFrom` : marking a level does it, if it was done in the groups of that level;
* `levelInvariant_stars` : so it is done on every level;
* `lexClass_of_star` : the main result.
-/

namespace SqlOutline

open Piece Rules

/-- The words and marks behind which a star is a wildcard. -/
def wildcardLeads : List LexClass :=
  [.keyword .SELECT, .comma, .dot, .keyword .DISTINCT, .keyword .ALL, .keyword .RETURNING]

namespace Site

/-- Whether the leaf is the `CASE` that opens a `CASE` group. -/
def opensCase (x : Site) : Bool :=
  x.token.lexClass == .keyword .CASE && x.parent == some .caseExpression && x.before.isEmpty

/-- Whether a star behind the leaf is a wildcard. -/
def admitsWildcard (x : Site) : Bool :=
  x.token.lexClass == .openParen || wildcardLeads.contains x.token.lexClass || x.opensCase

/-- The class of the leaf, and whether a star behind it is a wildcard. -/
def starView (x : Site) : LexClass × Bool := (x.token.lexClass, x.admitsWildcard)

theorem looksAtFirst_starView : LooksAtFirst [.caseExpression] starView := by
  intro x hx
  have hopens : x.opensCase = false := by
    rw [opensCase]
    rcases hx with hbefore | hparent
    · simp [hbefore]
    · simp [hparent .caseExpression List.mem_cons_self]
  rw [starView, admitsWildcard, hopens]
  simp [starView, admitsWildcard, opensCase]

end Site

open Site

/-! ### Reading from left to right -/

/-- Whether a star behind an entry is a wildcard, when it is one without that entry or not. -/
def admitsAfter (admits : Bool) (entry : LexClass × Bool) : Bool :=
  if entry.1.isTrivia then admits else entry.2

/-- Wildcards stand where they are admitted, and no other stars do. -/
def StarsRight : (admits : Bool) → List (LexClass × Bool) → Prop
  | _, [] => True
  | admits, entry :: entries =>
    (entry.1 = .wildcard → admits = true) ∧ (entry.1 = .star → admits = false) ∧
      StarsRight (admitsAfter admits entry) entries

theorem starsRight_append (admits : Bool) (xs ys : List (LexClass × Bool)) :
    StarsRight admits (xs ++ ys) ↔ StarsRight admits xs ∧ StarsRight (xs.foldl admitsAfter admits) ys := by
  induction xs generalizing admits with
  | nil => simp [StarsRight]
  | cons x xs ih =>
    rw [List.cons_append, StarsRight, StarsRight, ih, List.foldl_cons]
    simp only [and_assoc]

/-- It is the last entry that is neither white space nor a comment that decides. -/
theorem foldl_admitsAfter (xs : List Site) :
    (xs.map starView).foldl admitsAfter true =
      (xs.reverse.find? (!·.token.lexClass.isTrivia)).all admitsWildcard := by
  induction xs using List.reverseRecOn with
  | nil => rfl
  | append_singleton xs x ih =>
    rw [List.map_append, List.foldl_append, ih, List.reverse_append]
    show admitsAfter _ (starView x) = _
    rw [List.reverse_singleton, List.singleton_append, List.find?_cons]
    by_cases htrivia : x.token.lexClass.isTrivia = true
    · simp [admitsAfter, starView, htrivia]
    · simp [admitsAfter, starView, htrivia]

/-! ### Levels -/

/-- A token that stands before the marking, or a group in which all stars are marked right and behind which
no wildcard is admitted, wherever the group stands. -/
def StarsSettled : Piece → Prop
  | .leaf t => t.lexClass ≠ .openParen ∧ t.lexClass ≠ .wildcard
  | .group kind text pos members => ∀ admits,
    StarsRight admits ((group kind text pos members).reading starView) ∧
      ((group kind text pos members).reading starView).foldl admitsAfter admits = false

variable {ps inner : List Piece} {kind : GroupKind} {o c : Token}

/-- Marking a level marks its own stars right. -/
theorem starsRight_markWildcardsFrom (h : ∀ p ∈ ps, StarsSettled p) (previous : Option Piece) :
    StarsRight (previous.all (·.isLeafOf wildcardLeads))
      ((markWildcardsFrom previous ps).flatMap (reading starView)) := by
  induction ps generalizing previous with
  | nil => simp [markWildcardsFrom, StarsRight]
  | cons p ps ih =>
    rw [List.forall_mem_cons] at h
    cases p with
    | group kind text pos members =>
      -- behind a group no wildcard is admitted, and the group is not in the list of those that lead one
      obtain ⟨hright, hend⟩ := h.1 (previous.all (·.isLeafOf wildcardLeads))
      have hrest := ih h.2 (some (.group kind text pos members))
      rw [markWildcardsFrom, if_neg (by simp [isTrivia]), List.flatMap_cons, starsRight_append]
      refine ⟨hright, ?_⟩
      rw [hend]
      exact hrest
    | leaf t =>
      obtain ⟨hparen, hwild⟩ : t.lexClass ≠ .openParen ∧ t.lexClass ≠ .wildcard := h.1
      have hview : ∀ u : Token, u.lexClass ≠ .openParen →
          (leaf u).reading starView = [(u.lexClass, wildcardLeads.contains u.lexClass)] := by
        intro u hu
        rw [reading_leaf]
        simp [starView, admitsWildcard, opensCase, hu]
      by_cases htrivia : t.lexClass.isTrivia = true
      · have hrest := ih h.2 previous
        have hstar : t.lexClass ≠ .star := by
          intro heq
          rw [heq] at htrivia
          cases htrivia
        rw [markWildcardsFrom, if_pos (show (leaf t).isTrivia = true from htrivia), List.flatMap_cons,
          hview t hparen, List.singleton_append, StarsRight, admitsAfter, if_pos htrivia]
        exact ⟨fun heq => absurd heq hwild, fun heq => absurd heq hstar, hrest⟩
      · rw [markWildcardsFrom, if_neg (show ¬ (leaf t).isTrivia = true from htrivia)]
        dsimp only
        split
        · rename_i hstar
          have hrest := ih h.2 (some (.leaf { t with lexClass := .wildcard }))
          rw [List.flatMap_cons, hview _ (by simp), List.singleton_append, StarsRight]
          exact ⟨fun _ => hstar.2, fun heq => LexClass.noConfusion heq, hrest⟩
        · rename_i hstar
          have hrest := ih h.2 (some (.leaf t))
          rw [List.flatMap_cons, hview t hparen, List.singleton_append, StarsRight, admitsAfter,
            if_neg htrivia]
          refine ⟨fun heq => absurd heq hwild, fun heq => ?_, hrest⟩
          exact Bool.eq_false_iff.mpr fun hall => hstar ⟨heq, hall⟩

/-- Brackets around a level settle it. -/
theorem starsSettled_bracket
    (ho : o.lexClass = .openParen ∨ o.lexClass = .keyword .CASE ∧ kind = .caseExpression)
    (hc : c.lexClass = .closeParen ∨ c.lexClass = .keyword .END)
    (hinner : StarsRight true (inner.flatMap (reading starView))) :
    StarsSettled (ofMembers kind (.leaf o :: inner ++ [.leaf c])) := by
  have hopen : admitsWildcard ⟨o, some kind, [], inner ++ [.leaf c]⟩ = true := by
    rcases ho with ho | ⟨ho, rfl⟩
    · simp [admitsWildcard, wildcardLeads, ho]
    · simp [admitsWildcard, opensCase, ho]
  have hclose : admitsWildcard ⟨c, none, [], []⟩ = false := by
    rcases hc with hc | hc
    · simp [admitsWildcard, wildcardLeads, opensCase, hc]
    · simp [admitsWildcard, wildcardLeads, opensCase, hc]
  have hreading : (ofMembers kind (.leaf o :: inner ++ [.leaf c])).reading starView =
      (o.lexClass, true) :: (inner.flatMap (reading starView) ++ [(c.lexClass, false)]) := by
    rw [looksAtFirst_starView.reading_bracket, starView, starView, hopen, hclose]
  have hneither : o.lexClass.isTrivia = false ∧ o.lexClass ≠ .star ∧ o.lexClass ≠ .wildcard ∧
      c.lexClass.isTrivia = false ∧ c.lexClass ≠ .star ∧ c.lexClass ≠ .wildcard := by
    rcases ho with ho | ⟨ho, -⟩ <;> rcases hc with hc | hc <;> simp [ho, hc, LexClass.isTrivia]
  obtain ⟨hotrivia, hostar, howild, hctrivia, hcstar, hcwild⟩ := hneither
  intro admits
  have hfirst : admitsAfter admits (o.lexClass, true) = true := by simp [admitsAfter, hotrivia]
  show StarsRight admits (reading starView (ofMembers _ _)) ∧ List.foldl _ _ (reading _ (ofMembers _ _)) = _
  rw [hreading, StarsRight, List.foldl_cons, hfirst, starsRight_append, List.foldl_append]
  refine ⟨⟨fun heq => absurd heq howild, fun heq => absurd heq hostar, hinner, ?_⟩, ?_⟩
  · exact ⟨fun heq => absurd heq hcwild, fun heq => absurd heq hcstar, trivial⟩
  · simp [admitsAfter, hctrivia]

theorem levelInvariant_stars :
    LevelInvariant StarsSettled fun ps => StarsRight true (ps.flatMap (reading starView)) where
  leaf ho _ hw := ⟨ho, hw⟩
  rules h := by
    have hsees : ∀ kind : GroupKind, kind ≠ .caseExpression → SeesThrough (reading starView) kind :=
      fun kind hkind => looksAtFirst_starView.seesThrough_reading (by simpa using hkind)
    rw [flatMap_applyRules fun kind hkind => hsees kind (by rintro rfl; simp at hkind),
      flatMap_replaceAll (hsees .function (by decide))]
    exact starsRight_markWildcardsFrom h none
  caseExpression hc he hbody := starsSettled_bracket (.inr ⟨hc, rfl⟩) (.inr he) hbody
  parenthesis ho hc hinner := starsSettled_bracket (.inl ho) (.inl hc) hinner

/-! ### Operations -/

namespace Piece

theorem Link.of_mem {mark item : Piece → Prop} (h : Link mark item ps) :
    ∀ p ∈ ps, p.isTrivia = true ∨ mark p ∨ item p := by
  cases h with
  | mk hs hm ht hp =>
    intro p hmem
    simp only [List.mem_append, List.mem_cons, List.not_mem_nil, or_false] at hmem
    rcases hmem with (hmem | rfl | hmem) | rfl
    · exact .inl (hs p hmem)
    · exact .inr (.inl hm)
    · exact .inl (ht p hmem)
    · exact .inr (.inr hp)

theorem Joined.of_mem {mark item : Piece → Prop} (h : Joined mark item ps) :
    ∀ p ∈ ps, p.isTrivia = true ∨ mark p ∨ item p := by
  induction h with
  | one hlink => exact hlink.of_mem
  | cons hlink _ ih =>
    intro p hmem
    rcases List.mem_append.mp hmem with hmem | hmem
    · exact hlink.of_mem p hmem
    · exact ih p hmem

theorem IsOperand.not_wildcard {p : Piece} (h : p.IsOperand) : p.isLeaf .wildcard = false := by
  rcases h with hname | hliteral | ⟨kind, -, hkind⟩
  · exact not_isLeaf_of_isLeafOf hname (by decide)
  · exact not_isLeaf_of_isLeafOf hliteral (by decide)
  · cases p with
    | leaf t => cases hkind
    | group _ _ _ _ => rfl

/-- Neither values nor operators nor what stands between them is a wildcard. -/
theorem not_wildcard_of_operation (h : HasShape .operation ps) : ∀ p ∈ ps, p.isLeaf .wildcard = false := by
  cases h with
  | operation hfirst hrest =>
    refine List.forall_mem_cons.mpr ⟨hfirst.not_wildcard, fun p hp => ?_⟩
    rcases hrest.of_mem p hp with htrivia | hoperator | hoperand
    · cases p with
      | leaf t =>
        have hne : t.lexClass ≠ .wildcard := by
          intro heq
          rw [isTrivia, heq] at htrivia
          cases htrivia
        simpa [isLeaf, lexClass?] using hne
      | group _ _ _ _ => rfl
    · exact not_isLeaf_of_isLeafOf hoperator (by decide)
    · exact hoperand.not_wildcard

end Piece

namespace Statement

variable {sql : String} {statements : List Statement} {s : Statement}

/-! ### The statements of a text -/

/-- A leaf with the text of a star is a star, marked or not. -/
theorem lexClass_of_text_star (h : parse sql = .ok statements) (hs : s ∈ statements) {t : Token}
    (ht : t ∈ s.leaves) (htext : t.text = "*") : t.lexClass = .star ∨ t.lexClass = .wildcard := by
  obtain ⟨ts, hts, hchunks, -⟩ := significant_of_parse h
  have hchunk : s.leaves.map unmark ∈ (split ts).filter isSignificant := by
    rw [hchunks]
    exact List.mem_map_of_mem hs
  have hmem : unmark t ∈ ts := by
    rw [← flatten_split ts]
    exact List.mem_flatten_of_mem (List.mem_of_mem_filter hchunk) (List.mem_map_of_mem ht)
  have hshape := Scan.shape_of_lexed (Scan.lexed_of_tokenize hts).1 _ hmem
  rw [text_unmark, htext] at hshape
  obtain ⟨c, rest, heq, hlex⟩ := Scan.isToken_of_shape hshape
  obtain ⟨rfl, rfl⟩ := List.cons.inj (show ['*'] = c :: rest from heq)
  have hstar : Scan.lexeme '*' [] = .ok (.star, 0) := by decide
  have hclass : .star = (unmark t).lexClass := congrArg Prod.fst (Except.ok.inj (hstar.symm.trans hlex))
  by_cases hwild : t.lexClass = .wildcard
  · exact .inr hwild
  · rw [unmark, if_neg hwild] at hclass
    exact .inl hclass.symm

/-- **A star is a wildcard by its predecessor.**  A leaf with the text of a star is a wildcard exactly if
the last leaf before it in the statement that is neither white space nor a comment is an opening
parenthesis, one of the words and marks that lead a wildcard, or the `CASE` of a `CASE` group, or if there
is no such leaf.  No wildcard is a member of an operation. -/
theorem lexClass_of_star (sql : String) (statements : List Statement) (h : parse sql = .ok statements) :
    ∀ s ∈ statements,
      (∀ before x after, s.sites = before ++ x :: after → x.token.text = "*" →
        x.token.lexClass = if (before.reverse.find? (!·.token.lexClass.isTrivia)).all admitsWildcard
          then .wildcard else .star) ∧
      ∀ g ∈ partsOf s.pieces, g.kind? = some .operation → ∀ m ∈ g.members, m.isLeaf .wildcard = false := by
  intro s hs
  constructor
  · intro before x after hsites htext
    have hright := levelInvariant_stars.of_parse h s hs
    rw [← map_sites looksAtFirst_starView, hsites, List.map_append, starsRight_append, foldl_admitsAfter,
      List.map_cons, StarsRight] at hright
    obtain ⟨-, hwild, hstar, -⟩ := hright
    have hmem : x.token ∈ s.leaves := by
      rw [← map_token_sites, hsites]
      simp
    rcases lexClass_of_text_star h hs hmem htext with hclass | hclass
    · rw [if_neg (by simp [hstar hclass]), hclass]
    · rw [if_pos (hwild hclass), hclass]
  · intro g hg hkind m hm
    obtain ⟨p, hp, hgp⟩ := mem_partsOf.mp hg
    have hshaped := (fits_of_parse h hs p hp).shaped.of_mem_parts hgp
    cases hshaped with
    | leaf t => cases hkind
    | group hshape _ _ =>
      obtain rfl := Option.some.inj hkind
      exact not_wildcard_of_operation hshape m hm

theorem lexClass_of_star_query :
    ∃ statements,
      parse "select *, t . /* all */ *, count(*), 2 * 3, (a) * b, case * end * case * from t" = .ok statements ∧
      statements.map (fun s => (s.sites.filter (·.token.text == "*")).map (·.token.lexClass)) =
        [[.wildcard, .wildcard, .wildcard, .star, .star, .wildcard, .star, .star]] ∧
      ∀ s ∈ statements,
        (∀ before x after, s.sites = before ++ x :: after → x.token.text = "*" →
          x.token.lexClass = if (before.reverse.find? (!·.token.lexClass.isTrivia)).all admitsWildcard
            then .wildcard else .star) ∧
        ∀ g ∈ partsOf s.pieces, g.kind? = some .operation →
          ∀ m ∈ g.members, m.isLeaf .wildcard = false := by
  have hclasses : (parse
      "select *, t . /* all */ *, count(*), 2 * 3, (a) * b, case * end * case * from t").toOption.map
      (·.map fun s => (s.sites.filter (·.token.text == "*")).map (·.token.lexClass)) =
        some [[.wildcard, .wildcard, .wildcard, .star, .star, .wildcard, .star, .star]] := by
    decide +kernel
  cases hparse : parse
      "select *, t . /* all */ *, count(*), 2 * 3, (a) * b, case * end * case * from t" with
  | error e =>
    rw [hparse] at hclasses
    cases hclasses
  | ok statements =>
    rw [hparse] at hclasses
    exact ⟨statements, rfl, Option.some.inj hclasses, lexClass_of_star _ statements hparse⟩

end Statement

end SqlOutline
