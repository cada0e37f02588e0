import Mathlib.Data.List.Forall2
import SqlOutline.Proofs.Piece.Nesting

/-!
# What grouping sees of a token

The rules ask for the class of a token, for nothing but trivia or not where it is white space or a comment,
and for the text only where it may be a sort direction.  So two token lists that agree in this are grouped
in the same way.

* `Token.Resembles` : two tokens that the rules cannot tell apart;
* `Token.Indistinct` : a relation between such tokens that is kept when a star is marked as a wildcard;
* `Piece.Similar` : pieces of the same form over related tokens;
* `Pattern.seesClasses`, `Pattern.width?_eq` : the patterns of the rules take the same number of pieces of
  similar lists;
* `similar_groupLevel`, `similar_nest` : similar levels and related token lists are grouped alike.
-/

namespace SqlOutline

/-! ### Tokens -/

/-- Whether a word is, up to letter case, one of the words that give a sort direction. -/
def isDirectionWord (word : String) : Bool := ["asc", "desc"].any (Text.foldsTo word)

/-- Whether the token may give a sort direction. -/
def Token.isDirection (t : Token) : Bool :=
  [LexClass.identifier, .reservedWord].contains t.lexClass && isDirectionWord t.text

/-- Tokens that the rules cannot tell apart. -/
structure Token.Resembles (t u : Token) : Prop where
  lexClass : t.lexClass = u.lexClass ∨ t.lexClass.isTrivia = true ∧ u.lexClass.isTrivia = true
  direction : t.isDirection = u.isDirection

/-- A relation between tokens that the rules cannot tell apart, which holds of two stars also after they are
marked. -/
structure Token.Indistinct (R : Token → Token → Prop) : Prop where
  resembles : ∀ {t u : Token}, R t u → t.Resembles u
  mark : ∀ {t u : Token}, R t u → t.lexClass = .star →
    R { t with lexClass := .wildcard } { u with lexClass := .wildcard }

/-- Whether a list of classes has all the classes of white space and comments, or none of them. -/
def LexClass.evenOnTrivia (classes : List LexClass) : Bool :=
  classes.contains .whitespace == classes.contains .lineComment &&
    classes.contains .lineComment == classes.contains .blockComment

theorem LexClass.contains_eq {classes : List LexClass} (heven : evenOnTrivia classes = true) {k l : LexClass}
    (h : k = l ∨ k.isTrivia = true ∧ l.isTrivia = true) : classes.contains k = classes.contains l := by
  rcases h with rfl | ⟨hk, hl⟩
  · rfl
  · have htrivia : ∀ {j : LexClass}, j.isTrivia = true →
        classes.contains j = classes.contains .whitespace := by
      intro j hj
      simp only [evenOnTrivia, Bool.and_eq_true, beq_iff_eq] at heven
      cases j <;> first
        | rfl
        | exact heven.1.symm
        | exact (heven.1.trans heven.2).symm
        | cases hj
    rw [htrivia hk, htrivia hl]

theorem Token.Resembles.lexClass_eq_iff {t u : Token} (h : t.Resembles u) {k : LexClass}
    (hk : k.isTrivia = false) : t.lexClass = k ↔ u.lexClass = k := by
  rcases h.lexClass with h | ⟨ht, hu⟩
  · rw [h]
  · constructor
    · rintro rfl
      exact absurd ht (by simp [hk])
    · rintro rfl
      exact absurd hu (by simp [hk])

theorem Token.Resembles.isTrivia_eq {t u : Token} (h : t.Resembles u) :
    t.lexClass.isTrivia = u.lexClass.isTrivia := by
  rcases h.lexClass with h | ⟨ht, hu⟩
  · rw [h]
  · rw [ht, hu]

/-! ### Pieces -/

namespace Piece

/-- Pieces of the same form over related tokens. -/
inductive Similar (R : Token → Token → Prop) : Piece → Piece → Prop
  | leaf {t u : Token} : R t u → Similar R (.leaf t) (.leaf u)
  | group {kind : GroupKind} {text text' : String} {pos pos' : Position} {ps qs : List Piece} :
      List.Forall₂ (Similar R) ps qs → Similar R (.group kind text pos ps) (.group kind text' pos' qs)

variable {R : Token → Token → Prop} {p q : Piece} {ps qs : List Piece} {kind : GroupKind}

theorem similar_ofMembers (kind : GroupKind) (h : List.Forall₂ (Similar R) ps qs) :
    Similar R (ofMembers kind ps) (ofMembers kind qs) := .group h

namespace Similar

theorem kind?_eq (h : Similar R p q) : p.kind? = q.kind? := by
  cases h with
  | leaf _ => rfl
  | group _ => rfl

theorem isLeafOf_eq (hR : Token.Indistinct R) (h : Similar R p q) {classes : List LexClass}
    (heven : LexClass.evenOnTrivia classes = true) : p.isLeafOf classes = q.isLeafOf classes := by
  cases h with
  | leaf htu => exact LexClass.contains_eq heven (hR.resembles htu).lexClass
  | group _ => rfl

theorem isLeaf_eq (hR : Token.Indistinct R) (h : Similar R p q) {k : LexClass}
    (hk : k.isTrivia = false) : p.isLeaf k = q.isLeaf k := by
  cases h with
  | leaf htu => simp [isLeaf, lexClass?, (hR.resembles htu).lexClass_eq_iff hk]
  | group _ => rfl

theorem isTrivia_eq (hR : Token.Indistinct R) (h : Similar R p q) : p.isTrivia = q.isTrivia := by
  cases h with
  | leaf htu => exact (hR.resembles htu).isTrivia_eq
  | group _ => rfl

end Similar

end Piece

open Piece

/-! ### Patterns -/

namespace Pattern

variable {R : Token → Token → Prop} {ps qs : List Piece} {pattern : Pattern}

/-- Whether a pattern treats white space and comments alike and asks for no words but sort directions. -/
def seesClasses : Pattern → Bool
  | leafOf classes => LexClass.evenOnTrivia classes
  | groupOf _ => true
  | wordOf words => words == ["asc", "desc"]
  | seq first second => first.seesClasses && second.seesClasses
  | either first second => first.seesClasses && second.seesClasses
  | many item => item.seesClasses
  | optional item => item.seesClasses

theorem repeatWidth_eq {step : List Piece → Option Nat}
    (hstep : ∀ {ps qs}, List.Forall₂ (Similar R) ps qs → step ps = step qs) (fuel : Nat)
    (h : List.Forall₂ (Similar R) ps qs) : repeatWidth step fuel ps = repeatWidth step fuel qs := by
  induction fuel generalizing ps qs with
  | zero => rfl
  | succ fuel ih =>
    rw [repeatWidth, repeatWidth, hstep h]
    cases step qs with
    | none => rfl
    | some n =>
      cases n with
      | zero => rfl
      | succ n => exact congrArg (n + 1 + ·) (ih (List.forall₂_drop (n + 1) h))

/-- A pattern takes the same number of pieces of similar lists. -/
theorem width?_eq (hR : Token.Indistinct R) (hsees : pattern.seesClasses = true)
    (h : List.Forall₂ (Similar R) ps qs) : pattern.width? ps = pattern.width? qs := by
  induction pattern generalizing ps qs with
  | leafOf classes =>
    cases h with
    | nil => rfl
    | cons hpq _ => rw [width?, width?, hpq.isLeafOf_eq hR hsees]
  | groupOf kinds =>
    cases h with
    | nil => rfl
    | cons hpq _ => rw [width?, width?, hpq.kind?_eq]
  | wordOf words =>
    cases h with
    | nil => rfl
    | cons hpq _ =>
      obtain rfl : words = ["asc", "desc"] := by simpa [seesClasses] using hsees
      cases hpq with
      | @leaf t u htu =>
        have hdirection :
            ((Piece.leaf t).isLeafOf [.identifier, .reservedWord] &&
              ["asc", "desc"].any (Text.foldsTo t.text)) =
            ((Piece.leaf u).isLeafOf [.identifier, .reservedWord] &&
              ["asc", "desc"].any (Text.foldsTo u.text)) := (hR.resembles htu).direction
        rw [width?, width?, Piece.text, Piece.text, hdirection]
      | group _ => rfl
  | seq first second ihfirst ihsecond =>
    obtain ⟨hfirst, hsecond⟩ := Bool.and_eq_true_iff.mp hsees
    rw [width?, width?, ihfirst hfirst h]
    cases first.width? qs with
    | none => rfl
    | some n =>
      simp only [Option.bind_eq_bind, Option.bind_some]
      rw [ihsecond hsecond (List.forall₂_drop n h)]
  | either first second ihfirst ihsecond =>
    obtain ⟨hfirst, hsecond⟩ := Bool.and_eq_true_iff.mp hsees
    rw [width?, width?, ihfirst hfirst h, ihsecond hsecond h]
  | many item ih =>
    rw [width?, width?, h.length_eq, repeatWidth_eq (ih hsees) qs.length h]
  | optional item ih => rw [width?, width?, ih hsees h]

theorem similar_replaceAll (hR : Token.Indistinct R) (hsees : pattern.seesClasses = true)
    {build : List Piece → Piece}
    (hbuild : ∀ {ps qs}, List.Forall₂ (Similar R) ps qs → Similar R (build ps) (build qs))
    (h : List.Forall₂ (Similar R) ps qs) :
    List.Forall₂ (Similar R) (pattern.replaceAll build ps) (pattern.replaceAll build qs) := by
  fun_induction replaceAll pattern build ps generalizing qs with
  | case1 =>
    cases h
    rw [replaceAll]
    exact .nil
  | case2 p ps n hwidth ih =>
    rw [width?_eq hR hsees h] at hwidth
    cases h with
    | cons hpq htail =>
      rw [replaceAll, hwidth]
      exact .cons (hbuild (.cons hpq (List.forall₂_take n htail))) (ih (List.forall₂_drop n htail))
  | case3 p ps hwidth ih =>
    rw [width?_eq hR hsees h] at hwidth
    cases h with
    | cons hpq htail =>
      rw [replaceAll]
      split
      · rename_i n hn
        exact absurd hn (hwidth n)
      · exact .cons hpq (ih htail)

end Pattern

/-! ### Rules -/

namespace Rules

open Pattern

variable {R : Token → Token → Prop} {ps qs : List Piece}

theorem similar_merge (kind : GroupKind) (h : List.Forall₂ (Similar R) ps qs) :
    Similar R (merge kind ps) (merge kind qs) := by
  cases h with
  | nil => exact similar_ofMembers kind .nil
  | cons hpq htail =>
    cases hpq with
    | leaf htu => exact similar_ofMembers kind (.cons (.leaf htu) htail)
    | @group first _ _ _ _ _ _ hmembers =>
      cases htail with
      | nil => exact similar_ofMembers kind (.cons (.group hmembers) .nil)
      | cons hnext hrest =>
        by_cases hopen : first = kind ∧ kind ≠ .operation
        · rw [merge, merge, if_pos hopen, if_pos hopen]
          exact similar_ofMembers kind (List.rel_append hmembers (.cons hnext hrest))
        · rw [merge, merge, if_neg hopen, if_neg hopen]
          exact similar_ofMembers kind (.cons (.group hmembers) (.cons hnext hrest))

/-- A star is marked in both lists or in neither, since the pieces before it are similar. -/
theorem similar_markWildcardsFrom (hR : Token.Indistinct R) {previous previous' : Option Piece}
    (hprevious : Option.Rel (Similar R) previous previous') (h : List.Forall₂ (Similar R) ps qs) :
    List.Forall₂ (Similar R) (markWildcardsFrom previous ps) (markWildcardsFrom previous' qs) := by
  induction h generalizing previous previous' with
  | nil => exact .nil
  | @cons p q ps qs hpq _ ih =>
    have hafter : ∀ {classes : List LexClass}, LexClass.evenOnTrivia classes = true →
        previous.all (·.isLeafOf classes) = previous'.all (·.isLeafOf classes) := by
      intro classes heven
      cases hprevious with
      | some hlast => exact hlast.isLeafOf_eq hR heven
      | none => rfl
    unfold markWildcardsFrom
    rw [hpq.isTrivia_eq hR]
    split
    · exact .cons hpq (ih hprevious)
    · have hmarked : ∀ {p' q' : Piece}, Similar R p' q' →
          List.Forall₂ (Similar R) (p' :: markWildcardsFrom (some p') ps)
            (q' :: markWildcardsFrom (some q') qs) :=
        fun hpq' => .cons hpq' (ih (.some hpq'))
      cases hpq with
      | @leaf t u htu =>
        have hstar := (hR.resembles htu).lexClass_eq_iff (k := .star) rfl
        refine hmarked ?_
        dsimp only
        rw [hafter rfl]
        split
        · rename_i hmark
          rw [if_pos ⟨hstar.mp hmark.1, hmark.2⟩]
          exact .leaf (hR.mark htu hmark.1)
        · rename_i hnone
          rw [if_neg fun hmark => hnone ⟨hstar.mpr hmark.1, hmark.2⟩]
          exact .leaf htu
      | group hmembers => exact hmarked (.group hmembers)

theorem similar_takeWhile {f : Piece → Bool} (hf : ∀ {p q}, Similar R p q → f p = f q)
    (h : List.Forall₂ (Similar R) ps qs) :
    List.Forall₂ (Similar R) (ps.takeWhile f) (qs.takeWhile f) ∧
      List.Forall₂ (Similar R) (ps.dropWhile f) (qs.dropWhile f) := by
  induction h with
  | nil => exact ⟨.nil, .nil⟩
  | @cons p q ps qs hpq htail ih =>
    rw [List.takeWhile_cons, List.takeWhile_cons, List.dropWhile_cons, List.dropWhile_cons, hf hpq]
    split
    · exact ⟨.cons hpq ih.1, ih.2⟩
    · exact ⟨.nil, .cons hpq htail⟩

theorem similar_foldWhere (hR : Token.Indistinct R) (h : List.Forall₂ (Similar R) ps qs) :
    List.Forall₂ (Similar R) (foldWhere ps) (foldWhere qs) := by
  fun_induction foldWhere ps generalizing qs with
  | case1 =>
    cases h
    rw [foldWhere]
    exact .nil
  | case2 p ps hwhere ih =>
    cases h with
    | cons hpq htail =>
      rw [hpq.isLeaf_eq hR rfl] at hwhere
      have hclause := similar_takeWhile (f := (!endsWhere ·))
        (fun hpq => congrArg not (hpq.isLeafOf_eq hR rfl)) htail
      rw [foldWhere, if_pos hwhere]
      exact .cons (similar_ofMembers .whereClause (.cons hpq hclause.1)) (ih hclause.2)
  | case3 p ps hwhere ih =>
    cases h with
    | cons hpq htail =>
      rw [hpq.isLeaf_eq hR rfl] at hwhere
      rw [foldWhere, if_neg hwhere]
      exact .cons hpq (ih htail)

theorem similar_applyRules (hR : Token.Indistinct R) (h : List.Forall₂ (Similar R) ps qs) :
    List.Forall₂ (Similar R) (applyRules ps) (applyRules qs) := by
  have hrule : ∀ (pattern : Pattern) (kind : GroupKind), pattern.seesClasses = true →
      ∀ {ps qs : List Piece}, List.Forall₂ (Similar R) ps qs →
        List.Forall₂ (Similar R) (pattern.replaceAll (merge kind) ps)
          (pattern.replaceAll (merge kind) qs) :=
    fun _ kind hsees _ _ => similar_replaceAll hR hsees (similar_merge kind)
  unfold applyRules
  refine similar_foldWhere hR ?_
  exact hrule itemList _ rfl <| hrule aliased _ rfl <| hrule Rules.comparison _ rfl <|
    hrule Rules.operation _ rfl <| hrule qualifiedName _ rfl <| hrule functionCall _ rfl <|
    similar_markWildcardsFrom hR .none h

/-! ### `CASE` expressions -/

/-- Parts of a list at an `END`, similar to the parts of another list. -/
def SimilarParts (R : Token → Token → Prop) (parts parts' : List Piece × Piece × List Piece) : Prop :=
  List.Forall₂ (Similar R) parts.1 parts'.1 ∧ Similar R parts.2.1 parts'.2.1 ∧
    List.Forall₂ (Similar R) parts.2.2 parts'.2.2

theorem similar_mapParts {p q : Piece} (hpq : Similar R p q)
    {parts parts' : Option (List Piece × Piece × List Piece)} (h : Option.Rel (SimilarParts R) parts parts') :
    Option.Rel (SimilarParts R) (parts.map fun (body, last, rest) => (p :: body, last, rest))
      (parts'.map fun (body, last, rest) => (q :: body, last, rest)) := by
  cases h with
  | none => exact .none
  | some hboth => exact .some ⟨.cons hpq hboth.1, hboth.2⟩

theorem similar_splitAtEnd (hR : Token.Indistinct R) (opened : Nat) (h : List.Forall₂ (Similar R) ps qs) :
    Option.Rel (SimilarParts R) (splitAtEnd opened ps) (splitAtEnd opened qs) := by
  induction h generalizing opened with
  | nil => exact .none
  | @cons p q ps qs hpq htail ih =>
    have hinside := fun n => similar_mapParts hpq (ih n)
    rw [splitAtEnd, splitAtEnd, hpq.isLeaf_eq hR rfl, hpq.isLeaf_eq hR (k := .keyword .END) rfl]
    split
    · exact hinside _
    · split
      · split
        · exact .some ⟨.nil, hpq, htail⟩
        · exact hinside _
      · exact hinside _

theorem similar_foldCases (hR : Token.Indistinct R) (h : List.Forall₂ (Similar R) ps qs) :
    List.Forall₂ (Similar R) (foldCases ps) (foldCases qs) := by
  fun_induction foldCases ps generalizing qs with
  | case1 =>
    cases h
    rw [foldCases]
    exact .nil
  | case2 p ps hcase body last rest hsplit ihbody ihrest =>
    cases h with
    | @cons _ q _ qs hpq htail =>
      have hparts := similar_splitAtEnd hR 1 htail
      rw [hpq.isLeaf_eq hR rfl] at hcase
      rw [hsplit] at hparts
      rw [foldCases, if_pos hcase]
      split
      · rename_i body' last' rest' hsplit'
        rw [hsplit'] at hparts
        cases hparts with
        | some hboth =>
          obtain ⟨hbody, hlast, hrest⟩ := hboth
          have hinner := similar_applyRules hR (ihbody hbody)
          exact .cons (similar_ofMembers .caseExpression
            (List.rel_append (.cons hpq hinner) (.cons hlast .nil))) (ihrest hrest)
      · rename_i hnone
        rw [hnone] at hparts
        cases hparts
  | case3 p ps hcase hnone ih =>
    cases h with
    | @cons _ q _ qs hpq htail =>
      have hparts := similar_splitAtEnd hR 1 htail
      rw [hpq.isLeaf_eq hR rfl] at hcase
      rw [hnone] at hparts
      rw [foldCases, if_pos hcase]
      split
      · rename_i hsplit'
        rw [hsplit'] at hparts
        cases hparts
      · exact .cons hpq (ih htail)
  | case4 p ps hcase ih =>
    cases h with
    | cons hpq htail =>
      rw [hpq.isLeaf_eq hR rfl] at hcase
      rw [foldCases, if_neg hcase]
      exact .cons hpq (ih htail)

/-- The rules turn similar levels into similar levels. -/
theorem similar_groupLevel (hR : Token.Indistinct R) (h : List.Forall₂ (Similar R) ps qs) :
    List.Forall₂ (Similar R) (groupLevel ps) (groupLevel qs) :=
  similar_applyRules hR (similar_foldCases hR h)

end Rules

/-! ### Nesting -/

namespace Statement

open Rules

variable {R : Token → Token → Prop} {ts us : List Token} {ps qs : List Piece}

theorem exists_of_forall₂_append {vs : List Token} (h : List.Forall₂ R (ts ++ us) vs) :
    ∃ ts' us', vs = ts' ++ us' ∧ List.Forall₂ R ts ts' ∧ List.Forall₂ R us us' := by
  induction ts generalizing vs with
  | nil => exact ⟨[], vs, rfl, .nil, h⟩
  | cons t ts ih =>
    cases h with
    | cons htu htail =>
      obtain ⟨ts', us', rfl, hts, hus⟩ := ih htail
      exact ⟨_ :: ts', us', rfl, .cons htu hts, hus⟩

/-- Related token lists nest into similar pieces. -/
theorem Nested.exists_similar (hR : Token.Indistinct R) (h : Nested ts ps) (hts : List.Forall₂ R ts us) :
    ∃ qs, Nested us qs ∧ List.Forall₂ (Similar R) ps qs := by
  induction h generalizing us with
  | nil =>
    cases hts
    exact ⟨[], .nil, .nil⟩
  | @plain t ts ps ho hc _ ih =>
    cases hts with
    | @cons _ u _ us htu htail =>
      have hsame := fun {k : LexClass} => (hR.resembles htu).lexClass_eq_iff (k := k)
      obtain ⟨qs, hqs, hsimilar⟩ := ih htail
      exact ⟨.leaf u :: qs, .plain (ho ∘ (hsame rfl).mpr) (hc ∘ (hsame rfl).mpr) hqs,
        .cons (.leaf htu) hsimilar⟩
  | @paren o c body ts inner ps ho hc _ _ ihbody ihts =>
    cases hts with
    | @cons _ o' _ us hoo htail =>
      obtain ⟨body', rest, rfl, hbody, hrest⟩ := exists_of_forall₂_append htail
      cases hrest with
      | @cons _ c' _ us hcc hus =>
        obtain ⟨inner', hinner', hinner⟩ := ihbody hbody
        obtain ⟨qs, hqs, hsimilar⟩ := ihts hus
        have ho' := ((hR.resembles hoo).lexClass_eq_iff rfl).mp ho
        have hc' := ((hR.resembles hcc).lexClass_eq_iff rfl).mp hc
        refine ⟨_, .paren ho' hc' hinner' hqs, .cons (similar_ofMembers .parenthesis ?_) hsimilar⟩
        exact List.rel_append (.cons (.leaf hoo) (similar_groupLevel hR hinner)) (.cons (.leaf hcc) .nil)

/-- Related token lists are grouped into similar pieces. -/
theorem similar_nest (hR : Token.Indistinct R) (hts : List.Forall₂ R ts us) (hps : nest ts = .ok ps)
    (hqs : nest us = .ok qs) : List.Forall₂ (Similar R) ps qs := by
  obtain ⟨inner, hinner, rfl⟩ := (nest_eq_ok_iff ts ps).mp hps
  obtain ⟨inner', hinner', hsimilar⟩ := hinner.exists_similar hR hts
  have hus : nest us = .ok (groupLevel inner') := (nest_eq_ok_iff us _).mpr ⟨inner', hinner', rfl⟩
  obtain rfl : groupLevel inner' = qs := Except.ok.inj (hus.symm.trans hqs)
  exact similar_groupLevel hR hsimilar

end Statement

end SqlOutline
