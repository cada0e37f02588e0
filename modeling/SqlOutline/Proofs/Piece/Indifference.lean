import SqlOutline.Proofs.Piece.Acceptance
import SqlOutline.Proofs.Piece.Resemblance

/-!
# Names and white space do not matter

Two texts whose tokens agree in their classes have statements of the same form: what names and literals say,
how white space is written and whether it is a comment makes no difference.  The one exception are the words
that give a sort direction, which have no class of their own.

* `Skeleton`, `Piece.skeleton` : the form of a piece, without texts and places;
* `Token.SameRole` : two tokens with the same role in their texts;
* `isDirection_of_identifier` : a plain name gives no sort direction;
* `similar_split`, `similar_of_nest` : related token lists are cut alike, and their parts grouped alike;
* `parse_form_eq` : the main result.
-/

namespace SqlOutline

/-! ### Forms -/

/-- The form of a piece. -/
inductive Skeleton where
  /-- White space or a comment. -/
  | trivia
  /-- Any other token, by its class. -/
  | leaf (lexClass : LexClass)
  /-- A group of a kind with the forms of its members. -/
  | group (kind : GroupKind) (members : List Skeleton)
deriving Repr

namespace Piece

mutual

/-- The form of a piece. -/
def skeleton : Piece → Skeleton
  | leaf t => if t.lexClass.isTrivia then .trivia else .leaf t.lexClass
  | group kind _ _ members => .group kind (skeletons members)

/-- The forms of a list of pieces. -/
def skeletons : List Piece → List Skeleton
  | [] => []
  | p :: ps => p.skeleton :: skeletons ps

end

variable {R : Token → Token → Prop}

mutual

/-- Similar pieces have the same form. -/
theorem skeleton_eq (hR : Token.Indistinct R) : (p q : Piece) → Similar R p q → p.skeleton = q.skeleton
  | .leaf t, .leaf u, .leaf htu => by
    rw [skeleton, skeleton, (hR.resembles htu).isTrivia_eq]
    split
    · rfl
    · rename_i hnot
      rcases (hR.resembles htu).lexClass with hsame | ⟨-, hu⟩
      · rw [hsame]
      · exact absurd hu hnot
  | .group kind _ _ ps, .group _ _ _ qs, .group hmembers => by
    rw [skeleton, skeleton, skeletons_eq hR ps qs hmembers]

theorem skeletons_eq (hR : Token.Indistinct R) :
    (ps qs : List Piece) → List.Forall₂ (Similar R) ps qs → skeletons ps = skeletons qs
  | [], _, .nil => rfl
  | p :: ps, q :: qs, .cons hpq htail => by
    rw [skeletons, skeletons, skeleton_eq hR p q hpq, skeletons_eq hR ps qs htail]

end

end Piece

/-! ### Tokens with the same role -/

/-- Two tokens of the same class, or both white space or comments.  Reserved words must also agree in
whether they give a sort direction. -/
structure Token.SameRole (t u : Token) : Prop where
  lexClass : t.lexClass = u.lexClass ∨ t.lexClass.isTrivia = true ∧ u.lexClass.isTrivia = true
  direction : t.lexClass = .reservedWord → isDirectionWord t.text = isDirectionWord u.text

instance : DecidableRel Token.SameRole := fun t u =>
  decidable_of_iff ((t.lexClass = u.lexClass ∨ t.lexClass.isTrivia = true ∧ u.lexClass.isTrivia = true) ∧
    (t.lexClass = .reservedWord → isDirectionWord t.text = isDirectionWord u.text))
    ⟨fun h => ⟨h.1, h.2⟩, fun h => ⟨h.1, h.2⟩⟩

theorem indistinct_resembles : Token.Indistinct Token.Resembles where
  resembles := id
  mark := fun _ _ => ⟨.inl rfl, rfl⟩

/-- The letters of the words that give a sort direction. -/
def directionChars : List Char := ['a', 's', 'c', 'd', 'e']

theorem upperChar_of_foldChar {c : Char} (h : Text.foldChar c ∈ directionChars) :
    Text.upperChar c = (Text.foldChar c).toUpper := by
  by_cases hc : c.toNat < 128
  · have hall : ∀ n ∈ List.range 128, Text.foldChar (Char.ofNat n) ∈ directionChars →
        Text.upperChar (Char.ofNat n) = (Text.foldChar (Char.ofNat n)).toUpper := by decide +kernel
    have hn := hall c.toNat (List.mem_range.mpr hc)
    rw [Char.ofNat_toNat] at hn
    exact hn h
  · have hascii : ∀ d ∈ directionChars, d.toNat < 128 := by decide
    unfold Text.foldChar at h ⊢
    split
    · rename_i hlong
      rw [hlong]
      decide +kernel
    · rename_i hlong
      rw [if_neg hlong] at h
      split
      · rename_i hkelvin
        rw [if_pos hkelvin] at h
        exact absurd h (by decide)
      · rename_i hkelvin
        rw [if_neg hkelvin] at h
        have hlower : c.toLower = c := by
          unfold Char.toLower
          refine dif_neg fun hcapital => hc ?_
          exact Nat.lt_of_le_of_lt (UInt32.le_iff_toNat_le.mp hcapital.2) (by decide)
        rw [hlower] at h
        exact absurd (hascii c h) hc

theorem upper_of_foldsTo {s word : String} (hword : ∀ c ∈ word.toList, c ∈ directionChars)
    (h : Text.foldsTo s word = true) : Text.upper s = String.ofList (word.toList.map Char.toUpper) := by
  have hfold : s.toList.map Text.foldChar = word.toList := by simpa [Text.foldsTo] using h
  unfold Text.upper
  rw [← hfold, List.map_map]
  congr 1
  refine List.map_congr_left fun c hc => upperChar_of_foldChar (hword _ ?_)
  rw [← hfold]
  exact List.mem_map_of_mem hc

/-- A word that gives a sort direction is reserved. -/
theorem ofWord_of_isDirectionWord {word : String} (h : isDirectionWord word = true) :
    LexClass.ofWord word = .reservedWord := by
  have hupper : Text.upper word = "ASC" ∨ Text.upper word = "DESC" := by
    have hcases : Text.foldsTo word "asc" = true ∨ Text.foldsTo word "desc" = true := by
      simpa [isDirectionWord] using h
    rcases hcases with h | h
    · exact .inl (upper_of_foldsTo (by decide) h)
    · exact .inr (upper_of_foldsTo (by decide) h)
  unfold LexClass.ofWord
  rcases hupper with h | h
  · rw [h]
    decide +kernel
  · rw [h]
    decide +kernel

/-- A plain name gives no sort direction. -/
theorem isDirection_of_identifier {t : Token} (hshape : Scan.Shape t.lexClass t.text.toList)
    (h : t.lexClass = .identifier) : isDirectionWord t.text = false := by
  obtain ⟨c, s, hw⟩ := List.exists_cons_of_ne_nil hshape.ne_nil
  have hclass : t.lexClass = .ofWord t.text := by
    rw [hw] at hshape
    rw [← String.ofList_toList (s := t.text), hw]
    exact (hshape.word_of_isWordClass (by rw [h]; rfl)).2.2
  cases hword : isDirectionWord t.text with
  | false => rfl
  | true =>
    rw [ofWord_of_isDirectionWord hword, h] at hclass
    cases hclass

/-- The rules cannot tell scanned tokens with the same role apart. -/
theorem Token.SameRole.resembles {t u : Token} (h : t.SameRole u)
    (ht : Scan.Shape t.lexClass t.text.toList) (hu : Scan.Shape u.lexClass u.text.toList) :
    t.Resembles u := by
  refine ⟨h.lexClass, ?_⟩
  unfold Token.isDirection
  rcases h.lexClass with hsame | ⟨htrivia, hutrivia⟩
  · rw [← hsame]
    by_cases hreserved : t.lexClass = .reservedWord
    · rw [h.direction hreserved]
    · by_cases hname : t.lexClass = .identifier
      · rw [isDirection_of_identifier ht hname, isDirection_of_identifier hu (hsame ▸ hname)]
      · simp [hreserved, hname]
  · have hnone : ∀ {k : LexClass}, k.isTrivia = true →
        [LexClass.identifier, .reservedWord].contains k = false := by
      intro k hk
      cases k <;> first
        | rfl
        | cases hk
    rw [hnone htrivia, hnone hutrivia]
    rfl

/-! ### Token lists -/

theorem Token.parens_eq {ts us : List Token} (h : List.Forall₂ Token.Resembles ts us) :
    Token.parens ts = Token.parens us := by
  induction h with
  | nil => rfl
  | @cons t u ts us htu _ ih =>
    rw [Token.parens_cons, Token.parens_cons, ih]
    rcases htu.lexClass with hsame | ⟨ht, hu⟩
    · rw [hsame]
    · have hnone : ∀ {k : LexClass}, k.isTrivia = true → Token.isParen k = false := by
        intro k hk
        cases k <;> first
          | rfl
          | cases hk
      rw [hnone ht, hnone hu]
      rfl

namespace Statement

variable {R : Token → Token → Prop} {ts us : List Token}

theorem depthAfter_eq {t u : Token} (h : t.Resembles u) (depth : Nat) :
    depthAfter depth t = depthAfter depth u := by
  by_cases ho : t.lexClass = .openParen
  · have ho' := (h.lexClass_eq_iff rfl).mp ho
    simp [depthAfter, ho, ho']
  · by_cases hc : t.lexClass = .closeParen
    · have hc' := (h.lexClass_eq_iff rfl).mp hc
      simp [depthAfter, hc, hc']
    · rw [depthAfter_other ho hc, depthAfter_other (ho ∘ (h.lexClass_eq_iff rfl).mpr)
        (hc ∘ (h.lexClass_eq_iff rfl).mpr)]

theorem similar_splitFrom (hR : Token.Indistinct R) (depth : Nat) (h : List.Forall₂ R ts us) :
    List.Forall₂ (List.Forall₂ R) (splitFrom depth ts) (splitFrom depth us) := by
  induction h generalizing depth with
  | nil => exact .nil
  | @cons t u ts us htu _ ih =>
    have hsemicolon := (hR.resembles htu).lexClass_eq_iff (k := .semicolon) rfl
    by_cases hend : t.lexClass = .semicolon ∧ depth = 0
    · rw [splitFrom_end hend, splitFrom_end ⟨hsemicolon.mp hend.1, hend.2⟩]
      exact .cons (.cons htu .nil) (ih 0)
    · rw [splitFrom_inside hend, splitFrom_inside fun h => hend ⟨hsemicolon.mpr h.1, h.2⟩,
        ← depthAfter_eq (hR.resembles htu)]
      have hrest := ih (depthAfter depth t)
      cases hts : splitFrom (depthAfter depth t) ts with
      | nil =>
        rw [hts] at hrest
        cases hus : splitFrom (depthAfter depth t) us with
        | nil => exact .cons (.cons htu .nil) .nil
        | cons _ _ =>
          rw [hus] at hrest
          cases hrest
      | cons chunk chunks =>
        rw [hts] at hrest
        cases hus : splitFrom (depthAfter depth t) us with
        | nil =>
          rw [hus] at hrest
          cases hrest
        | cons _ _ =>
          rw [hus] at hrest
          cases hrest with
          | cons hchunk hchunks => exact .cons (.cons htu hchunk) hchunks

theorem isSignificant_congr (hR : Token.Indistinct R) (h : List.Forall₂ R ts us) :
    isSignificant ts = isSignificant us := by
  induction h with
  | nil => rfl
  | @cons t u ts us htu _ ih =>
    have hcons : ∀ (t : Token) (ts : List Token),
        isSignificant (t :: ts) = (!t.lexClass.isTrivia || isSignificant ts) := fun _ _ => rfl
    rw [hcons, hcons, ih, (hR.resembles htu).isTrivia_eq]

/-- The significant parts of related token lists are related. -/
theorem similar_split (hR : Token.Indistinct R) (h : List.Forall₂ R ts us) :
    List.Forall₂ (List.Forall₂ R) ((split ts).filter isSignificant) ((split us).filter isSignificant) := by
  refine List.rel_filter ?_ (similar_splitFrom hR 0 h)
  intro chunk chunk' hchunk
  simp only [isSignificant_congr hR hchunk]

/-- Related parts are grouped into statements of the same form. -/
theorem similar_of_nest (hR : Token.Indistinct R) {chunks chunks' : List (List Token)}
    {statements statements' : List Statement} (h : List.Forall₂ (List.Forall₂ R) chunks chunks')
    (hs : List.Forall₂ (fun chunk s => nest chunk = .ok s.pieces) chunks statements)
    (hs' : List.Forall₂ (fun chunk s => nest chunk = .ok s.pieces) chunks' statements') :
    List.Forall₂ (fun s s' => List.Forall₂ (Piece.Similar R) s.pieces s'.pieces) statements statements' := by
  induction h generalizing statements statements' with
  | nil =>
    cases hs
    cases hs'
    exact .nil
  | cons hchunk _ ih =>
    cases hs with
    | cons hnest hrest =>
      cases hs' with
      | cons hnest' hrest' => exact .cons (similar_nest hR hchunk hnest hnest') (ih hrest hrest')

theorem resembles_of_sameRole (h : List.Forall₂ Token.SameRole ts us)
    (hts : ∀ t ∈ ts, Scan.Shape t.lexClass t.text.toList)
    (hus : ∀ u ∈ us, Scan.Shape u.lexClass u.text.toList) : List.Forall₂ Token.Resembles ts us := by
  induction h with
  | nil => exact .nil
  | cons htu _ ih =>
    rw [List.forall_mem_cons] at hts hus
    exact .cons (htu.resembles hts.1 hus.1) (ih hts.2 hus.2)

theorem exists_ok_of_isOk {ε α : Type} {result : Except ε α} (h : result.isOk = true) :
    ∃ a, result = .ok a := by
  cases result with
  | error e => cases h
  | ok a => exact ⟨a, rfl⟩

/-- **Names and white space do not matter.**  Take two texts that scan into token lists of the same length,
with tokens of the same role at the same place.  Then both are refused, or both have the same number of
statements and these have the same form. -/
theorem parse_form_eq (sql sql' : String) (ts us : List Token) (hts : Scan.tokenize sql = .ok ts)
    (hus : Scan.tokenize sql' = .ok us) (hrole : List.Forall₂ Token.SameRole ts us) :
    (∃ e e', parse sql = .error e ∧ parse sql' = .error e') ∨
      ∃ statements statements', parse sql = .ok statements ∧ parse sql' = .ok statements' ∧
        statements.map (fun s => Piece.skeletons s.pieces) =
          statements'.map fun s => Piece.skeletons s.pieces := by
  have hresembles : List.Forall₂ Token.Resembles ts us :=
    resembles_of_sameRole hrole (Scan.shape_of_lexed (Scan.lexed_of_tokenize hts).1)
      (Scan.shape_of_lexed (Scan.lexed_of_tokenize hus).1)
  have hparens := Token.checkParens_congr (Token.parens_eq hresembles)
  cases hcheck : Token.checkParens ts with
  | error e =>
    left
    obtain ⟨e', hcheck'⟩ : ∃ e', Token.checkParens us = .error e' := by
      cases hus' : Token.checkParens us with
      | error e' => exact ⟨e', rfl⟩
      | ok _ => exact absurd (hparens.mpr hus') (by simp [hcheck])
    refine ⟨.parens e, .parens e', ?_, ?_⟩
    · rw [parse_eq_error_iff, balancedTokens, hts]
      simp [hcheck]
    · rw [parse_eq_error_iff, balancedTokens, hus]
      simp [hcheck']
  | ok _ =>
    right
    obtain ⟨statements, hparse, -⟩ := exists_parse ((Token.balancedTokens_eq_ok_iff sql ts).mpr ⟨hts, hcheck⟩)
    obtain ⟨statements', hparse', -⟩ :=
      exists_parse ((Token.balancedTokens_eq_ok_iff sql' us).mpr ⟨hus, hparens.mp hcheck⟩)
    obtain ⟨ts', hts', hnested⟩ := nest_of_parse hparse
    obtain ⟨us', hus', hnested'⟩ := nest_of_parse hparse'
    obtain rfl : ts = ts' := Except.ok.inj (hts.symm.trans hts')
    obtain rfl : us = us' := Except.ok.inj (hus.symm.trans hus')
    have hsimilar := similar_of_nest indistinct_resembles (similar_split indistinct_resembles hresembles)
      hnested hnested'
    refine ⟨statements, statements', hparse, hparse', ?_⟩
    have hforms : List.Forall₂ (· = ·) (statements.map fun s => Piece.skeletons s.pieces)
        (statements'.map fun s => Piece.skeletons s.pieces) := by
      rw [List.forall₂_map_left_iff, List.forall₂_map_right_iff]
      exact hsimilar.imp fun _ _ => Piece.skeletons_eq indistinct_resembles _ _
    exact List.forall₂_eq_eq_eq ▸ hforms

theorem parse_form_eq_comment :
    ∃ ts us statements statements',
      Scan.tokenize "select f(a), t.* x from t order by b desc; (c)" = .ok ts ∧
      Scan.tokenize "SELECT g(aa),/* , */u.*\ny FROM s ORDER BY b asc; (d)" = .ok us ∧
      List.Forall₂ Token.SameRole ts us ∧
      parse "select f(a), t.* x from t order by b desc; (c)" = .ok statements ∧
      parse "SELECT g(aa),/* , */u.*\ny FROM s ORDER BY b asc; (d)" = .ok statements' ∧
      statements.map (fun s => Piece.skeletons s.pieces) =
        statements'.map fun s => Piece.skeletons s.pieces := by
  have hrole : ∀ ts ∈ (Scan.tokenize "select f(a), t.* x from t order by b desc; (c)").toOption,
      ∀ us ∈ (Scan.tokenize "SELECT g(aa),/* , */u.*\ny FROM s ORDER BY b asc; (d)").toOption,
        List.Forall₂ Token.SameRole ts us := by decide +kernel
  have haccepted : (parse "select f(a), t.* x from t order by b desc; (c)").isOk = true := by
    decide +kernel
  obtain ⟨ts, hts⟩ : ∃ ts, Scan.tokenize "select f(a), t.* x from t order by b desc; (c)" = .ok ts :=
    exists_ok_of_isOk (by decide +kernel)
  obtain ⟨us, hus⟩ : ∃ us, Scan.tokenize "SELECT g(aa),/* , */u.*\ny FROM s ORDER BY b asc; (d)" = .ok us :=
    exists_ok_of_isOk (by decide +kernel)
  rw [hts, hus] at hrole
  have hsame := hrole ts rfl us rfl
  rcases parse_form_eq _ _ ts us hts hus hsame with ⟨e, -, herror, -⟩ | ⟨statements, statements', h, h', heq⟩
  · rw [herror] at haccepted
    cases haccepted
  · exact ⟨ts, us, statements, statements', hts, hus, hsame, h, h', heq⟩

end Statement

end SqlOutline
