import SqlOutline.Outline.Node
import SqlOutline.Proofs.Piece.Grouped
import SqlOutline.Proofs.Piece.Resemblance

/-!
# Parentheses stand alone

What is inside a parenthesis is grouped from its own tokens and by nothing around it.  So it has the pieces
of the text between the parentheses, parsed by itself.

* `Piece.parts` : a piece and everything below it;
* `Piece.unplaced` : a piece with all places forgotten;
* `Piece.Kept` : what every rule keeps, given that none of them builds a parenthesis;
* `Enclosed` : a parenthesis around a part of a token list, grouped from that part alone;
* `enclosed_of_parse` : every parenthesis of a text is of this kind;
* `parse_inside` : the main result.
-/

namespace SqlOutline

/-! ### Places -/

/-- Tokens of the same class and text. -/
structure Token.SameText (t u : Token) : Prop where
  lexClass : t.lexClass = u.lexClass
  text : t.text = u.text

theorem indistinct_sameText : Token.Indistinct Token.SameText where
  resembles h := ⟨.inl h.lexClass, by rw [Token.isDirection, Token.isDirection, h.lexClass, h.text]⟩
  mark h _ := ⟨rfl, h.text⟩

theorem sameText_placed (p : Position) (ts : List Token) :
    List.Forall₂ Token.SameText ts (Token.placed p ts) := by
  induction ts generalizing p with
  | nil => exact .nil
  | cons t ts ih => exact .cons ⟨rfl, rfl⟩ (ih _)

namespace Piece

mutual

/-- A piece with all places forgotten. -/
def unplaced : Piece → Piece
  | leaf t => leaf { t with pos := .start }
  | group kind text _ members => group kind text .start (unplacedAll members)

/-- A list of pieces with all places forgotten. -/
def unplacedAll : List Piece → List Piece
  | [] => []
  | p :: ps => p.unplaced :: unplacedAll ps

end

mutual

theorem text_leaves_eq : (p q : Piece) → Similar Token.SameText p q →
    p.leaves.map (·.text) = q.leaves.map (·.text)
  | .leaf t, .leaf u, .leaf htu => by simp [htu.text]
  | .group _ _ _ ps, .group _ _ _ qs, .group hmembers => by
    rw [leaves_group, leaves_group, text_leavesOf_eq ps qs hmembers]

theorem text_leavesOf_eq : (ps qs : List Piece) → List.Forall₂ (Similar Token.SameText) ps qs →
    (leavesOf ps).map (·.text) = (leavesOf qs).map (·.text)
  | [], _, .nil => rfl
  | p :: ps, q :: qs, .cons hpq htail => by
    rw [leavesOf_cons, leavesOf_cons, List.map_append, List.map_append, text_leaves_eq p q hpq,
      text_leavesOf_eq ps qs htail]

end

mutual

/-- Well-formed pieces of the same form over tokens of the same text differ in places only. -/
theorem unplaced_eq : (p q : Piece) → Similar Token.SameText p q → p.WellFormed → q.WellFormed →
    p.unplaced = q.unplaced
  | .leaf t, .leaf u, .leaf htu, _, _ => by rw [unplaced, unplaced, htu.lexClass, htu.text]
  | .group _ _ _ ps, .group _ _ _ qs, .group hmembers, .group _ htext _ hps, .group _ htext' _ hqs => by
    rw [unplaced, unplaced, unplacedAll_eq ps qs hmembers hps hqs, htext, htext', sourceText, sourceText,
      text_leavesOf_eq ps qs hmembers]

theorem unplacedAll_eq : (ps qs : List Piece) → List.Forall₂ (Similar Token.SameText) ps qs →
    (∀ p ∈ ps, p.WellFormed) → (∀ q ∈ qs, q.WellFormed) → unplacedAll ps = unplacedAll qs
  | [], _, .nil, _, _ => rfl
  | p :: ps, q :: qs, .cons hpq htail, hps, hqs => by
    rw [List.forall_mem_cons] at hps hqs
    rw [unplacedAll, unplacedAll, unplaced_eq p q hpq hps.1 hqs.1, unplacedAll_eq ps qs htail hps.2 hqs.2]

end

theorem isTrivia_unplaced (p : Piece) : p.unplaced.isTrivia = p.isTrivia := by
  cases p <;> rfl

theorem isLeafOf_unplaced (p : Piece) (classes : List LexClass) :
    p.unplaced.isLeafOf classes = p.isLeafOf classes := by
  cases p <;> rfl

theorem isLeaf_unplaced (p : Piece) (k : LexClass) : p.unplaced.isLeaf k = p.isLeaf k := by
  cases p <;> rfl

end Piece

open Piece

namespace Element

theorem opensQuery_unplacedAll (ps : List Piece) : opensQuery (unplacedAll ps) = opensQuery ps := by
  unfold opensQuery
  induction ps with
  | nil => rfl
  | cons p ps ih =>
    rw [unplacedAll, List.find?_cons, List.find?_cons, isTrivia_unplaced, isLeaf_unplaced]
    cases !(p.isTrivia || p.isLeaf .openParen) with
    | true => exact isLeafOf_unplaced p _
    | false => exact ih

mutual

/-- The element of a piece does not depend on places. -/
theorem ofPiece_unplaced : (p : Piece) → ofPiece p.unplaced = ofPiece p
  | .leaf _ => rfl
  | .group _ _ _ members => by
    rw [unplaced, ofPiece, ofPiece, opensQuery_unplacedAll, ofPieces_unplacedAll members]

theorem ofPieces_unplacedAll : (ps : List Piece) → ofPieces (unplacedAll ps) = ofPieces ps
  | [] => rfl
  | p :: ps => by rw [unplacedAll, ofPieces, ofPieces, ofPiece_unplaced p, ofPieces_unplacedAll ps]

end

end Element

/-! ### Parts -/

namespace Piece

mutual

/-- A piece and all pieces below it. -/
def parts : Piece → List Piece
  | leaf t => [leaf t]
  | group kind text pos members => group kind text pos members :: partsOf members

/-- The pieces of a list and all pieces below them. -/
def partsOf : List Piece → List Piece
  | [] => []
  | p :: ps => p.parts ++ partsOf ps

end

theorem mem_partsOf {ps : List Piece} {q : Piece} : q ∈ partsOf ps ↔ ∃ p ∈ ps, q ∈ p.parts := by
  induction ps with
  | nil => simp [partsOf]
  | cons p ps ih => simp [partsOf, ih]

theorem kind?_of_mem_parts_leaf {t : Token} {q : Piece} (h : q ∈ (leaf t).parts) : q.kind? = none := by
  simp only [parts, List.mem_singleton] at h
  subst h
  rfl

theorem Shaped.of_mem_parts {p q : Piece} (h : p.Shaped) (hq : q ∈ p.parts) : q.Shaped := by
  induction h with
  | leaf t =>
    rw [parts, List.mem_singleton] at hq
    rw [hq]
    exact .leaf t
  | group hshape hparen hmembers ih =>
    rw [parts] at hq
    rcases List.mem_cons.mp hq with rfl | hq
    · exact .group hshape hparen hmembers
    · obtain ⟨m, hm, hqm⟩ := mem_partsOf.mp hq
      exact ih m hm hqm

/-- The text of a piece without its first and its last character. -/
def insideText (p : Piece) : String := String.ofList p.text.toList.tail.dropLast

/-- A property of pieces that stays when groups other than parentheses are built and opened, and stars are
marked. -/
structure Kept (P : Piece → Prop) : Prop where
  mark : ∀ {t : Token}, P (.leaf t) → P (.leaf { t with lexClass := .wildcard })
  build : ∀ {kind : GroupKind} {ps : List Piece}, kind ≠ .parenthesis → (∀ p ∈ ps, P p) →
    P (ofMembers kind ps)
  members : ∀ {p : Piece}, P p → ∀ q ∈ p.members, P q

theorem kept_forall_parts (Q : Piece → Prop) :
    Kept fun p => ∀ q ∈ p.parts, q.kind? = some .parenthesis → Q q where
  mark := by simp [parts, kind?]
  build := by
    intro kind ps hkind h q hq hparen
    rw [ofMembers, parts] at hq
    rcases List.mem_cons.mp hq with rfl | hq
    · exact absurd (Option.some.inj hparen) hkind
    · obtain ⟨p, hp, hqp⟩ := mem_partsOf.mp hq
      exact h p hp q hqp hparen
  members := by
    intro p h q hq r hr
    cases p with
    | leaf t => cases hq
    | group kind text pos members =>
      exact h r (List.mem_cons_of_mem _ (mem_partsOf.mpr ⟨q, hq, hr⟩))

end Piece

namespace Rules

open Pattern

variable {P : Piece → Prop} {kind : GroupKind} {ps : List Piece}

theorem kept_merge (hP : Kept P) (hkind : kind ≠ .parenthesis) (h : ∀ p ∈ ps, P p) :
    P (merge kind ps) := by
  obtain ⟨qs, hmerge, hqs⟩ := exists_merge kind ps
  rw [hmerge]
  refine hP.build hkind fun q hq => ?_
  rcases hqs q hq with hq | ⟨p, hp, -, hq⟩
  · exact h q hq
  · exact hP.members (h p hp) q hq

theorem kept_applyRules (hP : Kept P) (h : ∀ p ∈ ps, P p) : ∀ q ∈ applyRules ps, P q := by
  have hrule : ∀ (pattern : Pattern) (kind : GroupKind), kind ≠ .parenthesis → ∀ {qs : List Piece},
      (∀ p ∈ qs, P p) → ∀ q ∈ pattern.replaceAll (merge kind) qs, P q :=
    fun _ _ hkind _ hqs => forall_replaceAll (fun _ hp => hp) (fun _ _ => kept_merge hP hkind) hqs
  have hmarked := forall_markWildcardsFrom (fun _ _ => hP.mark) h none
  unfold applyRules
  refine forall_foldWhere (fun _ _ hp => hp) (fun _ _ _ _ => hP.build (by decide)) ?_
  exact hrule itemList _ (by decide) <| hrule aliased _ (by decide) <|
    hrule Rules.comparison _ (by decide) <| hrule Rules.operation _ (by decide) <|
    hrule qualifiedName _ (by decide) <| hrule functionCall _ (by decide) hmarked

theorem kept_foldCases (hP : Kept P) (h : ∀ p ∈ ps, P p) : ∀ q ∈ foldCases ps, P q := by
  fun_induction foldCases ps with
  | case1 => simp
  | case2 p ps _ body last rest hsplit ihbody ihrest =>
    rw [splitAtEnd_append hsplit] at h
    have hbody := kept_applyRules hP (ihbody fun q hq => h q (by simp [hq]))
    have hrest := ihrest fun q hq => h q (by simp [hq])
    refine List.forall_mem_cons.mpr ⟨hP.build (by decide) ?_, hrest⟩
    exact forall_mem_bracket (h p (by simp)) hbody (h last (by simp))
  | case3 p ps _ _ ih =>
    rw [List.forall_mem_cons] at h ⊢
    exact ⟨h.1, ih h.2⟩
  | case4 p ps _ ih =>
    rw [List.forall_mem_cons] at h ⊢
    exact ⟨h.1, ih h.2⟩

/-- The rules of a level keep what the pieces have in common. -/
theorem kept_groupLevel (hP : Kept P) (h : ∀ p ∈ ps, P p) : ∀ q ∈ groupLevel ps, P q :=
  kept_applyRules hP (kept_foldCases hP h)

end Rules

namespace Statement

open Rules

variable {ts all : List Token} {ps : List Piece} {p : Piece}

/-! ### Parentheses -/

/-- A parenthesis around a part of a token list, with its inside grouped from that part alone. -/
inductive Enclosed (all : List Token) : Piece → Prop
  | mk {o c : Token} {body : List Token} {inner : List Piece} : o.lexClass = .openParen →
      c.lexClass = .closeParen → o :: body ++ [c] <:+: all → nest body = .ok inner →
      Enclosed all (ofMembers .parenthesis (.leaf o :: inner ++ [.leaf c]))

theorem Nested.enclosed (h : Nested ts ps) (hts : ts <:+: all) :
    ∀ p ∈ ps, ∀ q ∈ p.parts, q.kind? = some .parenthesis → Enclosed all q := by
  induction h with
  | nil => simp
  | plain _ _ _ ih =>
    refine List.forall_mem_cons.mpr ⟨?_, ih ((List.suffix_cons _ _).isInfix.trans hts)⟩
    simp [parts, kind?]
  | @paren o c body ts inner ps ho hc hbody _ ihbody ihts =>
    have hrest : ts <:+: o :: body ++ c :: ts := ⟨o :: body ++ [c], [], by simp⟩
    have hinside : body <:+: o :: body ++ c :: ts := ⟨[o], c :: ts, by simp⟩
    have hwhole : o :: body ++ [c] <:+: o :: body ++ c :: ts := ⟨[], ts, by simp⟩
    have hlevel := kept_groupLevel (kept_forall_parts (Enclosed all)) (ihbody (hinside.trans hts))
    refine List.forall_mem_cons.mpr ⟨fun q hq hparen => ?_, ihts (hrest.trans hts)⟩
    rw [ofMembers, parts] at hq
    rcases List.mem_cons.mp hq with rfl | hq
    · exact .mk ho hc (hwhole.trans hts) ((nest_eq_ok_iff body _).mpr ⟨inner, hbody, rfl⟩)
    · obtain ⟨m, hm, hqm⟩ := mem_partsOf.mp hq
      simp only [List.mem_append, List.mem_cons, List.not_mem_nil, or_false] at hm
      rcases hm with (rfl | hm) | rfl
      · cases (kind?_of_mem_parts_leaf hqm).symm.trans hparen
      · exact hlevel m hm q hqm hparen
      · cases (kind?_of_mem_parts_leaf hqm).symm.trans hparen

theorem exists_chunk_of_mem {chunks : List (List Token)} {statements : List Statement}
    (h : List.Forall₂ (fun chunk s => nest chunk = .ok s.pieces) chunks statements) {s : Statement}
    (hs : s ∈ statements) : ∃ chunk ∈ chunks, nest chunk = .ok s.pieces := by
  induction h with
  | nil => cases hs
  | cons hnest _ ih =>
    rcases List.mem_cons.mp hs with rfl | hs
    · exact ⟨_, List.mem_cons_self, hnest⟩
    · obtain ⟨chunk, hchunk, hnest⟩ := ih hs
      exact ⟨chunk, List.mem_cons_of_mem _ hchunk, hnest⟩

/-- Every parenthesis in the statements of a text is grouped from the tokens inside it alone. -/
theorem enclosed_of_parse {sql : String} {statements : List Statement} (h : parse sql = .ok statements)
    {s : Statement} (hs : s ∈ statements) (hp : p ∈ partsOf s.pieces)
    (hkind : p.kind? = some .parenthesis) : ∃ ts, Scan.tokenize sql = .ok ts ∧ Enclosed ts p := by
  obtain ⟨ts, hts, hnested⟩ := nest_of_parse h
  obtain ⟨chunk, hchunk, hnest⟩ := exists_chunk_of_mem hnested hs
  obtain ⟨inner, hinner, hlevel⟩ := (nest_eq_ok_iff chunk s.pieces).mp hnest
  have hpart : chunk <:+: ts := by
    have hflat := List.infix_of_mem_flatten (List.mem_of_mem_filter hchunk)
    rwa [flatten_split] at hflat
  obtain ⟨q, hq, hpq⟩ := mem_partsOf.mp hp
  rw [hlevel] at hq
  exact ⟨ts, hts, kept_groupLevel (kept_forall_parts _) (hinner.enclosed hpart) q hq p hpq hkind⟩

/-! ### The text inside -/

theorem exists_text_of_paren {t : Token} (h : Scan.Shape t.lexClass t.text.toList)
    (hparen : t.lexClass = .openParen ∨ t.lexClass = .closeParen) : ∃ c, t.text.toList = [c] := by
  have hall : ∀ entry ∈ Scan.symbols, entry.1 = .openParen ∨ entry.1 = .closeParen →
      entry.2.length = 1 := by decide
  have hmem := h.mem_symbols (by rcases hparen with h | h <;> simp [h])
  exact List.length_eq_one_iff.mp (hall _ hmem hparen)

theorem insideText_enclosed (hall : Scan.Lexed all) {o c : Token} {body : List Token}
    {inner : List Piece} (ho : o.lexClass = .openParen) (hc : c.lexClass = .closeParen)
    (hpart : o :: body ++ [c] <:+: all) (hnest : nest body = .ok inner) :
    (ofMembers .parenthesis (.leaf o :: inner ++ [.leaf c])).insideText =
      String.ofList (Token.spell body) := by
  have hshape := Scan.shape_of_lexed (hall.of_infix hpart)
  obtain ⟨x, hx⟩ := exists_text_of_paren (hshape o (by simp)) (.inl ho)
  obtain ⟨y, hy⟩ := exists_text_of_paren (hshape c (by simp)) (.inr hc)
  have hinner : (joinText inner).toList = Token.spell body := by
    rw [joinText_nest hnest, String.toList_ofList]
  have htext : (joinText (.leaf o :: inner ++ [.leaf c])).toList = x :: Token.spell body ++ [y] := by
    rw [← hinner]
    simp [joinText, String.toList_join, Piece.text, hx, hy]
  rw [insideText, ofMembers, Piece.text, htext]
  simp

theorem eq_nil_of_spell_eq_nil (h : ∀ t ∈ ts, Scan.Shape t.lexClass t.text.toList)
    (hnil : Token.spell ts = []) : ts = [] := by
  cases ts with
  | nil => rfl
  | cons t ts =>
    rw [Token.spell_cons, List.append_eq_nil_iff] at hnil
    exact absurd hnil.1 (h t List.mem_cons_self).ne_nil

/-- A statement that has all the text has all the tokens. -/
theorem nest_of_parse_one {sql : String} {s : Statement} (hts : Scan.tokenize sql = .ok ts)
    (h : parse sql = .ok [s]) (htext : s.text.toList = Token.spell ts) : nest ts = .ok s.pieces := by
  obtain ⟨ts', hts', hnested⟩ := nest_of_parse h
  obtain rfl : ts = ts' := Except.ok.inj (hts.symm.trans hts')
  obtain ⟨chunk, hchunks⟩ : ∃ chunk, (split ts).filter isSignificant = [chunk] :=
    List.length_eq_one_iff.mp hnested.length_eq
  rw [hchunks] at hnested
  cases hnested with
  | cons hnest _ =>
    have hmem : chunk ∈ (split ts).filter isSignificant := by simp [hchunks]
    have hpart := List.infix_of_mem_flatten (List.mem_of_mem_filter hmem)
    rw [flatten_split] at hpart
    obtain ⟨before, after, rfl⟩ := hpart
    have hshape := Scan.shape_of_lexed (Scan.lexed_of_tokenize hts).1
    have hspell : Token.spell chunk = Token.spell before ++ Token.spell chunk ++ Token.spell after := by
      rw [text, joinText_nest hnest, String.toList_ofList] at htext
      simpa using htext
    have hlen := congrArg List.length hspell
    simp only [List.length_append] at hlen
    have hbefore : before = [] :=
      eq_nil_of_spell_eq_nil (fun t ht => hshape t (by simp [ht])) (List.length_eq_zero_iff.mp (by omega))
    have hafter : after = [] :=
      eq_nil_of_spell_eq_nil (fun t ht => hshape t (by simp [ht])) (List.length_eq_zero_iff.mp (by omega))
    subst hbefore hafter
    simpa using hnest

theorem children_parenthesis (members : List Piece) :
    (Node.ofElement (Element.ofPiece (ofMembers .parenthesis members))).children =
      Node.ofElements (Element.ofPieces members) := by
  rw [ofMembers, Element.ofPiece]
  split
  · rfl
  · rfl

theorem children_enclosed (o c : Token) (ps : List Piece) :
    (Node.ofElement (Element.ofPiece (ofMembers .parenthesis
      (.leaf o :: ps ++ [.leaf c])))).children.tail.dropLast = Node.ofElements (Element.ofPieces ps) := by
  rw [children_parenthesis, Node.ofElements_ofPieces, Node.ofElements_ofPieces]
  simp

/-- **Parentheses stand alone.**  Take a parenthesis anywhere in the statements of a text, and let the text
between its first and its last character be one statement that has all of that text.  Then the parenthesis
has that statement's pieces between its own two leaves, apart from their places, and its node has the nodes
of that statement between its own two. -/
theorem parse_inside (sql : String) (statements : List Statement) (s : Statement) (p : Piece)
    (inner : Statement) (h : parse sql = .ok statements) (hs : s ∈ statements) (hp : p ∈ partsOf s.pieces)
    (hkind : p.kind? = some .parenthesis) (hinner : parse p.insideText = .ok [inner])
    (htext : inner.text = p.insideText) :
    (∃ o c ps, p.members = .leaf o :: ps ++ [.leaf c] ∧ unplacedAll ps = unplacedAll inner.pieces) ∧
      (Node.ofElement (Element.ofPiece p)).children.tail.dropLast =
        Node.ofElements (Element.ofPieces inner.pieces) := by
  obtain ⟨ts, hts, henclosed⟩ := enclosed_of_parse h hs hp hkind
  obtain ⟨hlexed, hnul⟩ := Scan.lexed_of_tokenize hts
  obtain @⟨o, c, body, pieces, ho, hc, hpart, hnest⟩ := henclosed
  have hbody : body <:+: ts := List.IsInfix.trans ⟨[o], [c], by simp⟩ hpart
  rw [insideText_enclosed hlexed ho hc hpart hnest] at hinner htext
  have htokens := Scan.tokenize_infix hlexed hnul hbody
  have halone : nest (Token.placed .start body) = .ok inner.pieces := by
    refine nest_of_parse_one htokens hinner ?_
    rw [htext, String.toList_ofList, Token.spell_placed]
  have hsimilar := similar_nest indistinct_sameText (sameText_placed .start body) hnest halone
  have hpieces : unplacedAll pieces = unplacedAll inner.pieces :=
    unplacedAll_eq _ _ hsimilar (nest_regroups hnest).2 (nest_regroups halone).2
  refine ⟨⟨o, c, pieces, rfl, hpieces⟩, ?_⟩
  rw [children_enclosed, ← Element.ofPieces_unplacedAll, hpieces, Element.ofPieces_unplacedAll]

theorem parse_inside_subselect :
    ∃ statements s p inner,
      parse "select case when x in (select t.*, f(1) from t where a = 1) then 2 end from u" = .ok statements ∧
      s ∈ statements ∧ p ∈ partsOf s.pieces ∧ p.kind? = some .parenthesis ∧
      p.insideText = "select t.*, f(1) from t where a = 1" ∧ parse p.insideText = .ok [inner] ∧
      inner.text = p.insideText ∧
      (∃ o c ps, p.members = .leaf o :: ps ++ [.leaf c] ∧ unplacedAll ps = unplacedAll inner.pieces) ∧
      (Node.ofElement (Element.ofPiece p)).children.tail.dropLast =
        Node.ofElements (Element.ofPieces inner.pieces) := by
  have hinside : (parse
      "select case when x in (select t.*, f(1) from t where a = 1) then 2 end from u").toOption.map
        (·.map fun s => ((partsOf s.pieces).find? (·.kind? == some .parenthesis)).map insideText) =
      some [some "select t.*, f(1) from t where a = 1"] := by decide +kernel
  have halone : (parse "select t.*, f(1) from t where a = 1").toOption.map (·.map text) =
      some ["select t.*, f(1) from t where a = 1"] := by decide +kernel
  cases houter : parse "select case when x in (select t.*, f(1) from t where a = 1) then 2 end from u" with
  | error e =>
    rw [houter] at hinside
    cases hinside
  | ok statements =>
    cases hparse : parse "select t.*, f(1) from t where a = 1" with
    | error e =>
      rw [hparse] at halone
      cases halone
    | ok inners =>
      rw [houter] at hinside
      rw [hparse] at halone
      obtain ⟨s, rfl, hs⟩ := List.map_eq_singleton_iff.mp (Option.some.inj hinside)
      obtain ⟨inner, rfl, htext⟩ := List.map_eq_singleton_iff.mp (Option.some.inj halone)
      obtain ⟨p, hfind, hp⟩ := Option.map_eq_some_iff.mp hs
      have hmem := List.mem_of_find?_eq_some hfind
      have hkind : p.kind? = some .parenthesis := by simpa using List.find?_some hfind
      rw [← hp] at hparse htext
      exact ⟨[s], s, p, inner, rfl, by simp, hmem, hkind, hp, hparse, htext,
        parse_inside _ [s] s p inner houter (by simp) hmem hkind hparse htext⟩

end Statement

end SqlOutline
