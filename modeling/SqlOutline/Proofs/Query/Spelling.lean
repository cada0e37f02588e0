import SqlOutline.Proofs.Layout.Formatted
import SqlOutline.Proofs.Outline.Views
import SqlOutline.Proofs.Query.Refinement

/-!
# The node of a normalized query spells the normalized text

In an exported tree a leaf has its keyword in upper case and a group the source text that it covers, so the
texts of a group and of its children agree only where all keywords are in upper case.  A normalized text is
such a text, also after white space is gone and numbers have been put together.

* `Node.Spells` : every group at and below a node has the text of its children;
* `Statement.IsFirstPart` : the tokens up to the first semicolon outside parentheses;
* `spells_ofPiece`, `text_ofPieces`, `textsOf_ofPieces` : pieces whose leaves are spelled as they are
  exported;
* `first_of_parse` : the leaves of the first statement;
* `node_spells_normalized` : the main result.
-/

namespace SqlOutline

open Piece Scan

/-! ### Nodes of pieces -/

/-- Every group at and below the node has the texts of its children, one after the other, as its text. -/
inductive Node.Spells : Node → Prop
  | leaf {tag text : String} : Spells (.mk tag text false [])
  | group {tag text : String} {children : List Node} :
      text = String.join (children.map Node.text) → (∀ c ∈ children, Spells c) →
      Spells (.mk tag text true children)

theorem Kind.isGroup_ofLexClass (k : LexClass) : (Kind.ofLexClass k).isGroup = false := by
  cases k with
  | keyword w => cases w <;> rfl
  | _ => rfl

theorem Kind.isGroup_ofGroup (kind : GroupKind) : (Kind.ofGroup kind).isGroup = true := by
  cases kind <;> rfl

namespace Element

variable {p : Piece} {ps : List Piece}

/-- Whether the tokens have the texts with which they are exported. -/
def Plain (ts : List Token) : Prop := ∀ t ∈ ts, t.normalized = t.text

theorem isGroup_ofPiece (kind : GroupKind) (text : String) (pos : Position) (members : List Piece) :
    ∃ k : Kind, k.isGroup = true ∧ ofPiece (.group kind text pos members) = mk k text (ofPieces members) := by
  by_cases hquery : kind = .parenthesis ∧ opensQuery members
  · exact ⟨.subselect, rfl, by simp [ofPiece, hquery]⟩
  · refine ⟨.ofGroup kind, Kind.isGroup_ofGroup kind, ?_⟩
    rw [ofPiece, if_neg hquery]

theorem text_ofPiece (h : Plain p.leaves) : (ofPiece p).text = p.text := by
  cases p with
  | leaf t => exact h t (by simp)
  | group kind text pos members =>
    obtain ⟨k, -, hk⟩ := isGroup_ofPiece kind text pos members
    rw [hk]
    rfl

theorem plain_of_mem (h : Plain (leavesOf ps)) (hp : p ∈ ps) : Plain p.leaves := by
  intro t ht
  obtain ⟨before, after, rfl⟩ := List.append_of_mem hp
  exact h t (by simp [ht])

/-- The texts of the nodes of a list of pieces make up the text of their leaves. -/
theorem text_ofPieces (hwell : ∀ p ∈ ps, p.WellFormed) (h : Plain (leavesOf ps)) :
    String.join ((Node.ofElements (ofPieces ps)).map Node.text) = sourceText (leavesOf ps) := by
  rw [Node.ofElements_ofPieces, List.map_map, ← joinText_eq hwell]
  congr 1
  refine List.map_congr_left fun p hp => ?_
  show (Node.ofElement (ofPiece p)).text = p.text
  rw [text_ofElement, text_ofPiece (plain_of_mem h hp)]

theorem spells_ofPiece (hwell : p.WellFormed) (h : Plain p.leaves) :
    (Node.ofElement (ofPiece p)).Spells := by
  induction hwell with
  | leaf t =>
    rw [ofPiece, Node.ofElement, Kind.isGroup_ofLexClass]
    exact .leaf
  | @group kind text pos members hne htext hpos hmembers ih =>
    rw [leaves_group] at h
    obtain ⟨k, hk, heq⟩ := isGroup_ofPiece kind text pos members
    rw [heq, Node.ofElement, hk, if_pos rfl]
    refine .group ?_ ?_
    · rw [text_ofPieces hmembers h]
      exact htext
    · rw [Node.ofElements_ofPieces]
      intro c hc
      obtain ⟨p, hp, rfl⟩ := List.mem_map.mp hc
      exact ih p hp (plain_of_mem h hp)

mutual

theorem texts_ofPiece : (p : Piece) → (ofPiece p).texts = p.leaves.map Token.normalized
  | .leaf t => by
    rw [ofPiece, texts, Kind.isGroup_ofLexClass, leaves_leaf]
    rfl
  | .group kind text pos members => by
    obtain ⟨k, hk, heq⟩ := isGroup_ofPiece kind text pos members
    rw [heq, texts, hk, if_pos rfl, leaves_group]
    exact textsOf_ofPieces members

/-- The texts that are listed are those of the leaves. -/
theorem textsOf_ofPieces : (ps : List Piece) → textsOf (ofPieces ps) = (leavesOf ps).map Token.normalized
  | [] => by rw [ofPieces, textsOf, leavesOf_nil, List.map_nil]
  | p :: ps => by
    rw [ofPieces, textsOf, texts_ofPiece p, textsOf_ofPieces ps, leavesOf_cons, List.map_append]

end

end Element

/-! ### The first statement of a text -/

/-- Neither stars nor wildcards are keywords. -/
theorem normalized_unmark (t : Token) : (unmark t).normalized = t.normalized := by
  unfold unmark
  split
  · rename_i h
    rw [Token.normalized, Token.normalized, h]
    rfl
  · rfl

namespace Statement

/-- The tokens up to the first semicolon outside parentheses and with it, or all tokens if there is no such
semicolon. -/
def IsFirstPart (first ts : List Token) : Prop :=
  ∃ rest, ts = first ++ rest ∧
    (EndsStatement 0 first ∧ OneStatement 0 first ∨ rest = [] ∧ NoStatementEnd 0 first)

theorem isFirstPart_of_filter {ts chunk : List Token} {chunks : List (List Token)}
    (h : (split ts).filter isSignificant = chunk :: chunks) : IsFirstPart chunk ts := by
  have hflat := flatten_split ts
  have hchunks := chunks_split ts
  cases hsplit : split ts with
  | nil =>
    rw [hsplit] at h
    cases h
  | cons c cs =>
    rw [hsplit] at h hflat hchunks
    cases hchunks with
    | last hne hno =>
      -- the only part is not left out
      have hc : c = chunk := by
        have hmem : chunk ∈ [c].filter isSignificant := by
          rw [h]
          exact List.mem_cons_self
        exact (List.mem_singleton.mp (List.mem_of_mem_filter hmem)).symm
      refine ⟨[], ?_, .inr ⟨rfl, hc ▸ hno⟩⟩
      rw [← hflat, hc]
      simp
    | cons hends hone _ =>
      rw [List.filter_cons_of_pos hends.isSignificant] at h
      obtain ⟨rfl, -⟩ := List.cons.inj h
      exact ⟨cs.flatten, by rw [← hflat, List.flatten_cons], .inl ⟨hends, hone⟩⟩

/-- The leaves of the first statement are the first part of the text. -/
theorem first_of_parse {sql : String} {s : Statement} {rest : List Statement}
    (h : parse sql = .ok (s :: rest)) :
    ∃ ts, tokenize sql = .ok ts ∧ IsFirstPart (s.leaves.map unmark) ts ∧ ∀ p ∈ s.pieces, p.WellFormed := by
  obtain ⟨ts, hts, hchunks, hwell⟩ := significant_of_parse h
  exact ⟨ts, hts, isFirstPart_of_filter hchunks, hwell s List.mem_cons_self⟩

end Statement

namespace Query

open Statement

variable {q q' : Query} {text : String}

/-! ### Calls on a normalized query -/

theorem set_normalizing (h : q.set text true = .ok q') :
    ∃ s, normalize text = .ok s ∧ q' = { q with raw := text, normalized := some s, cache := none } := by
  unfold set at h
  by_cases htext : text = ""
  · rw [htext] at h
    cases h
  · have hne : (text == "") = false := by simpa using htext
    rw [hne] at h
    cases hs : normalize text with
    | error e =>
      rw [hs] at h
      cases h
    | ok s =>
      rw [hs] at h
      exact ⟨s, rfl, (Except.ok.inj h).symm⟩

theorem coherent_of_set {normalizing : Bool} (h : q.set text normalizing = .ok q') : q'.Coherent := by
  obtain ⟨e, hset, -⟩ | ⟨r, hr, hset, -⟩ := q.set_cases text normalizing
  · rw [hset] at h
    cases h
  · rw [hset] at h
    rw [← Except.ok.inj h]
    exact hr

/-- The first call computes the elements and stores them, and later calls find them. -/
theorem Coherent.node_ok {q'' : Query} {n : Node} (h : q.Coherent) (hnode : q.node = .ok (n, q'')) :
    ∃ es, parseElements q.source = .ok es ∧ n = .root q.source (Node.ofElements es) ∧
      q.texts = .ok (Element.textsOf es, q'') ∧ q''.texts = .ok (Element.textsOf es, q'') := by
  obtain ⟨e, hfresh, -⟩ | ⟨es, hes, hfresh, hparsed⟩ := h.elements_cases
  · rw [node, hfresh] at hnode
    cases hnode
  · have hstored : (q.storing es).elements = .ok (es, q.storing es) := by
      obtain ⟨e, -, herror⟩ | ⟨es', hes', hagain, -⟩ := (h.storing hes).elements_cases
      · cases herror.symm.trans hparsed
      · obtain rfl : es' = es := Except.ok.inj (hes'.symm.trans hes)
        exact hagain
    obtain ⟨rfl, rfl⟩ : .root (q.storing es).source (Node.ofElements es) = n ∧ q.storing es = q'' := by
      rw [node, hfresh] at hnode
      simpa [bind, Except.bind, pure, Except.pure, exportElements_of_parse hes] using hnode
    refine ⟨es, hes, rfl, ?_, ?_⟩
    · rw [Query.texts, hfresh]
      rfl
    · rw [Query.texts, hstored]
      rfl

/-- The tokens of a normalized text make it up, and they have the texts with which they are exported. -/
theorem tokens_of_normalize {s : String} (h : normalize text = .ok s) :
    ∃ us, tokenize s = .ok us ∧ sourceText us = s ∧ Element.Plain us := by
  have hformat : Layout.format {} text = .ok s := by
    unfold normalize at h
    cases hf : Layout.format {} text with
    | error e =>
      rw [hf] at h
      cases h
    | ok out =>
      rw [hf] at h
      rw [Except.ok.inj h]
  obtain ⟨ts, hts, -, rfl⟩ := (Layout.format_eq_ok_iff {} text s).mp hformat
  have hus := Layout.tokenize_spell_formatted hts {}
  refine ⟨_, hus, ?_, Layout.textOf_of_format hformat hus⟩
  rw [sourceText_eq_ofList, Token.spell_placed]

theorem plain_leaves {ts first us : List Token} (hus : Element.Plain us) (hfirst : IsFirstPart first us)
    (hleaves : ts.map unmark = first) : Element.Plain ts := by
  obtain ⟨after, rfl, -⟩ := hfirst
  intro t ht
  have hmem : unmark t ∈ first ++ after := by
    rw [← hleaves]
    exact List.mem_append_left after (List.mem_map_of_mem ht)
  rw [← normalized_unmark, ← text_unmark]
  exact hus _ hmem

/-- **The node of a normalized query spells the normalized text.**  The text of the node is the normalized
text.  The children of the node, and so the listed texts, make up its first statement, and every group below
the node has the texts of its children, one after the other, as its text. -/
theorem node_spells_normalized (q q' q'' : Query) (text : String) (n : Node)
    (hset : q.set text true = .ok q') (hnode : q'.node = .ok (n, q'')) :
    ∃ (s : String) (us first : List Token) (texts : List String),
      q'.normalized = some s ∧ tokenize s = .ok us ∧ sourceText us = s ∧ IsFirstPart first us ∧
      n.text = s ∧ String.join (n.children.map Node.text) = sourceText first ∧
      q'.texts = .ok (texts, q'') ∧ q''.texts = .ok (texts, q'') ∧
      String.join texts = sourceText first ∧ ∀ c ∈ n.children, c.Spells := by
  obtain ⟨es, hes, rfl, htexts, htexts'⟩ := (coherent_of_set hset).node_ok hnode
  obtain ⟨s, hs, rfl⟩ := set_normalizing hset
  obtain ⟨statement, rest, hparse, rfl⟩ := exists_statement hes
  obtain ⟨us, hus, hsame, hplain⟩ := tokens_of_normalize hs
  obtain ⟨us', hus', hfirst, hwell⟩ := first_of_parse hparse
  obtain rfl : us = us' := Except.ok.inj (hus.symm.trans hus')
  have hleaves : Element.Plain (leavesOf statement.pieces) := plain_leaves hplain hfirst rfl
  have hjoin : sourceText (statement.leaves.map unmark) = sourceText (leavesOf statement.pieces) :=
    sourceText_map_unmark _
  refine ⟨s, us, _, _, rfl, hus, hsame, hfirst, rfl, ?_, htexts, htexts', ?_, ?_⟩
  · rw [hjoin]
    exact Element.text_ofPieces hwell hleaves
  · rw [hjoin, Element.textsOf_ofPieces, sourceText, List.map_congr_left hleaves]
  · show ∀ c ∈ Node.ofElements (Element.ofPieces statement.pieces), c.Spells
    rw [Node.ofElements_ofPieces]
    intro c hc
    obtain ⟨p, hp, rfl⟩ := List.mem_map.mp hc
    exact Element.spells_ofPiece (hwell p hp) (Element.plain_of_mem hleaves hp)

theorem node_spells_normalized_two :
    ∃ (q' q'' : Query) (n : Node) (us first : List Token) (texts : List String),
      Query.set {} "select f(a, . 5) x from t; select b" true = .ok q' ∧ q'.node = .ok (n, q'') ∧
      q'.normalized = some "SELECT f(a,.5) x\nFROM t;\n\nSELECT b" ∧
      tokenize "SELECT f(a,.5) x\nFROM t;\n\nSELECT b" = .ok us ∧ IsFirstPart first us ∧
      n.text = "SELECT f(a,.5) x\nFROM t;\n\nSELECT b" ∧
      sourceText first = "SELECT f(a,.5) x\nFROM t;" ∧
      String.join (n.children.map Node.text) = sourceText first ∧
      q'.texts = .ok (texts, q'') ∧ q''.texts = .ok (texts, q'') ∧
      String.join texts = sourceText first ∧ ∀ c ∈ n.children, c.Spells := by
  have hview : (Query.set {} "select f(a, . 5) x from t; select b" true).toOption.map (·.normalized) =
      some (some "SELECT f(a,.5) x\nFROM t;\n\nSELECT b") := by decide +kernel
  have hnodes : ((Query.set {} "select f(a, . 5) x from t; select b" true >>= node).toOption.map
      fun r => String.join (r.1.children.map Node.text)) = some "SELECT f(a,.5) x\nFROM t;" := by
    decide +kernel
  cases hset : Query.set {} "select f(a, . 5) x from t; select b" true with
  | error e =>
    rw [hset] at hview
    cases hview
  | ok q' =>
    rw [hset] at hview hnodes
    cases hnode : q'.node with
    | error e =>
      have hnone : (Except.ok q' >>= node).toOption = none := by
        show q'.node.toOption = none
        rw [hnode]
        rfl
      rw [hnone] at hnodes
      cases hnodes
    | ok r =>
      obtain ⟨n, q''⟩ := r
      have hjoin : String.join (n.children.map Node.text) = "SELECT f(a,.5) x\nFROM t;" := by
        have hsome : (Except.ok q' >>= node).toOption = some (n, q'') := by
          show q'.node.toOption = _
          rw [hnode]
          rfl
        rw [hsome] at hnodes
        exact Option.some.inj hnodes
      obtain ⟨s, us, first, texts, hs, hus, -, hfirst, htext, hchildren, htexts, htexts', hall, hspells⟩ :=
        node_spells_normalized {} q' q'' _ n hset hnode
      obtain rfl : s = "SELECT f(a,.5) x\nFROM t;\n\nSELECT b" :=
        Option.some.inj (hs.symm.trans (Option.some.inj hview))
      exact ⟨q', q'', n, us, first, texts, rfl, hnode, hs, hus, hfirst, htext, hchildren.symm.trans hjoin,
        hchildren, htexts, htexts', hall, hspells⟩

end Query

end SqlOutline
