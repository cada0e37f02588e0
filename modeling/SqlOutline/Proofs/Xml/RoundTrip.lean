import SqlOutline.Export
import SqlOutline.Proofs.Outline.Stripped
import SqlOutline.Proofs.Xml.Tags

/-!
# Reading back what was written as XML

An exported node whose texts can be carried is read from its document, indented or not, as it was.

* `CarriedNode` : nodes whose texts a document carries unchanged;
* `tagsOf`, `parsedOf` : the tags and the element that a written node is read as;
* `tagged_write` : the tags of a written node, whatever follows it;
* `forestFrom?_tagsOf` : the element that these tags describe;
* `toNode_parsedOf` : the node of this element;
* `unifyLineEnds_eq` : texts without carriage returns stay as they are;
* `readNode_writeNode_xml` : the main result.
-/

namespace SqlOutline

namespace Xml

/-- All texts at and below a node are carried unchanged. -/
inductive CarriedNode : Node → Prop
  | mk {tag text : String} {isGroup : Bool} {children : List Node} : Carried tag → Carried text →
      (∀ c ∈ children, CarriedNode c) → CarriedNode (.mk tag text isGroup children)

/-! ### Tags -/

/-- The name of the elements that stand for nodes. -/
def nodeName : Name := ⟨"", "node"⟩

/-- The attributes of the element of a node as they are read. -/
def nodeAttributes (tag text : String) (isGroup : Bool) : List (Name × String) :=
  [(⟨"", "type"⟩, tag), (⟨"", "is_group"⟩, showBool isGroup), (⟨"", "value"⟩, text)]

mutual

/-- The tags of a node. -/
def tagsOf : Node → List Tag
  | .mk tag text isGroup children =>
    .start nodeName (nodeAttributes tag text isGroup) :: (tagsOfAll children ++ [.finish nodeName])

/-- The tags of a list of nodes. -/
def tagsOfAll : List Node → List Tag
  | [] => []
  | n :: ns => tagsOf n ++ tagsOfAll ns

end

theorem carried_showBool (b : Bool) : Carried (showBool b) := by
  cases b <;> decide

/-- The start tag of a node, closed at once or not. -/
theorem step?_node {tag text : String} (htag : Carried tag) (htext : Carried text) (isGroup : Bool)
    {ending rest : List Char} {closed : Bool}
    (hending : ending = ['>'] ∧ closed = false ∨ ending = ['/', '>'] ∧ closed = true) :
    step? (openTag "node" [("type", tag), ("is_group", showBool isGroup), ("value", text)] ++
        (ending ++ rest)) =
      some (.start nodeName (nodeAttributes tag text isGroup) ::
        if closed then [.finish nodeName] else [], rest) := by
  refine step?_start (by decide) ?_ hending
  simp only [List.forall_mem_cons]
  exact ⟨⟨by decide, htag⟩, ⟨by decide, carried_showBool isGroup⟩, ⟨by decide, htext⟩, by simp⟩

theorem exists_write (pretty : Bool) (level : Nat) (n : Node) :
    ∃ cs, write pretty level (ofNode n) = '<' :: cs := by
  obtain ⟨tag, text, isGroup, children⟩ := n
  cases children with
  | nil => exact ⟨_, by rw [ofNode, ofNodes, write, openTag, List.cons_append]⟩
  | cons c cs => exact ⟨_, by rw [ofNode, ofNodes, write, openTag, List.cons_append]⟩

mutual

/-- A written node stands for its tags, whatever follows it. -/
theorem tagged_write (pretty : Bool) (level : Nat) : (n : Node) → CarriedNode n → ∀ {rest : List Char}
    {tags : List Tag}, Tagged rest tags → Tagged (write pretty level (ofNode n) ++ rest) (tagsOf n ++ tags)
  | .mk tag text isGroup [], .mk htag htext _, rest, tags, h => by
    rw [ofNode, ofNodes, write, List.append_assoc]
    refine .step (step?_node htag htext isGroup (.inr ⟨rfl, rfl⟩)) ?_ h
    simp only [List.length_append, List.length_cons]
    omega
  | .mk tag text isGroup (c :: cs), .mk htag htext hchildren, rest, tags, h => by
    rw [List.forall_mem_cons] at hchildren
    have hclose : Tagged (closeTag "node" ++ rest) ([.finish nodeName] ++ tags) := by
      refine .step (step?_finish (by decide) rest) ?_ h
      simp only [closeTag, List.length_append, List.length_cons]
      omega
    have hend := tagged_newline hclose (.inr ⟨_, rfl⟩) pretty level
    have htail := tagged_writeAll pretty (level + 1) cs hchildren.2 hend
    have hhead := tagged_write pretty (level + 1) c hchildren.1 htail
    obtain ⟨first, hfirst⟩ := exists_write pretty (level + 1) c
    have hinside := tagged_newline hhead (.inr ⟨_, by rw [hfirst, List.cons_append]⟩) pretty (level + 1)
    have hall := Tagged.step (step?_node htag htext isGroup (.inl ⟨rfl, rfl⟩))
      (by simp only [List.length_append, List.length_cons]; omega) hinside
    rw [ofNode, ofNodes, write, tagsOf, tagsOfAll]
    simpa using hall

theorem tagged_writeAll (pretty : Bool) (level : Nat) : (ns : List Node) → (∀ n ∈ ns, CarriedNode n) →
    ∀ {rest : List Char} {tags : List Tag}, Tagged rest tags →
      Tagged (writeAll pretty level (ofNodes ns) ++ rest) (tagsOfAll ns ++ tags)
  | [], _, rest, tags, h => by
    rw [ofNodes, writeAll, tagsOfAll]
    exact h
  | n :: ns, hns, rest, tags, h => by
    rw [List.forall_mem_cons] at hns
    have htail := tagged_writeAll pretty level ns hns.2 h
    have hhead := tagged_write pretty level n hns.1 htail
    obtain ⟨first, hfirst⟩ := exists_write pretty level n
    rw [ofNodes, writeAll, tagsOfAll, List.append_assoc, List.append_assoc, List.append_assoc]
    exact tagged_newline hhead (.inr ⟨_, by rw [hfirst, List.cons_append]⟩) pretty level

end

/-! ### Elements -/

mutual

/-- The element that a written node is read as. -/
def parsedOf : Node → Parsed
  | .mk tag text isGroup children =>
    .mk nodeName (nodeAttributes tag text isGroup) (parsedOfAll children)

/-- The elements that written nodes are read as. -/
def parsedOfAll : List Node → List Parsed
  | [] => []
  | n :: ns => parsedOf n :: parsedOfAll ns

end

mutual

/-- The tags of a node describe its element. -/
theorem forestFrom?_tagsOf : (n : Node) → ∀ stack level tags,
    forestFrom? stack level (tagsOf n ++ tags) = forestFrom? stack (parsedOf n :: level) tags
  | .mk tag text isGroup children, stack, level, tags => by
    rw [tagsOf, List.cons_append, List.append_assoc, List.singleton_append, forestFrom?,
      forestFrom?_tagsOfAll children, forestFrom?, if_pos rfl, parsedOf, List.append_nil,
      List.reverse_reverse]

theorem forestFrom?_tagsOfAll : (ns : List Node) → ∀ stack level tags,
    forestFrom? stack level (tagsOfAll ns ++ tags) =
      forestFrom? stack ((parsedOfAll ns).reverse ++ level) tags
  | [], stack, level, tags => by
    rw [tagsOfAll, parsedOfAll]
    rfl
  | n :: ns, stack, level, tags => by
    rw [tagsOfAll, List.append_assoc, forestFrom?_tagsOf n, forestFrom?_tagsOfAll ns, parsedOfAll,
      List.reverse_cons, List.append_assoc, List.singleton_append]

end

/-! ### Nodes -/

mutual

/-- The element of a node stands for the node without the children of leaves. -/
theorem toNode_parsedOf : (n : Node) → toNode (parsedOf n) = .ok n.stripped
  | .mk tag text false children => rfl
  | .mk tag text true children => by
    have hchildren := toNodes_parsedOfAll children
    show (match toNodes (parsedOfAll children) with
      | .ok nodes => Except.ok (Node.mk tag text true nodes)
      | .error e => Except.error e) = _
    rw [hchildren]
    rfl

theorem toNodes_parsedOfAll : (ns : List Node) → toNodes (parsedOfAll ns) = .ok (Node.strippedAll ns)
  | [] => rfl
  | n :: ns => by
    have hfirst := toNode_parsedOf n
    have hrest := toNodes_parsedOfAll ns
    obtain ⟨tag, text, isGroup, children⟩ := n
    show (match toNode (parsedOf (.mk tag text isGroup children)) with
      | .error e => Except.error e
      | .ok n =>
        match toNodes (parsedOfAll ns) with
        | .ok ns => Except.ok (n :: ns)
        | .error e => Except.error e) = _
    rw [hfirst, hrest]
    rfl

end

/-! ### Line ends -/

theorem unifyLineEnds_eq {cs : List Char} (h : '\r' ∉ cs) : unifyLineEnds cs = cs := by
  fun_induction unifyLineEnds cs with
  | case1 => rfl
  | case2 => simp at h
  | case3 => simp at h
  | case4 => simp at h
  | case5 c d cs hc ih =>
    rw [List.mem_cons, not_or] at h
    rw [ih h.2]
  | case6 c _ => rfl

theorem not_mem_escapeChar {c : Char} (h : c ≠ '\r') : '\r' ∉ escapeChar c := by
  unfold escapeChar
  split_ifs <;> first
    | decide
    | simpa using Ne.symm h

theorem not_mem_escape {s : String} (h : Carried s) : '\r' ∉ escape s := by
  rw [escape, List.mem_flatMap]
  rintro ⟨c, hc, hmem⟩
  exact not_mem_escapeChar (h c hc).2 hmem

theorem not_mem_newline (pretty : Bool) (level : Nat) : '\r' ∉ newline pretty level := by
  cases pretty <;> simp [newline]

theorem not_mem_openTag {tag text : String} (htag : Carried tag) (htext : Carried text) (isGroup : Bool) :
    '\r' ∉ openTag "node" [("type", tag), ("is_group", showBool isGroup), ("value", text)] := by
  have htype := not_mem_escape htag
  have hflag := not_mem_escape (carried_showBool isGroup)
  have hvalue := not_mem_escape htext
  simp [openTag, writeAttributes, htype, hflag, hvalue]

mutual

/-- A written node has no carriage return. -/
theorem not_mem_write (pretty : Bool) (level : Nat) : (n : Node) → CarriedNode n →
    '\r' ∉ write pretty level (ofNode n)
  | .mk tag text isGroup [], .mk htag htext _ => by
    rw [ofNode, ofNodes, write]
    simp [not_mem_openTag htag htext]
  | .mk tag text isGroup (c :: cs), .mk htag htext hchildren => by
    rw [List.forall_mem_cons] at hchildren
    have hfirst := not_mem_write pretty (level + 1) c hchildren.1
    have hrest := not_mem_writeAll pretty (level + 1) cs hchildren.2
    rw [ofNode, ofNodes, write]
    simp [not_mem_openTag htag htext, not_mem_newline, hfirst, hrest, closeTag]

theorem not_mem_writeAll (pretty : Bool) (level : Nat) : (ns : List Node) → (∀ n ∈ ns, CarriedNode n) →
    '\r' ∉ writeAll pretty level (ofNodes ns)
  | [], _ => by
    rw [ofNodes, writeAll]
    simp
  | n :: ns, hns => by
    rw [List.forall_mem_cons] at hns
    rw [ofNodes, writeAll]
    simp only [List.mem_append, not_or]
    exact ⟨not_mem_newline _ _, not_mem_write pretty level n hns.1, not_mem_writeAll pretty level ns hns.2⟩

end

/-- A document with a node is read as the element of the node. -/
theorem parse_render (pretty : Bool) {n : Node} (h : CarriedNode n) :
    parse (render pretty (ofNode n)) = some [parsedOf n] := by
  have hends : '\r' ∉ declaration.toList ++ newline pretty 0 ++ write pretty 0 (ofNode n) ++
      newline pretty 0 := by
    have hdeclaration : '\r' ∉ declaration.toList := by decide
    simp [hdeclaration, not_mem_newline, not_mem_write pretty 0 n h]
  have htagged : Tagged (declaration.toList ++ newline pretty 0 ++ write pretty 0 (ofNode n) ++
      newline pretty 0) (tagsOf n) := by
    have hend : Tagged (newline pretty 0) [] := by
      simpa using tagged_newline .nil (.inl rfl) pretty 0
    have hnode := tagged_write pretty 0 n h hend
    obtain ⟨first, hfirst⟩ := exists_write pretty 0 n
    have hall := tagged_declaration
      (tagged_newline hnode (.inr ⟨_, by rw [hfirst, List.cons_append]⟩) pretty 0)
    simpa using hall
  unfold parse render
  rw [String.toList_ofList, unifyLineEnds_eq hends]
  dsimp only
  rw [htagged.tags?_eq _ (Nat.le_refl _), Option.bind_some, forest?]
  have hforest := forestFrom?_tagsOf n [] [] []
  rw [List.append_nil] at hforest
  rw [hforest]
  rfl

end Xml

/-- **Nodes survive XML.**  Every node whose texts have only characters that XML can carry, and no carriage
return, is written, and is read back from its document, compact or indented, without the children of nodes
that are no groups. -/
theorem readNode_writeNode_xml (pretty : Bool) (n : Node) (h : Xml.CarriedNode n) :
    ∃ text, writeNode .xml pretty n = .ok text ∧ readNode .xml text = .ok n.stripped := by
  have hread : Xml.readNode (Xml.render pretty (Xml.ofNode n)) = .ok n.stripped := by
    rw [← Xml.toNode_parsedOf, Xml.readNode, Xml.parse_render pretty h]
    cases n
    rfl
  exact ⟨_, rfl, by simp only [readNode, hread]⟩

theorem readNode_writeNode_xml_markup :
    Xml.CarriedNode (.mk "ROOT" "a <> 'é\t\n\"' & b" true
        [.mk "Name" "]]>" false [.mk "Name" "b" false []], .mk "Group" "" true []]) ∧
      ∃ text, writeNode .xml true (.mk "ROOT" "a <> 'é\t\n\"' & b" true
          [.mk "Name" "]]>" false [.mk "Name" "b" false []], .mk "Group" "" true []]) = .ok text ∧
        readNode .xml text = .ok (.mk "ROOT" "a <> 'é\t\n\"' & b" true
          [.mk "Name" "]]>" false [], .mk "Group" "" true []]) := by
  have hcarried : Xml.CarriedNode (.mk "ROOT" "a <> 'é\t\n\"' & b" true
      [.mk "Name" "]]>" false [.mk "Name" "b" false []], .mk "Group" "" true []]) := by
    have hleaf : Xml.CarriedNode (.mk "Name" "b" false []) := .mk (by decide) (by decide) (by simp)
    have hname : Xml.CarriedNode (.mk "Name" "]]>" false [.mk "Name" "b" false []]) :=
      .mk (by decide) (by decide) (by simpa using hleaf)
    have hgroup : Xml.CarriedNode (.mk "Group" "" true []) := .mk (by decide) (by decide) (by simp)
    exact .mk (by decide) (by decide) (by simpa using ⟨hname, hgroup⟩)
  exact ⟨hcarried, readNode_writeNode_xml true _ hcarried⟩

end SqlOutline
