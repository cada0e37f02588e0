import SqlOutline.Outline.Basic
import SqlOutline.Outline.Node

/-!
# The views of a list of elements

The leaf texts, the exported nodes and the outline of a list of elements are made by separate recursions.
All of them show the same elements: those of the list and those inside groups, in pre-order.

* `Element.shown` : the elements that a view shows;
* `Node.subnodes`, `Node.levels` : the nodes of an exported tree in pre-order, and how deep it is;
* `subnodesOf_ofElements`, `walkAll_forest`, `textsOf_eq` : each view in terms of the shown elements;
* `length_walk`, `depth_le_count` : the measures of an outline agree with its walk and with each other;
* `views_agree` : the main result.
-/

namespace SqlOutline

namespace Kind

/-- Kinds differ in their tags. -/
theorem tag_inj {k k' : Kind} (h : k.tag = k'.tag) : k = k' := by
  have hall : ∀ k ∈ all, ∀ k' ∈ all, k.tag = k'.tag → k = k' := by decide +kernel
  exact hall k (mem_all k) k' (mem_all k') h

end Kind

/-! ### Shown elements -/

namespace Element

mutual

/-- The element and, if it is a group, the elements shown inside it, in pre-order. -/
def shown : Element → List Element
  | mk kind text inner => mk kind text inner :: if kind.isGroup then shownOf inner else []

/-- The elements shown of a list, in pre-order. -/
def shownOf : List Element → List Element
  | [] => []
  | e :: es => e.shown ++ shownOf es

end

mutual

/-- The leaf texts are the texts of the shown elements that are no groups. -/
theorem texts_eq : (e : Element) → e.texts = (e.shown.filter (!·.isGroup)).map (·.text)
  | mk kind text inner => by
    rw [texts, shown]
    cases hgroup : kind.isGroup with
    | false => simp [isGroup, Element.kind, Element.text, hgroup]
    | true =>
      rw [if_pos rfl, if_pos rfl, textsOf_eq inner, List.filter_cons_of_neg]
      simp [isGroup, Element.kind, hgroup]

theorem textsOf_eq : (es : List Element) → textsOf es = ((shownOf es).filter (!·.isGroup)).map (·.text)
  | [] => rfl
  | e :: es => by rw [textsOf, shownOf, texts_eq e, textsOf_eq es, List.filter_append, List.map_append]

end

/-- The label under which an element is shown in an outline. -/
def label (e : Element) : Option Label := Outline.labelOf e.kind e.text

/-- An element is labelled with its own kind and text, unless it is a parenthesis. -/
theorem label_cases (e : Element) :
    e.label = none ∧ (e.kind = .parenthesis ∨ e.kind = .subselect) ∨
      e.label = some ⟨e.kind, e.text⟩ ∧ ¬(e.kind = .parenthesis ∨ e.kind = .subselect) := by
  obtain ⟨kind, text, inner⟩ := e
  cases kind with
  | parenthesis => exact .inl ⟨rfl, .inl rfl⟩
  | subselect => exact .inl ⟨rfl, .inr rfl⟩
  | _ => exact .inr ⟨rfl, by simp [Element.kind]⟩

/-- The labelled leaves among some elements are the leaves among them. -/
theorem leaves_filterMap_label (es : List Element) :
    ((es.filterMap label).filter (!·.kind.isGroup)).map (·.text) =
      (es.filter (!·.isGroup)).map (·.text) := by
  induction es with
  | nil => rfl
  | cons e es ih =>
    rcases label_cases e with ⟨hlabel, hparen⟩ | ⟨hlabel, -⟩
    · have hgroup : e.isGroup = true := by
        unfold isGroup
        rcases hparen with hk | hk <;> rw [hk] <;> rfl
      rw [List.filterMap_cons_none hlabel, ih, List.filter_cons_of_neg (by simp [hgroup])]
    · rw [List.filterMap_cons_some hlabel]
      cases hgroup : e.kind.isGroup with
      | false =>
        rw [List.filter_cons_of_pos (by simp [hgroup]), List.filter_cons_of_pos (by simp [isGroup, hgroup]),
          List.map_cons, List.map_cons, ih]
      | true =>
        rw [List.filter_cons_of_neg (by simp [hgroup]), List.filter_cons_of_neg (by simp [isGroup, hgroup]),
          ih]

/-- The labels of a kind among those of some elements are the elements of that kind, except that no
parenthesis has a label. -/
theorem kind_filterMap_label (es : List Element) (k : Kind) :
    ((es.filterMap label).filter (·.kind == k)).map (·.text) =
      if k = .parenthesis ∨ k = .subselect then [] else (es.filter (·.kind == k)).map (·.text) := by
  induction es with
  | nil => simp
  | cons e es ih =>
    rcases label_cases e with ⟨hlabel, hparen⟩ | ⟨hlabel, hplain⟩
    · rw [List.filterMap_cons_none hlabel, ih]
      split
      · rfl
      · rename_i hk
        have hne : e.kind ≠ k := by
          rintro rfl
          exact hk hparen
        rw [List.filter_cons_of_neg (by simpa using hne)]
    · rw [List.filterMap_cons_some hlabel]
      by_cases hsame : e.kind = k
      · rw [if_neg (hsame ▸ hplain)] at ih ⊢
        rw [List.filter_cons_of_pos (by simpa using hsame), List.filter_cons_of_pos (by simpa using hsame),
          List.map_cons, List.map_cons, ih]
      · rw [List.filter_cons_of_neg (by simpa using hsame), List.filter_cons_of_neg (by simpa using hsame), ih]

end Element

/-! ### Exported nodes -/

namespace Node

mutual

/-- The node and the nodes below it, in pre-order. -/
def subnodes : Node → List Node
  | mk tag text isGroup children => mk tag text isGroup children :: subnodesOf children

/-- The nodes at and below the nodes of a list, in pre-order. -/
def subnodesOf : List Node → List Node
  | [] => []
  | n :: ns => n.subnodes ++ subnodesOf ns

end

mutual

/-- The number of levels of a node. -/
def levels : Node → Nat
  | mk _ _ _ children => levelsOf children + 1

/-- The nesting depth of a list of nodes: the number of levels of the deepest of them. -/
def levelsOf : List Node → Nat
  | [] => 0
  | n :: ns => max n.levels (levelsOf ns)

end

mutual

theorem subnodes_ofElement : (e : Element) → (ofElement e).subnodes = e.shown.map ofElement
  | .mk kind text inner => by
    rw [ofElement, subnodes, Element.shown, List.map_cons, ofElement]
    congr 1
    cases kind.isGroup with
    | false => rfl
    | true => exact subnodesOf_ofElements inner

/-- The exported nodes are those of the shown elements. -/
theorem subnodesOf_ofElements : (es : List Element) →
    subnodesOf (ofElements es) = (Element.shownOf es).map ofElement
  | [] => rfl
  | e :: es => by
    rw [ofElements, subnodesOf, Element.shownOf, List.map_append, subnodes_ofElement e,
      subnodesOf_ofElements es]

end

end Node

theorem Element.tag_ofElement (e : Element) : (Node.ofElement e).tag = e.kind.tag := by
  cases e
  rfl

theorem Element.text_ofElement (e : Element) : (Node.ofElement e).text = e.text := by
  cases e
  rfl

theorem Element.isGroup_ofElement (e : Element) : (Node.ofElement e).isGroup = e.isGroup := by
  cases e
  rfl

/-! ### Outlines -/

namespace Outline

mutual

/-- A walk comes to every node once. -/
theorem length_walk (level : Nat) : (o : Outline) → (o.walk level).length = o.count
  | node label children => by
    rw [walk, count, List.length_cons, length_walkAll (level + 1) children, Nat.add_comm]

theorem length_walkAll (level : Nat) : (os : List Outline) → (walkAll level os).length = countOf os
  | [] => rfl
  | o :: os => by
    rw [walkAll, countOf, List.length_append, length_walk level o, length_walkAll level os]

end

mutual

/-- Every level has a node. -/
theorem depth_le_count : (o : Outline) → o.depth ≤ o.count
  | node label children => by
    have := depthOf_le_countOf children
    rw [depth, count]
    omega

theorem depthOf_le_countOf : (os : List Outline) → depthOf os ≤ countOf os
  | [] => Nat.le_refl 0
  | o :: os => by
    have := depth_le_count o
    have := depthOf_le_countOf os
    rw [depthOf, countOf]
    omega

end

mutual

theorem walk_ofElement (level : Nat) : (e : Element) →
    ((ofElement e).walk level).map (·.2) = e.shown.map ofElement
  | .mk kind text inner => by
    rw [ofElement, walk, Element.shown, List.map_cons, List.map_cons, ofElement]
    congr 1
    cases kind.isGroup with
    | false => rfl
    | true => exact walkAll_forest (level + 1) inner

/-- A walk through the trees of some elements comes to the trees of the shown elements. -/
theorem walkAll_forest (level : Nat) : (es : List Element) →
    (walkAll level (forest es)).map (·.2) = (Element.shownOf es).map ofElement
  | [] => rfl
  | e :: es => by
    rw [forest, walkAll, Element.shownOf, List.map_append, List.map_append, walk_ofElement level e,
      walkAll_forest level es]

end

mutual

theorem depth_ofElement : (e : Element) → (ofElement e).depth = (Node.ofElement e).levels
  | .mk kind text inner => by
    rw [ofElement, Node.ofElement, depth, Node.levels]
    cases kind.isGroup with
    | false => rfl
    | true => exact congrArg (· + 1) (depthOf_forest inner)

/-- Outlines are as deep as exported trees. -/
theorem depthOf_forest : (es : List Element) → depthOf (forest es) = Node.levelsOf (Node.ofElements es)
  | [] => rfl
  | e :: es => by
    rw [forest, Node.ofElements, depthOf, Node.levelsOf, depth_ofElement e, depthOf_forest es]

end

theorem label_ofElement (e : Element) : (ofElement e).label = e.label := by
  cases e
  rfl

/-- The labels of an outline are those of the shown elements. -/
theorem labels_ofElements (es : List Element) :
    (ofElements es).labels = (Element.shownOf es).filterMap Element.label := by
  unfold labels nodes ofElements
  rw [walk, List.map_cons, walkAll_forest, List.filterMap_cons_none rfl, List.filterMap_map]
  exact congrArg (List.filterMap · _) (funext label_ofElement)

/-- The number of nodes below the root is the number of shown elements. -/
theorem countOf_forest (es : List Element) : countOf (forest es) = (Element.shownOf es).length := by
  rw [← length_walkAll 0, ← List.length_map, walkAll_forest, List.length_map]

end Outline

/-! ### The main result -/

/-- **The views of a list of elements agree.**  The leaf texts, the texts of the exported nodes that are no
groups and the texts of the labelled leaves of the outline are one list.  The outline has one node more than
the export and is one level deeper, a walk comes to each of its nodes once, and it has no more levels than
nodes.  Searching it for a kind gives the texts of the exported nodes with the tag of that kind in pre-order,
and nothing for parentheses and subselects. -/
theorem views_agree (es : List Element) :
    ((Node.subnodesOf (Node.ofElements es)).filter (!·.isGroup)).map (·.text) = Element.textsOf es ∧
      ((Outline.ofElements es).labels.filter (!·.kind.isGroup)).map (·.text) = Element.textsOf es ∧
      (Outline.ofElements es).count = 1 + (Node.subnodesOf (Node.ofElements es)).length ∧
      (Outline.ofElements es).nodes.length = (Outline.ofElements es).count ∧
      (Outline.ofElements es).depth = 1 + Node.levelsOf (Node.ofElements es) ∧
      (Outline.ofElements es).depth ≤ (Outline.ofElements es).count ∧
      ∀ k, ((Outline.ofElements es).find k).map (·.text) =
        if k = .parenthesis ∨ k = .subselect then []
        else ((Node.subnodesOf (Node.ofElements es)).filter (·.tag == k.tag)).map (·.text) := by
  have htag : ∀ (e : Element) (k : Kind), (e.kind.tag == k.tag) = (e.kind == k) := by
    intro e k
    rw [Bool.eq_iff_iff, beq_iff_eq, beq_iff_eq]
    exact ⟨Kind.tag_inj, congrArg Kind.tag⟩
  refine ⟨?_, ?_, ?_, ?_, ?_, Outline.depth_le_count _, fun k => ?_⟩
  · rw [Node.subnodesOf_ofElements, Element.textsOf_eq]
    simp [List.filter_map, Function.comp_def, Element.isGroup_ofElement, Element.text_ofElement]
  · rw [Outline.labels_ofElements, Element.leaves_filterMap_label, Element.textsOf_eq]
  · rw [Node.subnodesOf_ofElements, List.length_map, Outline.ofElements, Outline.count,
      Outline.countOf_forest]
  · rw [Outline.nodes, List.length_map, Outline.length_walk]
  · rw [Outline.ofElements, Outline.depth, Outline.depthOf_forest, Nat.add_comm]
  · rw [Outline.find, Outline.labels_ofElements, Element.kind_filterMap_label,
      Node.subnodesOf_ofElements]
    simp [List.filter_map, Function.comp_def, Element.tag_ofElement, Element.text_ofElement, htag]

end SqlOutline
