import SqlOutline.Query

/-!
# Nodes without the children of leaves

A document says nothing about the children of a node that is no group.

* `Node.stripped` : a node without them, at every level;
* `Node.Proper` : a node that has none;
* `stripped_of_proper` : stripping changes nothing else;
* `proper_of_node` : the node of a query has none.
-/

namespace SqlOutline

namespace Node

mutual

/-- A node without the children of nodes that are no groups. -/
def stripped : Node → Node
  | mk tag text isGroup children =>
    mk tag text isGroup (if isGroup then strippedAll children else [])

/-- The same for a list of nodes. -/
def strippedAll : List Node → List Node
  | [] => []
  | n :: ns => n.stripped :: strippedAll ns

end

/-- At and below the node only groups have children. -/
inductive Proper : Node → Prop
  | leaf {tag text : String} : Proper (.mk tag text false [])
  | group {tag text : String} {children : List Node} : (∀ c ∈ children, Proper c) →
      Proper (.mk tag text true children)

mutual

theorem stripped_of_proper : (n : Node) → n.Proper → n.stripped = n
  | .mk _ _ _ _, .leaf => rfl
  | .mk _ _ _ children, .group hchildren => by
    rw [stripped, if_pos rfl, strippedAll_of_proper children hchildren]

theorem strippedAll_of_proper : (ns : List Node) → (∀ n ∈ ns, n.Proper) → strippedAll ns = ns
  | [], _ => rfl
  | n :: ns, h => by
    rw [List.forall_mem_cons] at h
    rw [strippedAll, stripped_of_proper n h.1, strippedAll_of_proper ns h.2]

end

mutual

theorem proper_ofElement : (e : Element) → (ofElement e).Proper
  | .mk kind text inner => by
    rw [ofElement]
    cases hgroup : kind.isGroup with
    | false => exact .leaf
    | true => exact .group (proper_ofElements inner)

theorem proper_ofElements : (es : List Element) → ∀ n ∈ ofElements es, n.Proper
  | [] => by simp [ofElements]
  | e :: es => by
    rw [ofElements, List.forall_mem_cons]
    exact ⟨proper_ofElement e, proper_ofElements es⟩

end

theorem proper_process {es : List Element} {ns : List Node} (h : process es = some ns) :
    ∀ n ∈ ns, n.Proper := by
  cases es with
  | nil => cases h
  | cons e es =>
    obtain rfl : ofElements (e :: es) = ns := Option.some.inj h
    exact proper_ofElements _

end Node

/-- Only groups have children in the node of a query. -/
theorem Query.proper_of_node {q q' : Query} {n : Node} (h : q.node = .ok (n, q')) : n.Proper := by
  unfold node at h
  cases helements : q.elements with
  | error e =>
    rw [helements] at h
    cases h
  | ok result =>
    obtain ⟨es, stored⟩ := result
    rw [helements] at h
    cases hchildren : exportElements es with
    | error e =>
      simp only [bind, Except.bind, hchildren] at h
      cases h
    | ok children =>
      simp only [bind, Except.bind, hchildren, pure, Except.pure, Except.ok.injEq, Prod.mk.injEq] at h
      obtain ⟨rfl, -⟩ := h
      refine .group ?_
      unfold exportElements at hchildren
      split at hchildren
      · rename_i nodes hnodes
        obtain rfl : nodes = children := Except.ok.inj hchildren
        exact Node.proper_process hnodes
      · cases hchildren

end SqlOutline
