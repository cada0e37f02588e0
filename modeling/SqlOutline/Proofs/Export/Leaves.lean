import SqlOutline.Export
import SqlOutline.Proofs.Json.RoundTrip
import SqlOutline.Proofs.Outline.Stripped
import SqlOutline.Proofs.Result

/-!
# The leaves that are read from documents

A node that is no group has no children.  The readers of YAML and XML see to it that this holds of every node
they give, whatever the document says.  The reader of JSON takes over the children that an object gives, and
so it holds of what it reads exactly when it holds of the document.

* `Xml.proper_of_toNode`, `Yaml.proper_of_readNode` : the readers that drop the children of leaves;
* `Json.isGroupOf`, `Json.childrenOf`, `Json.Tidy` : what an object says about a node, and the values that
  give children to groups only;
* `Json.readMembers_eq` : the reader takes over what the object says;
* `Json.proper_iff_tidy` : the nodes of values that are tidy;
* `proper_iff_of_readNode` : the main result.
-/

namespace SqlOutline

/-! ### XML -/

namespace Xml

mutual

theorem proper_of_toNode : (e : Parsed) → ∀ {n : Node}, toNode e = .ok n → n.Proper
  | .mk _ attributes children, n, h => by
    rw [toNode] at h
    split at h
    · cases h
    · rename_i isGroup _
      cases isGroup with
      | false =>
        cases h
        exact .leaf
      | true =>
        dsimp only at h
        rw [if_pos rfl] at h
        split at h
        · rename_i nodes hnodes
          cases h
          exact .group (forall_proper_of_toNodes children hnodes)
        · cases h

theorem forall_proper_of_toNodes : (es : List Parsed) → ∀ {ns : List Node}, toNodes es = .ok ns →
    ∀ n ∈ ns, n.Proper
  | [], ns, h => by
    cases h
    simp
  | .mk name attributes children :: es, ns, h => by
    rw [toNodes] at h
    split at h
    · split at h
      · cases h
      · rename_i n hn
        split at h
        · rename_i rest hrest
          cases h
          rw [List.forall_mem_cons]
          exact ⟨proper_of_toNode _ hn, forall_proper_of_toNodes es hrest⟩
        · cases h
    · exact forall_proper_of_toNodes es h

end

theorem proper_of_readNode {s : String} {n : Node} (h : readNode s = .ok n) : n.Proper := by
  unfold readNode at h
  split at h
  · cases h
  · split at h
    · exact proper_of_toNode _ h
    · cases h

end Xml

/-! ### YAML -/

namespace Yaml

/-- The children that have been read are proper. -/
def Fields.Sound (f : Fields) : Prop := ∀ ns, f.children = .ok ns → ∀ n, some n ∈ ns → n.Proper

theorem Fields.sound_default : ({} : Fields).Sound := by
  rintro ns ⟨⟩ n hn
  cases hn

theorem eq_map_some_of_mapM_id {xs : List (Option Node)} {ns : List Node} (h : xs.mapM id = some ns) :
    xs = ns.map some := by
  induction xs generalizing ns with
  | nil =>
    cases h
    rfl
  | cons x xs ih =>
    rw [List.mapM_cons] at h
    simp only [id_eq, Option.bind_eq_bind, Option.bind_eq_some_iff] at h
    obtain ⟨n, rfl, rest, hrest, hns⟩ := h
    cases hns
    rw [ih hrest, List.map_cons]

/-- A leaf gets no children, and a group gets those that have been read. -/
theorem Fields.Sound.toNode {f : Fields} (hf : f.Sound) {n : Node} (h : f.toNode = .ok n) : n.Proper := by
  unfold Fields.toNode at h
  split at h
  · split at h
    · cases h
    · rename_i children hchildren
      split at h
      · rename_i ns hns
        cases h
        refine .group fun n hn => hf children hchildren n ?_
        rw [eq_map_some_of_mapM_id hns]
        exact List.mem_map_of_mem hn
      · cases h
  · cases h
    exact .leaf

theorem children_scalarField {f f' : Fields} {key : String} {v : Value} (h : scalarField f key v = some f') :
    f'.children = f.children := by
  unfold scalarField at h
  split at h
  · obtain ⟨s, -, rfl⟩ := Option.map_eq_some_iff.mp h
    rfl
  · split at h
    · obtain ⟨s, -, rfl⟩ := Option.map_eq_some_iff.mp h
      rfl
    · split at h
      · obtain ⟨b, -, rfl⟩ := Option.map_eq_some_iff.mp h
        rfl
      · cases h
        rfl

/-- A member changes the children only by those of a sequence. -/
theorem exists_of_memberFields_cons {f f' : Fields} {key : String} {v : Value}
    {rest : List (String × Value)} (h : memberFields? f ((key, v) :: rest) = some f') :
    ∃ g, memberFields? g rest = some f' ∧ (g.children = f.children ∨
      ∃ items, v = .sequence items ∧ childNodes? items = some g.children) := by
  unfold memberFields? at h
  split at h
  · cases v with
    | null => exact ⟨f, h, .inl rfl⟩
    | sequence items =>
      obtain ⟨g, hg, hrest⟩ := Option.bind_eq_some_iff.mp h
      obtain ⟨nodes, hnodes, rfl⟩ := Option.map_eq_some_iff.mp hg
      exact ⟨_, hrest, .inr ⟨items, rfl, hnodes⟩⟩
    | _ => cases h
  · obtain ⟨g, hg, hrest⟩ := Option.bind_eq_some_iff.mp h
    exact ⟨g, hrest, .inl (children_scalarField hg)⟩

/-- The first child is missing, or it is the node of the first value. -/
theorem exists_of_childNodes_cons {v : Value} {vs : List Value} {ns : List (Option Node)}
    (h : childNodes? (v :: vs) = some (.ok ns)) :
    ∃ x rest, ns = x :: rest ∧ childNodes? vs = some (.ok rest) ∧
      ∀ n, x = some n → ∃ f, fields? v = some f ∧ f.toNode = .ok n := by
  unfold childNodes? at h
  split at h
  · obtain ⟨r, hr, hns⟩ := Option.map_eq_some_iff.mp h
    obtain ⟨rest, rfl, rfl⟩ := Except.map_eq_ok_iff.mp hns
    exact ⟨none, rest, rfl, hr, nofun⟩
  · obtain ⟨f, hf, htail⟩ := Option.bind_eq_some_iff.mp h
    obtain ⟨r, hr, hns⟩ := Option.bind_eq_some_iff.mp htail
    obtain ⟨n, hn, hrest⟩ := Except.bind_eq_ok_iff.mp (Option.some.inj hns)
    obtain ⟨rest, rfl, rfl⟩ := Except.map_eq_ok_iff.mp hrest
    refine ⟨some n, rest, rfl, hr, ?_⟩
    rintro _ ⟨⟩
    exact ⟨f, hf, hn⟩

mutual

theorem sound_of_fields : (v : Value) → ∀ {f : Fields}, fields? v = some f → f.Sound
  | .mapping members merged, f, h => by
    obtain ⟨own, hown, hmerged⟩ := Option.bind_eq_some_iff.mp h
    exact sound_of_memberFields merged (sound_of_memberFields members Fields.sound_default hown) hmerged

theorem sound_of_memberFields : (members : List (String × Value)) → ∀ {f f' : Fields}, f.Sound →
    memberFields? f members = some f' → f'.Sound
  | [], f, f', hf, h => by
    cases h
    exact hf
  | (key, v) :: rest, f, f', hf, h => by
    obtain ⟨g, hrest, hsame | ⟨items, rfl, hitems⟩⟩ := exists_of_memberFields_cons h
    · refine sound_of_memberFields rest (fun ns hns => hf ns ?_) hrest
      rw [← hsame, hns]
    · refine sound_of_memberFields rest (fun ns hns => proper_of_childNodes items ?_) hrest
      rw [hitems, hns]

theorem proper_of_childNodes : (vs : List Value) → ∀ {ns : List (Option Node)},
    childNodes? vs = some (.ok ns) → ∀ n, some n ∈ ns → n.Proper
  | [], ns, h, n, hn => by
    cases h
    cases hn
  | v :: vs, ns, h, n, hn => by
    obtain ⟨x, rest, rfl, hrest, hx⟩ := exists_of_childNodes_cons h
    rcases List.mem_cons.mp hn with hfirst | hn
    · obtain ⟨f, hf, hnode⟩ := hx n hfirst.symm
      exact (sound_of_fields v hf).toNode hnode
    · exact proper_of_childNodes vs hrest n hn

end

theorem proper_of_readNode {s : String} {n : Node} (h : readNode s = .ok n) : n.Proper := by
  unfold readNode at h
  split at h
  · cases h
  · exact Fields.sound_default.toNode h
  · rename_i v _
    split at h
    · rename_i f hf
      exact (sound_of_fields v hf).toNode h
    · cases h

end Yaml

/-! ### JSON -/

namespace Json

/-- The values of the members with a given key, in order.  Letter case does not matter in a key. -/
def valuesOf (key : String) (members : List (String × Json)) : List Json :=
  (members.filter (Text.foldsTo ·.1 key)).map (·.2)

/-- A truth value replaces the one before it. -/
def flagAfter (flag : Bool) : Json → Bool
  | bool b => b
  | _ => flag

/-- The items of an array. -/
def items : Json → List Json
  | array js => js
  | _ => []

/-- Whether an object says that its node is a group: the last truth value counts. -/
def isGroupOf (members : List (String × Json)) : Bool := (valuesOf "is_group" members).foldl flagAfter false

/-- The children that an object gives to its node: the last value counts. -/
def childrenOf (members : List (String × Json)) : List Json :=
  (valuesOf "children" members).foldl (fun _ value => items value) []

/-- A value that gives children to groups only, at every level. -/
inductive Tidy : Json → Prop
  | null : Tidy null
  | leaf {members : List (String × Json)} : isGroupOf members = false → childrenOf members = [] →
      Tidy (object members)
  | group {members : List (String × Json)} : isGroupOf members = true →
      (∀ child ∈ childrenOf members, Tidy child) → Tidy (object members)

theorem foldl_valuesOf_cons {α : Type} {f : α → Json → α} {a : α} {key key' : String} {value : Json}
    {members : List (String × Json)} :
    (valuesOf key ((key', value) :: members)).foldl f a =
      (valuesOf key members).foldl f (if Text.foldsTo key' key then f a value else a) := by
  unfold valuesOf
  rw [List.filter_cons]
  split
  · rfl
  · rfl

/-- A key spells one word at most. -/
theorem foldsTo_eq_false {key word word' : String} (h : Text.foldsTo key word = true) (hne : word ≠ word') :
    Text.foldsTo key word' = false := by
  unfold Text.foldsTo at h ⊢
  rw [beq_iff_eq] at h
  rw [h, beq_eq_false_iff_ne]
  exact fun hword => hne (String.toList_inj.mp hword)

/-- What one member says about the group and its children. -/
theorem exists_of_readMembers_cons {f f' : Fields} {key : String} {value : Json}
    {rest : List (String × Json)} (h : readMembers f ((key, value) :: rest) = some f') :
    ∃ g, readMembers g rest = some f' ∧
      g.isGroup = (if Text.foldsTo key "is_group" then flagAfter f.isGroup value else f.isGroup) ∧
      ∀ js, toNodes? js = some f.children →
        toNodes? (if Text.foldsTo key "children" then items value else js) = some g.children := by
  unfold readMembers at h
  split at h
  · rename_i hkey
    rw [foldsTo_eq_false hkey (by decide), foldsTo_eq_false hkey (by decide)]
    cases value with
    | string s => exact ⟨_, h, rfl, fun _ hjs => hjs⟩
    | null => exact ⟨_, h, rfl, fun _ hjs => hjs⟩
    | _ => cases h
  · split at h
    · rename_i hkey
      rw [foldsTo_eq_false hkey (by decide), foldsTo_eq_false hkey (by decide)]
      cases value with
      | string s => exact ⟨_, h, rfl, fun _ hjs => hjs⟩
      | null => exact ⟨_, h, rfl, fun _ hjs => hjs⟩
      | _ => cases h
    · split at h
      · rename_i hkey
        rw [hkey, foldsTo_eq_false hkey (by decide)]
        cases value with
        | bool b => exact ⟨_, h, rfl, fun _ hjs => hjs⟩
        | null => exact ⟨_, h, rfl, fun _ hjs => hjs⟩
        | _ => cases h
      · rename_i hgroup
        rw [if_neg hgroup]
        split at h
        · rename_i hkey
          rw [hkey]
          cases value with
          | array js =>
            dsimp only at h
            split at h
            · rename_i nodes hnodes
              exact ⟨_, h, rfl, fun _ _ => hnodes⟩
            · cases h
          | null => exact ⟨_, h, rfl, fun _ _ => rfl⟩
          | _ => cases h
        · rename_i hchildren
          refine ⟨f, h, rfl, fun js hjs => ?_⟩
          rwa [if_neg hchildren]

/-- The reader takes over what the members say about the group and its children. -/
theorem readMembers_eq {members : List (String × Json)} : ∀ {f f' : Fields} {js : List Json},
    readMembers f members = some f' → toNodes? js = some f.children →
    f'.isGroup = (valuesOf "is_group" members).foldl flagAfter f.isGroup ∧
      toNodes? ((valuesOf "children" members).foldl (fun _ value => items value) js) = some f'.children := by
  induction members with
  | nil =>
    intro f f' js h hjs
    cases h
    exact ⟨rfl, hjs⟩
  | cons member rest ih =>
    intro f f' js h hjs
    obtain ⟨g, hrest, hgroup, hchildren⟩ := exists_of_readMembers_cons h
    rw [foldl_valuesOf_cons, foldl_valuesOf_cons, ← hgroup]
    exact ih hrest (hchildren js hjs)

/-- The node of an object says what the object says. -/
theorem exists_of_toNode_object {members : List (String × Json)} {n : Node}
    (h : toNode? (object members) = some n) :
    ∃ tag text children, n = .mk tag text (isGroupOf members) children ∧
      toNodes? (childrenOf members) = some children := by
  obtain ⟨f, hf, rfl⟩ := Option.map_eq_some_iff.mp h
  obtain ⟨hgroup, hchildren⟩ := readMembers_eq hf (rfl : toNodes? [] = some [])
  refine ⟨f.tag, f.text, f.children, ?_, hchildren⟩
  rw [Fields.toNode, hgroup]
  rfl

theorem toNodes_cons_eq_some {j : Json} {js : List Json} {ns : List Node} (h : toNodes? (j :: js) = some ns) :
    ∃ n rest, ns = n :: rest ∧ toNode? j = some n ∧ toNodes? js = some rest := by
  rw [toNodes?] at h
  split at h
  · rename_i n hn
    obtain ⟨rest, hrest, rfl⟩ := Option.map_eq_some_iff.mp h
    exact ⟨n, rest, rfl, hn, hrest⟩
  · cases h

theorem eq_nil_of_toNodes {js : List Json} (h : toNodes? js = some []) : js = [] := by
  cases js with
  | nil => rfl
  | cons j js =>
    obtain ⟨n, rest, hcons, -⟩ := toNodes_cons_eq_some h
    cases hcons

mutual

/-- A node is proper exactly when the value that it is read from is tidy. -/
theorem proper_iff_tidy : (n : Node) → ∀ {j : Json}, toNode? j = some n → (n.Proper ↔ j.Tidy)
  | .mk _ _ _ children, .null, h => by
    cases h
    exact ⟨fun _ => .null, fun _ => .leaf⟩
  | .mk _ _ _ children, .object members, h => by
    obtain ⟨tag, text, children, heq, hchildren⟩ := exists_of_toNode_object h
    cases heq
    have ih := forall_proper_iff_tidy children hchildren
    constructor
    · intro hproper
      generalize hgroup : isGroupOf members = isGroup at hproper
      cases hproper with
      | leaf => exact .leaf hgroup (eq_nil_of_toNodes hchildren)
      | group hproper => exact .group hgroup (ih.mp hproper)
    · intro htidy
      cases htidy with
      | leaf hgroup hnone =>
        rw [hnone] at hchildren
        cases hchildren
        rw [hgroup]
        exact .leaf
      | group hgroup htidy =>
        rw [hgroup]
        exact .group (ih.mpr htidy)

theorem forall_proper_iff_tidy : (ns : List Node) → ∀ {js : List Json}, toNodes? js = some ns →
    ((∀ n ∈ ns, n.Proper) ↔ ∀ j ∈ js, j.Tidy)
  | ns, [], h => by
    cases h
    simp
  | ns, j :: js, h => by
    obtain ⟨n, rest, rfl, hn, hrest⟩ := toNodes_cons_eq_some h
    rw [List.forall_mem_cons, List.forall_mem_cons, proper_iff_tidy n hn, forall_proper_iff_tidy rest hrest]

end

end Json

theorem readNode_json_eq_ok_iff {data : String} {n : Node} :
    readNode .json data = .ok n ↔ ∃ j, Json.parse data = some j ∧ Json.toNode? j = some n := by
  rw [← Option.bind_eq_some_iff, readNode]
  cases (Json.parse data).bind Json.toNode? with
  | none => simp
  | some node => simp

theorem proper_of_readNode {format : Format} {data : String} {n : Node} (hformat : format ≠ .json)
    (h : readNode format data = .ok n) : n.Proper := by
  unfold readNode at h
  cases format with
  | json => contradiction
  | yaml =>
    dsimp only at h
    split at h
    · rename_i node hnode
      cases h
      exact Yaml.proper_of_readNode hnode
    all_goals cases h
  | xml =>
    dsimp only at h
    split at h
    · rename_i node hnode
      cases h
      exact Xml.proper_of_readNode hnode
    all_goals cases h

/-- **Which documents give leaves children.**  In a node that is read from a document only groups have
children, unless the document is written in JSON and gives children to a node that is no group: these are
kept. -/
theorem proper_iff_of_readNode {format : Format} {data : String} {n : Node}
    (h : readNode format data = .ok n) :
    n.Proper ↔ (format = .json → ∀ j, Json.parse data = some j → j.Tidy) := by
  by_cases hformat : format = .json
  · subst hformat
    obtain ⟨j, hparse, hnode⟩ := readNode_json_eq_ok_iff.mp h
    rw [Json.proper_iff_tidy n hnode, hparse]
    simp
  · simp [proper_of_readNode hformat h, hformat]

/-- The group holds a leaf, and the leaf keeps the child that stands in the document. -/
theorem proper_iff_of_readNode_stray :
    let data := "\x7b\"is_group\":true,\"children\":[\x7b\"children\":[null]\x7d]\x7d\n"
    let n := Node.mk "" "" true [.mk "" "" false [.mk "" "" false []]]
    readNode .json data = .ok n ∧ ¬ n.Proper ∧
      (n.Proper ↔ (Format.json = .json → ∀ j, Json.parse data = some j → j.Tidy)) := by
  intro data n
  let leaf : Json := .object [("children", .array [.null])]
  let group : Json := .object [("is_group", .bool true), ("children", .array [leaf])]
  have hleaf : leaf.Numberless := .object (by simpa using .array (by simpa using .null))
  have hgroup : group.Numberless := .object (by simpa using ⟨.bool true, .array (by simpa using hleaf)⟩)
  have hdata : Json.render {} group = data := by decide +kernel
  have hparse : Json.parse data = some group := by
    rw [← hdata, Json.parse_render {} hgroup]
    exact if_pos (by decide)
  have hread : readNode .json data = .ok n := readNode_json_eq_ok_iff.mpr ⟨group, hparse, rfl⟩
  refine ⟨hread, ?_, proper_iff_of_readNode hread⟩
  intro hproper
  change Node.Proper (.mk "" "" true _) at hproper
  cases hproper with
  | group hchildren => cases hchildren _ List.mem_cons_self

end SqlOutline
