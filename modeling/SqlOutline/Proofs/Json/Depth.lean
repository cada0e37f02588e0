import SqlOutline.Json.Node
import SqlOutline.Proofs.Result

/-!
# How deep texts nest

The reader rejects a text whose brackets and braces nest too deep, and so does the writer of nodes.

* `Confined` : a reader that gives whatever fits into its room;
* `confined_value?` : the reader of values, and with it those of items and members;
* `depth_ofNode_leaf`, `depth_ofNode_group` : how deep the value of a node nests;
* `TooDeep.Locates` : what the error of a node says;
* `encode_of_le`, `exists_encode_of_lt` : the nodes that are written, and those that are not.
-/

namespace SqlOutline.Json

/-! ### The room of the reader -/

section Room

variable {α β γ : Type}

/-- With less room a reader gives what it gives with more, as far as that fits. -/
def Confined (fits : Nat → α → Prop) (read : Nat → Option (α × List Char)) : Prop :=
  ∀ room room', room ≤ room' → ∀ x rest,
    read room = some (x, rest) ↔ fits room x ∧ read room' = some (x, rest)

theorem Confined.const {fits : Nat → α → Prop} {r : Option (α × List Char)}
    (h : ∀ x rest, r = some (x, rest) → ∀ room, fits room x) : Confined fits fun _ => r :=
  fun room _ _ x rest => ⟨fun hx => ⟨h x rest hx room, hx⟩, And.right⟩

theorem Confined.none {fits : Nat → α → Prop} : Confined fits fun _ => none := .const nofun

theorem Confined.map {p : Nat → α → Prop} {fits : Nat → β → Prop} {read : Nat → Option (α × List Char)}
    (wrap : α → β) (hread : Confined p read) (h : ∀ room x, fits room (wrap x) ↔ p room x) :
    Confined fits fun room => do
      let x ← read room
      return (wrap x.1, x.2) := by
  intro room room' hle y rest
  simp only [Option.bind_eq_bind, Option.bind_eq_some_iff]
  constructor
  · rintro ⟨⟨x, rest'⟩, hx, hy⟩
    obtain ⟨rfl, rfl⟩ := Prod.mk.inj (Option.some.inj hy)
    obtain ⟨hp, hx'⟩ := (hread room room' hle x rest').mp hx
    exact ⟨(h room x).mpr hp, (x, rest'), hx', rfl⟩
  · rintro ⟨hfits, ⟨x, rest'⟩, hx', hy⟩
    obtain ⟨rfl, rfl⟩ := Prod.mk.inj (Option.some.inj hy)
    exact ⟨(x, rest'), (hread room room' hle x rest').mpr ⟨(h room x).mp hfits, hx'⟩, rfl⟩

/-- One reader after the other. -/
theorem Confined.pair {p : Nat → α → Prop} {q : Nat → β → Prop} {fits : Nat → γ → Prop}
    {read : Nat → Option (α × List Char)} {next : List Char → Nat → Option (β × List Char)}
    (combine : α → β → γ) (hread : Confined p read) (hnext : ∀ cs, Confined q (next cs))
    (h : ∀ room x y, fits room (combine x y) ↔ p room x ∧ q room y) :
    Confined fits fun room => do
      let x ← read room
      let y ← next x.2 room
      return (combine x.1 y.1, y.2) := by
  intro room room' hle z rest
  simp only [Option.bind_eq_bind, Option.bind_eq_some_iff]
  constructor
  · rintro ⟨⟨x, cs⟩, hx, ⟨y, rest'⟩, hy, hz⟩
    obtain ⟨rfl, rfl⟩ := Prod.mk.inj (Option.some.inj hz)
    obtain ⟨hp, hx'⟩ := (hread room room' hle x cs).mp hx
    obtain ⟨hq, hy'⟩ := (hnext cs room room' hle y rest').mp hy
    exact ⟨(h room x y).mpr ⟨hp, hq⟩, (x, cs), hx', (y, rest'), hy', rfl⟩
  · rintro ⟨hfits, ⟨x, cs⟩, hx', ⟨y, rest'⟩, hy', hz⟩
    obtain ⟨rfl, rfl⟩ := Prod.mk.inj (Option.some.inj hz)
    obtain ⟨hp, hq⟩ := (h room x y).mp hfits
    exact ⟨(x, cs), (hread room room' hle x cs).mpr ⟨hp, hx'⟩, (y, rest'),
      (hnext cs room room' hle y rest').mpr ⟨hq, hy'⟩, rfl⟩

/-- Behind an opening bracket there is less room, and without room there is nothing. -/
theorem Confined.inside {fits : Nat → α → Prop} {read : Nat → Option (α × List Char)}
    (h : Confined (fun room x => ¬ fits 0 x ∧ fits (room + 1) x) read) :
    Confined fits fun room =>
      match room with
      | 0 => Option.none
      | room + 1 => read room := by
  intro room room' hle x rest
  cases room' with
  | zero =>
    obtain rfl := Nat.le_zero.mp hle
    simp
  | succ room' =>
    cases room with
    | zero =>
      have hnone : read room' = some (x, rest) → ¬ fits 0 x := fun hx =>
        ((h room' room' (Nat.le_refl _) x rest).mp hx).1.1
      simp only [reduceCtorEq, false_iff, not_and]
      exact fun hfits hx => hnone hx hfits
    | succ room =>
      refine (h room room' (Nat.le_of_succ_le_succ hle) x rest).trans (and_congr_left fun hx => ?_)
      exact and_iff_right ((h room' room' (Nat.le_refl _) x rest).mp hx).1.1

end Room

/-! ### The reader of values -/

section Values

variable {cs rest : List Char} {j : Json}

theorem depth_of_stringBody (h : (do let (s, rest) ← stringBody cs; return (string s, rest)) = some (j, rest)) :
    j.depth = 0 := by
  obtain ⟨_, -, h⟩ := Option.bind_eq_some_iff.mp h
  obtain ⟨rfl, -⟩ := Prod.mk.inj (Option.some.inj h)
  rw [depth]

theorem depth_of_word? {word : String} {value : Json} (hvalue : value.depth = 0)
    (h : word? word value cs = some (j, rest)) : j.depth = 0 := by
  unfold word? at h
  split at h
  · obtain ⟨rfl, -⟩ := Prod.mk.inj (Option.some.inj h)
    exact hvalue
  · cases h

theorem depth_of_number? (h : number? cs = some (j, rest)) : j.depth = 0 := by
  unfold number? at h
  split at h <;>
  · obtain ⟨_, -, h⟩ := Option.bind_eq_some_iff.mp h
    obtain ⟨rfl, -⟩ := Prod.mk.inj (Option.some.inj h)
    rw [depth]

/-- A reader of values without brackets needs no room. -/
theorem Confined.flat {r : Option (Json × List Char)} (h : ∀ {j rest}, r = some (j, rest) → j.depth = 0) :
    Confined (fun room j => j.depth ≤ room) fun _ => r :=
  .const fun _ _ hj room => by
    rw [h hj]
    exact Nat.zero_le room

mutual

/-- The reader rejects what nests too deep for its room, and nothing else. -/
theorem confined_value? : (fuel : Nat) → (cs : List Char) →
    Confined (fun room j => depth j ≤ room) fun room => value? fuel room cs
  | 0, cs => by
    simp only [value?]
    exact .none
  | fuel + 1, cs => by
    simp only [value?]
    split
    · exact .none
    · exact .flat depth_of_stringBody
    · refine .inside ?_
      split
      · exact .const (by simp [depth, depthOfItems])
      · refine .pair (fun j js => array (j :: js)) (confined_value? fuel _) (confined_items? fuel) ?_
        simp only [depth, depthOfItems]
        omega
    · refine .inside ?_
      split
      · exact .const (by simp [depth, depthOfMembers])
      · refine .pair (fun m ms => object (m :: ms)) (confined_member? fuel _) (confined_members? fuel) ?_
        simp only [depth, depthOfMembers]
        omega
    · exact .flat (depth_of_word? (by rw [depth]))
    · exact .flat (depth_of_word? (by rw [depth]))
    · exact .flat (depth_of_word? (by rw [depth]))
    · exact .flat depth_of_number?

theorem confined_items? : (fuel : Nat) → (cs : List Char) →
    Confined (fun room js => depthOfItems js ≤ room) fun room => items? fuel room cs
  | 0, cs => by
    simp only [items?]
    exact .none
  | fuel + 1, cs => by
    simp only [items?]
    split
    · exact .const (by simp [depthOfItems])
    · refine .pair List.cons (confined_value? fuel _) (confined_items? fuel) ?_
      simp only [depthOfItems]
      omega
    · exact .none

theorem confined_member? : (fuel : Nat) → (cs : List Char) →
    Confined (fun room m => depth m.2 ≤ room) fun room => member? fuel room cs
  | 0, cs => by
    simp only [member?]
    exact .none
  | fuel + 1, cs => by
    simp only [member?]
    split
    · cases hkey : stringBody _ with
      | none => exact .none
      | some key =>
        simp only [Option.bind_eq_bind, Option.bind_some]
        split
        · exact .map (key.1, ·) (confined_value? fuel _) fun _ _ => Iff.rfl
        · exact .none
    · exact .none

theorem confined_members? : (fuel : Nat) → (cs : List Char) →
    Confined (fun room ms => depthOfMembers ms ≤ room) fun room => members? fuel room cs
  | 0, cs => by
    simp only [members?]
    exact .none
  | fuel + 1, cs => by
    simp only [members?]
    split
    · exact .const (by simp [depthOfMembers])
    · refine .pair List.cons (confined_member? fuel _) (confined_members? fuel) ?_
      simp only [depthOfMembers]
      omega
    · exact .none

end

end Values

/-! ### The writer of nodes -/

/-- A node that is part of another one, with the number of nodes around it. -/
inductive Inside (m : Node) : Nat → Node → Prop
  | self : Inside m 0 m
  | child {tag text : String} {children : List Node} {c : Node} {k : Nat} : c ∈ children → Inside m k c →
      Inside m (k + 1) (.mk tag text true children)

/-- The error is about a node that nests too deep while its children do not, so many nodes further in. -/
def TooDeep.Locates (e : TooDeep) (n : Node) : Prop :=
  ∃ m, Inside m e.around n ∧ maxDepth < (ofNode m).depth ∧ ∀ c ∈ m.children, (ofNode c).depth ≤ maxDepth

section Nodes

variable {tag text : String} {children : List Node} {n : Node} {style : Style}

theorem depth_ofNode_leaf : (ofNode (.mk tag text false children)).depth = 1 := by
  simp [ofNode, depth, depthOfMembers]

theorem depth_ofNode_group :
    (ofNode (.mk tag text true children)).depth = depthOfItems (ofNodes children) + 2 := by
  simp [ofNode, depth, depthOfMembers]

mutual

theorem encodedDepth_eq_ok_iff : (n : Node) → ∀ {d : Nat},
    encodedDepth n = .ok d ↔ (ofNode n).depth = d ∧ d ≤ maxDepth
  | .mk tag text false children, d => by
    rw [encodedDepth, depth_ofNode_leaf]
    constructor
    · intro h
      obtain rfl := Except.ok.inj h
      exact ⟨rfl, by decide⟩
    · rintro ⟨rfl, -⟩
      rfl
  | .mk tag text true children, d => by
    rw [encodedDepth, depth_ofNode_group]
    cases hinner : encodedDepths children with
    | error e =>
      refine ⟨nofun, fun ⟨hd, hle⟩ => ?_⟩
      have hok := (encodedDepths_eq_ok_iff children).mpr ⟨rfl, by omega⟩
      rw [hinner] at hok
      cases hok
    | ok inner =>
      obtain ⟨rfl, -⟩ := (encodedDepths_eq_ok_iff children).mp hinner
      dsimp only
      split
      · rename_i hle
        rw [Except.ok.injEq]
        exact ⟨fun hd => ⟨hd, hd ▸ hle⟩, And.left⟩
      · rename_i hlt
        exact ⟨nofun, fun ⟨hd, hle⟩ => absurd (hd ▸ hle) hlt⟩

theorem encodedDepths_eq_ok_iff : (ns : List Node) → ∀ {d : Nat},
    encodedDepths ns = .ok d ↔ depthOfItems (ofNodes ns) = d ∧ d ≤ maxDepth
  | [], d => by
    rw [encodedDepths, ofNodes, depthOfItems]
    constructor
    · intro h
      obtain rfl := Except.ok.inj h
      exact ⟨rfl, Nat.zero_le _⟩
    · rintro ⟨rfl, -⟩
      rfl
  | n :: ns, d => by
    rw [encodedDepths, ofNodes, depthOfItems, Except.bind_eq_ok_iff]
    constructor
    · rintro ⟨first, hfirst, h⟩
      obtain ⟨rest, hrest, hd⟩ := Except.bind_eq_ok_iff.mp h
      obtain rfl := Except.pure_eq_ok_iff.mp hd
      obtain ⟨rfl, hfirst⟩ := (encodedDepth_eq_ok_iff n).mp hfirst
      obtain ⟨rfl, hrest⟩ := (encodedDepths_eq_ok_iff ns).mp hrest
      exact ⟨rfl, Nat.max_le.mpr ⟨hfirst, hrest⟩⟩
    · rintro ⟨rfl, hle⟩
      obtain ⟨hfirst, hrest⟩ := Nat.max_le.mp hle
      exact ⟨_, (encodedDepth_eq_ok_iff n).mpr ⟨rfl, hfirst⟩, Except.bind_eq_ok_iff.mpr
        ⟨_, (encodedDepths_eq_ok_iff ns).mpr ⟨rfl, hrest⟩, rfl⟩⟩

end

theorem encodedDepth_of_lt {inner : Nat} (h : encodedDepths children = .ok inner) (hlt : maxDepth < inner + 2) :
    encodedDepth (.mk tag text true children) = .error { around := 0 } := by
  rw [encodedDepth, h]
  exact if_neg (Nat.not_le_of_lt hlt)

theorem depth_le_of_mem {ns : List Node} (h : n ∈ ns) : (ofNode n).depth ≤ depthOfItems (ofNodes ns) := by
  induction ns with
  | nil => cases h
  | cons first ns ih =>
    rw [ofNodes, depthOfItems]
    rcases List.mem_cons.mp h with rfl | h
    · exact Nat.le_max_left _ _
    · exact Nat.le_trans (ih h) (Nat.le_max_right _ _)

theorem locates_of_mem {e : TooDeep} {c : Node} (hc : c ∈ children) (h : e.Locates c) :
    TooDeep.Locates { around := e.around + 1 } (.mk tag text true children) := by
  obtain ⟨m, hm, hdeep⟩ := h
  exact ⟨m, .child hc hm, hdeep⟩

mutual

theorem locates_of_encodedDepth : (n : Node) → ∀ {e : TooDeep}, encodedDepth n = .error e → e.Locates n
  | .mk tag text false children, e, h => by
    rw [encodedDepth] at h
    cases h
  | .mk tag text true children, e, h => by
    rw [encodedDepth] at h
    cases hinner : encodedDepths children with
    | error e' =>
      obtain ⟨c, hc, hlocates⟩ := exists_locates_of_encodedDepths children hinner
      rw [hinner] at h
      obtain rfl := Except.error.inj h
      exact locates_of_mem hc hlocates
    | ok inner =>
      obtain ⟨rfl, hle⟩ := (encodedDepths_eq_ok_iff children).mp hinner
      rw [hinner] at h
      dsimp only at h
      split at h
      · cases h
      · rename_i hlt
        obtain rfl := Except.error.inj h
        refine ⟨_, .self, ?_, fun c hc => Nat.le_trans (depth_le_of_mem hc) hle⟩
        rw [depth_ofNode_group]
        exact Nat.lt_of_not_le hlt

theorem exists_locates_of_encodedDepths : (ns : List Node) → ∀ {e : TooDeep},
    encodedDepths ns = .error e → ∃ c ∈ ns, e.Locates c
  | [], e, h => by
    rw [encodedDepths] at h
    cases h
  | n :: ns, e, h => by
    rw [encodedDepths] at h
    cases hfirst : encodedDepth n with
    | error e' =>
      rw [hfirst] at h
      obtain rfl := Except.error.inj h
      exact ⟨n, List.mem_cons_self, locates_of_encodedDepth n hfirst⟩
    | ok first =>
      rw [hfirst] at h
      cases hrest : encodedDepths ns with
      | error e' =>
        rw [hrest] at h
        obtain rfl := Except.error.inj h
        obtain ⟨c, hc, hlocates⟩ := exists_locates_of_encodedDepths ns hrest
        exact ⟨c, List.mem_cons_of_mem n hc, hlocates⟩
      | ok rest =>
        rw [hrest] at h
        cases h

end

/-- A node is written unless its text nests too deep. -/
theorem encode_of_le (style : Style) (h : (ofNode n).depth ≤ maxDepth) :
    encode style n = .ok (render style (ofNode n)) := by
  rw [encode, (encodedDepth_eq_ok_iff n).mpr ⟨rfl, h⟩]
  rfl

/-- Otherwise the error is about a part of it. -/
theorem exists_encode_of_lt (style : Style) (h : maxDepth < (ofNode n).depth) :
    ∃ e, encode style n = .error e ∧ e.Locates n := by
  cases hn : encodedDepth n with
  | error e =>
    refine ⟨e, ?_, locates_of_encodedDepth n hn⟩
    rw [encode, hn]
    rfl
  | ok d =>
    obtain ⟨rfl, hle⟩ := (encodedDepth_eq_ok_iff n).mp hn
    exact absurd hle (Nat.not_le_of_lt h)

end Nodes

end SqlOutline.Json
