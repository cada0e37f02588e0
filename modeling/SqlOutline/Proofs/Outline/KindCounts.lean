import Mathlib.Algebra.GroupWithZero.Nat
import Mathlib.Data.List.Sort
import SqlOutline.Proofs.Outline.Views

/-!
# Kind counts are exact

The nodes of an outline are counted along a walk, one count for each kind, and the counts are then ranked.
No two counts are of one kind, so the ranking leaves nothing to choose: whatever order the counts come in,
there is one way to rank them.

* `Counts` : what the counts are after some kinds have been counted;
* `Counts.concat`, `counts_tally` : one more kind, and all kinds of an outline;
* `ranksBefore_iff`, `ranked_unique` : the order of the ranks, and that it settles a ranking;
* `length_labels_add` : every node has a label or is structural;
* `kindCounts_of_tally` : the main result.
-/

namespace SqlOutline

namespace Kind

/-- Kinds differ in their numbers. -/
theorem index_inj {k k' : Kind} (h : k.index = k'.index) : k = k' :=
  (List.idxOf_inj (mem_all k)).mp h

end Kind

namespace Outline

/-! ### Counting -/

/-- The kinds that have a count. -/
abbrev countedKinds (counts : List (Kind × Nat)) : List Kind := counts.map (·.1)

theorem countedKinds_countKind (k : Kind) (counts : List (Kind × Nat)) :
    countedKinds (countKind k counts) =
      if k ∈ countedKinds counts then countedKinds counts else countedKinds counts ++ [k] := by
  induction counts with
  | nil => rfl
  | cons c counts ih =>
    obtain ⟨k', n⟩ := c
    by_cases hk : k' = k
    · simp [countKind, hk]
    · have hne : k ≠ k' := fun h => hk h.symm
      rw [countKind, if_neg hk]
      show k' :: countedKinds (countKind k counts) = _
      rw [ih]
      by_cases hmem : k ∈ countedKinds counts
      · simp [hmem]
      · simp [hmem, hne]

/-- One more occurrence leaves the other counts as they are, and adds one to its own or starts it. -/
theorem mem_countKind_iff {counts : List (Kind × Nat)} (h : (countedKinds counts).Nodup) (k k' : Kind)
    (n : Nat) : (k', n) ∈ countKind k counts ↔
      if k' = k then (∃ m, (k, m) ∈ counts ∧ n = m + 1) ∨ k ∉ countedKinds counts ∧ n = 1
      else (k', n) ∈ counts := by
  induction counts with
  | nil => by_cases hk : k' = k <;> simp [countKind, hk]
  | cons c counts ih =>
    obtain ⟨k₀, m₀⟩ := c
    obtain ⟨hnew, hrest⟩ := List.nodup_cons.mp h
    have htail : ∀ m, (k₀, m) ∉ counts := fun m hm => hnew (List.mem_map.mpr ⟨_, hm, rfl⟩)
    by_cases hk₀ : k₀ = k
    · subst hk₀
      by_cases hk : k' = k₀
      · subst hk
        simp [countKind, htail]
      · simp [countKind, hk]
    · have hne : k ≠ k₀ := fun h => hk₀ h.symm
      rw [countKind, if_neg hk₀, List.mem_cons, ih hrest]
      by_cases hk : k' = k
      · subst hk
        simp [hne]
      · simp [hk]

theorem sum_countKind (k : Kind) (counts : List (Kind × Nat)) :
    ((countKind k counts).map (·.2)).sum = (counts.map (·.2)).sum + 1 := by
  induction counts with
  | nil => rfl
  | cons c counts ih =>
    obtain ⟨k', n⟩ := c
    by_cases hk : k' = k
    · simp only [countKind, if_pos hk, List.map_cons, List.sum_cons]
      omega
    · simp only [countKind, if_neg hk, List.map_cons, List.sum_cons, ih]
      omega

/-- The counts of some kinds: each kind that occurs has one count, the number of its occurrences, and the
counts add up to the number of all occurrences. -/
structure Counts (ks : List Kind) (counts : List (Kind × Nat)) : Prop where
  /-- No kind has two counts. -/
  nodup : (countedKinds counts).Nodup
  /-- A kind has a count when it occurs, which says how often. -/
  mem_iff : ∀ k n, (k, n) ∈ counts ↔ k ∈ ks ∧ n = ks.count k
  /-- The counts add up. -/
  sum_eq : (counts.map (·.2)).sum = ks.length

theorem Counts.mem_countedKinds_iff {ks : List Kind} {counts : List (Kind × Nat)} (h : Counts ks counts)
    (k : Kind) : k ∈ countedKinds counts ↔ k ∈ ks := by
  constructor
  · intro hmem
    obtain ⟨⟨k', n⟩, hc, rfl⟩ := List.mem_map.mp hmem
    exact ((h.mem_iff k' n).mp hc).1
  · intro hks
    exact List.mem_map.mpr ⟨(k, ks.count k), (h.mem_iff k _).mpr ⟨hks, rfl⟩, rfl⟩

/-- One more kind is counted. -/
theorem Counts.concat {ks : List Kind} {counts : List (Kind × Nat)} (h : Counts ks counts) (k : Kind) :
    Counts (ks ++ [k]) (countKind k counts) where
  nodup := by
    rw [countedKinds_countKind]
    split
    · exact h.nodup
    · rename_i hnew
      rw [← List.concat_eq_append]
      exact h.nodup.concat hnew
  mem_iff k' n := by
    rw [mem_countKind_iff h.nodup, List.mem_append, List.mem_singleton, List.count_append]
    by_cases hk : k' = k
    · subst hk
      rw [if_pos rfl, List.count_singleton_self]
      constructor
      · rintro (⟨m, hm, rfl⟩ | ⟨hnew, rfl⟩)
        · exact ⟨.inr rfl, by rw [((h.mem_iff k' m).mp hm).2]⟩
        · rw [h.mem_countedKinds_iff] at hnew
          exact ⟨.inr rfl, by rw [List.count_eq_zero_of_not_mem hnew]⟩
      · rintro ⟨-, rfl⟩
        by_cases hold : k' ∈ ks
        · exact .inl ⟨ks.count k', (h.mem_iff k' _).mpr ⟨hold, rfl⟩, rfl⟩
        · exact .inr ⟨mt (h.mem_countedKinds_iff k').mp hold, by rw [List.count_eq_zero_of_not_mem hold]⟩
    · have hother : List.count k' [k] = 0 := List.count_eq_zero_of_not_mem (by simpa using hk)
      rw [if_neg hk, h.mem_iff, hother]
      simp [hk]
  sum_eq := by rw [sum_countKind, h.sum_eq, List.length_append, List.length_singleton]

theorem counts_nil : Counts [] [] := ⟨List.nodup_nil, by simp, rfl⟩

theorem counts_foldl {ks : List Kind} {counts : List (Kind × Nat)} (h : Counts ks counts)
    (ls : List Label) :
    Counts (ks ++ ls.map (·.kind)) (ls.foldl (fun counts l => countKind l.kind counts) counts) := by
  induction ls generalizing ks counts with
  | nil => simpa using h
  | cons l ls ih => simpa using ih (h.concat l.kind)

/-- The tally of an outline counts the kinds of its labels. -/
theorem counts_tally (o : Outline) : Counts (o.labels.map (·.kind)) o.tally := counts_foldl counts_nil o.labels

/-- The occurrences of a kind among the labels are those that a search finds. -/
theorem count_labels (o : Outline) (k : Kind) : (o.labels.map (·.kind)).count k = (o.find k).length := by
  rw [List.count_eq_countP, List.countP_map, List.countP_eq_length_filter]
  rfl

theorem mem_labels_iff (o : Outline) (k : Kind) : k ∈ o.labels.map (·.kind) ↔ o.find k ≠ [] := by
  rw [← List.count_pos_iff, count_labels, List.length_pos_iff]

/-! ### Ranking -/

theorem ranksBefore_iff (a b : Kind × Nat) :
    ranksBefore a b = true ↔ b.2 < a.2 ∨ a.2 = b.2 ∧ a.1.index < b.1.index := by
  unfold ranksBefore
  split <;> simp_all

/-- Counts of different kinds have different ranks. -/
theorem ranksBefore_of_not {a b : Kind × Nat} (hne : a.1 ≠ b.1) (h : ranksBefore b a = false) :
    ranksBefore a b = true := by
  have hindex : a.1.index ≠ b.1.index := mt Kind.index_inj hne
  have hnot : ¬(a.2 < b.2 ∨ b.2 = a.2 ∧ b.1.index < a.1.index) := by
    rw [← ranksBefore_iff]
    simpa using h
  rw [ranksBefore_iff]
  omega

/-- Counts are ranked when none stands behind one that it ranks before. -/
abbrev Ranked (counts : List (Kind × Nat)) : Prop := counts.Pairwise fun a b => ranksBefore b a = false

/-- There is one way to rank some counts. -/
theorem ranked_unique {counts counts' : List (Kind × Nat)} (h : counts.Perm counts')
    (hranked : Ranked counts) (hranked' : Ranked counts') : counts = counts' := by
  -- a sorted permutation is unique once two counts of the same rank are the same count
  refine h.eq_of_pairwise (fun a b _ _ hba hab => ?_) hranked hranked'
  have hkind : a.1 = b.1 := by
    by_contra hne
    rw [ranksBefore_of_not hne hba] at hab
    cases hab
  have hcount : a.2 = b.2 := by
    have hnot : ¬(b.2 < a.2 ∨ a.2 = b.2 ∧ a.1.index < b.1.index) := by
      rw [← ranksBefore_iff]
      simpa using hab
    have hnot' : ¬(a.2 < b.2 ∨ b.2 = a.2 ∧ b.1.index < a.1.index) := by
      rw [← ranksBefore_iff]
      simpa using hba
    omega
  exact Prod.ext hkind hcount

theorem ranked_kindCounts (o : Outline) : Ranked o.kindCounts := by
  have htrans : ∀ a b c : Kind × Nat, (!ranksBefore b a) = true → (!ranksBefore c b) = true →
      (!ranksBefore c a) = true := by
    intro a b c
    simp only [Bool.not_eq_true', ← Bool.not_eq_true, ranksBefore_iff]
    omega
  have htotal : ∀ a b : Kind × Nat, (!ranksBefore b a || !ranksBefore a b) = true := by
    intro a b
    simp only [Bool.or_eq_true, Bool.not_eq_true', ← Bool.not_eq_true, ranksBefore_iff]
    omega
  exact (List.pairwise_mergeSort htrans htotal o.tally).imp fun h => by simpa using h

theorem perm_kindCounts (o : Outline) : o.kindCounts.Perm o.tally := List.mergeSort_perm _ _

/-! ### Nodes with and without a label -/

/-- Every node has a label or is structural. -/
theorem length_labels_add (o : Outline) :
    o.labels.length + (o.nodes.filter (·.isStructural)).length = o.count := by
  have hnodes : o.nodes.length = o.count := by rw [nodes, List.length_map, length_walk]
  have hstructural : o.nodes.countP (fun sub => ¬sub.label.isSome) =
      o.nodes.countP (·.isStructural) := by
    congr 1
    funext sub
    cases hlabel : sub.label <;> simp [isStructural, hlabel]
  rw [← hnodes, labels, List.length_filterMap_eq_countP, ← List.countP_eq_length_filter, ← hstructural]
  exact (List.length_eq_countP_add_countP _).symm

/-! ### The main result -/

/-- **Kind counts are exact.**  In whatever order the counts of the walk are listed, ranking them gives the
kind counts and nothing else.  These go down strictly, by the count and then by the kind, and no kind has two
of them.  A kind has a count exactly when a search for it finds a label, and the count is the number of
labels found.  The counts add up to the number of nodes that are not structural. -/
theorem kindCounts_of_tally (o : Outline) (listed : List (Kind × Nat)) (hlisted : listed.Perm o.tally) :
    (∀ ranked : List (Kind × Nat), ranked.Perm listed ∧
      (ranked.Pairwise fun a b => ranksBefore b a = false) ↔ ranked = o.kindCounts) ∧
    (o.kindCounts.Pairwise fun a b => b.2 < a.2 ∨ a.2 = b.2 ∧ a.1.index < b.1.index) ∧
    (o.kindCounts.map (·.1)).Nodup ∧
    (∀ k n, (k, n) ∈ o.kindCounts ↔ o.find k ≠ [] ∧ n = (o.find k).length) ∧
    (o.kindCounts.map (·.2)).sum + (o.nodes.filter (·.isStructural)).length = o.count := by
  have hcounts := counts_tally o
  have hperm := perm_kindCounts o
  have hranked := ranked_kindCounts o
  have hnodup : (o.kindCounts.map (·.1)).Nodup := (hperm.map _).nodup_iff.mpr hcounts.nodup
  refine ⟨fun ranked => ⟨?_, ?_⟩, ?_, hnodup, fun k n => ?_, ?_⟩
  · rintro ⟨hsame, hpair⟩
    exact ranked_unique ((hsame.trans hlisted).trans hperm.symm) hpair hranked
  · rintro rfl
    exact ⟨hperm.trans hlisted.symm, hranked⟩
  · refine (hranked.and (List.pairwise_map.mp hnodup)).imp fun ⟨hnot, hne⟩ => ?_
    exact (ranksBefore_iff _ _).mp (ranksBefore_of_not hne hnot)
  · rw [hperm.mem_iff, hcounts.mem_iff, mem_labels_iff, count_labels]
  · rw [(hperm.map _).sum_nat, hcounts.sum_eq, List.length_map, length_labels_add]

/-- Two kinds of equal count come in their own order, also when they are listed the other way round. -/
theorem kindCounts_of_tally_tie :
    ∃ o listed, o = node none [node (some ⟨.number, "1"⟩) [], node none [node (some ⟨.name, "a"⟩) []],
        node (some ⟨.string, "'s'"⟩) [], node (some ⟨.name, "b"⟩) []] ∧
      listed = [(.string, 1), (.name, 2), (.number, 1)] ∧ listed.Perm o.tally ∧
      o.kindCounts = [(.name, 2), (.string, 1), (.number, 1)] ∧
      (∀ k n, (k, n) ∈ o.kindCounts ↔ o.find k ≠ [] ∧ n = (o.find k).length) := by
  have hlisted : [(.string, 1), (.name, 2), (.number, 1)].Perm (node none [node (some ⟨.number, "1"⟩) [],
      node none [node (some ⟨.name, "a"⟩) []], node (some ⟨.string, "'s'"⟩) [],
      node (some ⟨.name, "b"⟩) []]).tally := by decide
  have hexact := kindCounts_of_tally _ _ hlisted
  exact ⟨_, _, rfl, rfl, hlisted, ((hexact.1 _).mp ⟨by decide, by decide⟩).symm, hexact.2.2.2.1⟩

end Outline

end SqlOutline
