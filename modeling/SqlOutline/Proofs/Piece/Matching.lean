import SqlOutline.Proofs.Piece.Rules

/-!
# What a pattern matches

The matcher takes the first alternative that fits, repeats as long as it can and never takes anything back.
Whatever it takes is described by the pattern read as a plain description of lists, in which a choice is
either of its alternatives and a repetition is any number of items.

* `Pattern.Matches` : the lists that a pattern describes;
* `matches_of_width?` : what the matcher takes is among them;
* `forall_replaceAll` : what all pieces of a list have in common is kept by a rule, if the pieces that are
  built have it too.
-/

namespace SqlOutline.Pattern

/-- The lists of pieces that a pattern describes. -/
def Matches : Pattern → List Piece → Prop
  | leafOf classes, ps => ∃ p, ps = [p] ∧ p.isLeafOf classes = true
  | groupOf kinds, ps => ∃ p, ps = [p] ∧ ∃ kind ∈ kinds, p.kind? = some kind
  | wordOf words, ps => ∃ p, ps = [p] ∧ p.isLeafOf [.identifier, .reservedWord] = true ∧
      ∃ word ∈ words, Text.foldsTo p.text word = true
  | seq first second, ps => ∃ qs rs, ps = qs ++ rs ∧ first.Matches qs ∧ second.Matches rs
  | either first second, ps => first.Matches ps ∨ second.Matches ps
  | many item, ps => ∃ items : List (List Piece), ps = items.flatten ∧ ∀ qs ∈ items, item.Matches qs
  | optional item, ps => item.Matches ps ∨ ps = []

/-! ### The matcher is sound -/

/-- What repeated steps take, when every step takes a list with a given property. -/
theorem exists_repeatWidth {step : List Piece → Option Nat} {P : List Piece → Prop}
    (hstep : ∀ ps n, step ps = some n → ∃ qs rest, ps = qs ++ rest ∧ qs.length = n ∧ P qs)
    (fuel : Nat) (ps : List Piece) :
    ∃ (items : List (List Piece)) (rest : List Piece), ps = items.flatten ++ rest ∧
      items.flatten.length = repeatWidth step fuel ps ∧ ∀ qs ∈ items, P qs := by
  induction fuel generalizing ps with
  | zero => exact ⟨[], ps, rfl, rfl, by simp⟩
  | succ fuel ih =>
    rw [repeatWidth]
    split
    · rename_i n hn
      obtain ⟨qs, rest, rfl, hlen, hqs⟩ := hstep ps (n + 1) hn
      have hdrop : (qs ++ rest).drop (n + 1) = rest := by rw [← hlen, List.drop_left]
      rw [hdrop]
      obtain ⟨items, rest', hrest, hwidth, hitems⟩ := ih rest
      refine ⟨qs :: items, rest', ?_, ?_, ?_⟩
      · rw [List.flatten_cons, List.append_assoc, ← hrest]
      · rw [List.flatten_cons, List.length_append, hlen, hwidth]
      · simpa using ⟨hqs, hitems⟩
    · exact ⟨[], ps, rfl, rfl, by simp⟩

/-- The pieces that the matcher takes are a list that the pattern describes. -/
theorem matches_of_width? {pattern : Pattern} {ps : List Piece} {n : Nat}
    (h : pattern.width? ps = some n) :
    ∃ qs rest, ps = qs ++ rest ∧ qs.length = n ∧ pattern.Matches qs := by
  induction pattern generalizing ps n with
  | leafOf classes =>
    cases ps with
    | nil => cases h
    | cons p ps =>
      rw [width?] at h
      split at h
      · rename_i hp
        cases h
        exact ⟨[p], ps, rfl, rfl, p, rfl, hp⟩
      · cases h
  | groupOf kinds =>
    cases ps with
    | nil => cases h
    | cons p ps =>
      rw [width?] at h
      split at h
      · rename_i kind hkind
        split at h
        · rename_i hmem
          cases h
          exact ⟨[p], ps, rfl, rfl, p, rfl, kind, by simpa using hmem, hkind⟩
        · cases h
      · cases h
  | wordOf words =>
    cases ps with
    | nil => cases h
    | cons p ps =>
      rw [width?] at h
      split at h
      · rename_i hp
        cases h
        have hword := Bool.and_eq_true_iff.mp hp
        exact ⟨[p], ps, rfl, rfl, p, rfl, hword.1, by simpa using hword.2⟩
      · cases h
  | seq first second ihfirst ihsecond =>
    rw [width?] at h
    obtain ⟨k, hk, hrest⟩ := Option.bind_eq_some_iff.mp h
    obtain ⟨m, hm, hn⟩ := Option.bind_eq_some_iff.mp hrest
    obtain rfl : k + m = n := Option.some.inj hn
    obtain ⟨qs, rest, rfl, rfl, hqs⟩ := ihfirst hk
    rw [List.drop_left] at hm
    obtain ⟨rs, rest', rfl, rfl, hrs⟩ := ihsecond hm
    refine ⟨qs ++ rs, rest', by rw [List.append_assoc], by rw [List.length_append], ?_⟩
    exact ⟨qs, rs, rfl, hqs, hrs⟩
  | either first second ihfirst ihsecond =>
    rw [width?] at h
    split at h
    · rename_i k hk
      cases h
      obtain ⟨qs, rest, hps, hlen, hqs⟩ := ihfirst hk
      exact ⟨qs, rest, hps, hlen, .inl hqs⟩
    · obtain ⟨qs, rest, hps, hlen, hqs⟩ := ihsecond h
      exact ⟨qs, rest, hps, hlen, .inr hqs⟩
  | many item ih =>
    rw [width?] at h
    obtain ⟨items, rest, hps, hlen, hitems⟩ := exists_repeatWidth (fun _ _ hs => ih hs) ps.length ps
    exact ⟨items.flatten, rest, hps, hlen.trans (Option.some.inj h), items, rfl, hitems⟩
  | optional item ih =>
    rw [width?] at h
    split at h
    · rename_i k hk
      cases h
      obtain ⟨qs, rest, hps, hlen, hqs⟩ := ih hk
      exact ⟨qs, rest, hps, hlen, .inl hqs⟩
    · cases h
      exact ⟨[], ps, rfl, rfl, .inr rfl⟩

/-! ### Rules -/

/-- A rule turns pieces of one kind into pieces of another kind, if the pieces that it leaves alone and the
pieces that it builds are of that kind. -/
theorem forall_replaceAll {pattern : Pattern} {build : List Piece → Piece} {P Q : Piece → Prop}
    (hkeep : ∀ p, P p → Q p)
    (hbuild : ∀ ps, pattern.Matches ps → (∀ p ∈ ps, P p) → Q (build ps)) {ps : List Piece}
    (h : ∀ p ∈ ps, P p) : ∀ q ∈ pattern.replaceAll build ps, Q q := by
  fun_induction replaceAll pattern build ps with
  | case1 => simp
  | case2 p ps n hwidth ih =>
    obtain ⟨qs, rest, hps, hlen, hqs⟩ := matches_of_width? hwidth
    have htake : p :: ps.take n = qs := by
      have hlen' : qs.length = n + 1 := hlen
      rw [← List.take_succ_cons, hps, ← hlen', List.take_left]
    intro q hq
    rcases List.mem_cons.mp hq with rfl | hq
    · rw [htake]
      refine hbuild qs hqs fun r hr => h r ?_
      rw [hps]
      exact List.mem_append_left rest hr
    · exact ih (fun r hr => h r (List.mem_cons_of_mem p (List.mem_of_mem_drop hr))) q hq
  | case3 p ps _ ih =>
    rw [List.forall_mem_cons] at h ⊢
    exact ⟨hkeep p h.1, ih h.2⟩

end SqlOutline.Pattern
