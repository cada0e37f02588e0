import SqlOutline.Proofs.Piece.Levels

/-!
# Which names are called

A function call is a name with a parenthesis directly behind it.  Calls are folded level by level, after
`CASE` and before everything else, and none of that hides a name from its parenthesis or takes a call apart.

* `Site.callParen` : the parenthesis of the call that a leaf names;
* `CallsRight` : in a reading, exactly the names before an opening parenthesis are called;
* `callsRight_replaceAll` : folding the calls of a level does it, if it was done in the groups of that level;
* `levelInvariant_calls` : so it is done on every level;
* `callParen_of_parse` : the main result.
-/

namespace SqlOutline

open Piece Pattern Rules

/-- The classes of the names that can be called. -/
def callNames : List LexClass := [.identifier, .quotedIdentifier, .reservedWord]

/-- The token that comes next, if it is an opening parenthesis. -/
def openingParen? (ts : List Token) : Option Token := ts.head?.filter (·.lexClass == .openParen)

namespace Site

/-- The opening parenthesis of a function call, if the leaf is the first member of the call and the second
one is a parenthesis group. -/
def callParen (x : Site) : Option Token :=
  if x.parent = some .function ∧ x.before = [] then
    match x.after with
    | .group .parenthesis _ _ (.leaf o :: _) :: _ => some o
    | _ => none
  else none

/-- The leaf, and the parenthesis of the call that it names. -/
def callView (x : Site) : Token × Option Token := (x.token, x.callParen)

theorem looksAtFirst_callView : LooksAtFirst [.function] callView := by
  intro x hx
  have hnot : ¬ (x.parent = some .function ∧ x.before = []) := by
    rintro ⟨hparent, hbefore⟩
    rcases hx with hx | hx
    · exact hx hbefore
    · exact hx .function List.mem_cons_self hparent
  rw [callView, callParen, if_neg hnot]
  rfl

end Site

open Site

/-! ### Reading from left to right -/

/-- Exactly the names before an opening parenthesis are called, with that parenthesis.  Behind the entries
stand further tokens. -/
def CallsRight (following : List Token) : List (Token × Option Token) → Prop
  | [] => True
  | entry :: entries =>
    (entry.1.lexClass ∈ callNames → entry.2 = openingParen? (entries.map Prod.fst ++ following)) ∧
      CallsRight following entries

theorem callsRight_append (following : List Token) (xs ys : List (Token × Option Token)) :
    CallsRight following (xs ++ ys) ↔
      CallsRight (ys.map Prod.fst ++ following) xs ∧ CallsRight following ys := by
  induction xs with
  | nil => simp [CallsRight]
  | cons x xs ih =>
    rw [List.cons_append, CallsRight, CallsRight, ih, List.map_append, List.append_assoc, and_assoc]

/-! ### Levels -/

/-- A token that is no opening parenthesis, or a group in which all calls are right, whatever stands behind
it.  Of the groups, parentheses begin with an opening parenthesis and others do not. -/
def CallsSettled : Piece → Prop
  | .leaf t => t.lexClass ≠ .openParen
  | .group kind text pos members =>
    (∀ following, CallsRight following ((group kind text pos members).reading callView)) ∧
      ∃ o rest, members = .leaf o :: rest ∧ (o.lexClass = .openParen ↔ kind = .parenthesis)

variable {p : Piece} {ps : List Piece} {following : List Token} {t : Token} {n : Nat}

theorem map_fst_reading (p : Piece) : (p.reading callView).map Prod.fst = p.leaves := by
  rw [reading, List.map_map, ← map_token_sites none [] [] p]
  rfl

theorem map_fst_flatMap (ps : List Piece) : (ps.flatMap (reading callView)).map Prod.fst = leavesOf ps := by
  rw [List.map_flatMap, leavesOf_eq_flatMap]
  simp only [map_fst_reading]

theorem openingParen?_of_group (hp : CallsSettled p) {kind : GroupKind} (hkind : p.kind? = some kind) :
    ∃ o text pos rest, p = .group kind text pos (.leaf o :: rest) ∧
      ∀ ts, openingParen? (p.leaves ++ ts) = if kind = .parenthesis then some o else none := by
  cases p with
  | leaf t => cases hkind
  | group first text pos members =>
    obtain rfl : first = kind := Option.some.inj hkind
    obtain ⟨-, o, rest, rfl, ho⟩ := hp
    refine ⟨o, text, pos, rest, rfl, fun ts => ?_⟩
    by_cases hparen : first = .parenthesis
    · simp [openingParen?, hparen, ho.mpr hparen]
    · have hnot : o.lexClass ≠ .openParen := fun h => hparen (ho.mp h)
      simp [openingParen?, hparen, hnot]

/-- What stands behind a name is an opening parenthesis only if it is a parenthesis group. -/
theorem openingParen?_leavesOf (hps : ∀ p ∈ ps, CallsSettled p) (hfollowing : openingParen? following = none)
    (h : ∀ q qs, ps = q :: qs → q.kind? ≠ some .parenthesis) :
    openingParen? (leavesOf ps ++ following) = none := by
  cases ps with
  | nil => exact hfollowing
  | cons q qs =>
    have hq := hps q List.mem_cons_self
    rw [leavesOf_cons, List.append_assoc]
    cases hkind : q.kind? with
    | some kind =>
      obtain ⟨o, _, _, _, -, hopening⟩ := openingParen?_of_group hq hkind
      have hnot : kind ≠ .parenthesis := by
        rintro rfl
        exact h q qs rfl hkind
      rw [hopening, if_neg hnot]
    | none =>
      cases q with
      | group kind text pos members => cases hkind
      | leaf u =>
        have hu : u.lexClass ≠ .openParen := hq
        simp [openingParen?, hu]

/-- A match is a name and a parenthesis. -/
theorem exists_of_width?_functionCall (h : functionCall.width? (p :: ps) = some (n + 1)) :
    ∃ t a rest, p = .leaf t ∧ t.lexClass ∈ callNames ∧ ps = a :: rest ∧
      a.kind? = some .parenthesis ∧ n = 1 := by
  obtain ⟨qs, rest, hps, hlen, hqs⟩ := matches_of_width? h
  obtain ⟨_, _, rfl, ⟨f, rfl, hf⟩, a, rfl, kind, hkind, ha⟩ := hqs
  obtain ⟨rfl, rfl⟩ : p = f ∧ ps = a :: rest := by simpa using hps
  obtain rfl : kind = .parenthesis := by simpa using hkind
  obtain rfl : n = 1 := by simpa using hlen.symm
  cases p with
  | group kind text pos members => cases hf
  | leaf t =>
    have ht : t.lexClass ∈ callNames := List.contains_iff_mem.mp hf
    exact ⟨t, a, rest, rfl, ht, rfl, ha, rfl⟩

/-- A name and a parenthesis are a match. -/
theorem width?_functionCall (ht : t.lexClass ∈ callNames) (hp : p.kind? = some .parenthesis) :
    functionCall.width? (.leaf t :: p :: ps) = some 2 := by
  have hname : (leafOf callNames).width? (.leaf t :: p :: ps) = some 1 := by
    rw [width?, isLeafOf, if_pos (by simpa using ht)]
  have hparen : (groupOf [.parenthesis]).width? (p :: ps) = some 1 := by
    rw [width?, hp]
    rfl
  show ((leafOf callNames).seq (groupOf [.parenthesis])).width? (.leaf t :: p :: ps) = _
  rw [width?, hname]
  show (do let m ← (groupOf [.parenthesis]).width? (p :: ps); return 1 + m) = some 2
  rw [hparen]
  rfl

/-- Folding the calls of a level makes them right. -/
theorem callsRight_replaceAll (hps : ∀ p ∈ ps, CallsSettled p) (hfollowing : openingParen? following = none) :
    CallsRight following
      ((functionCall.replaceAll (merge .function) ps).flatMap (reading callView)) := by
  fun_induction replaceAll functionCall (merge .function) ps with
  | case1 => trivial
  | case2 p ps n hwidth ih =>
    obtain ⟨t, a, rest, rfl, ht, rfl, ha, rfl⟩ := exists_of_width?_functionCall hwidth
    have hparen : CallsSettled a := hps a (by simp)
    have hrest := ih fun q hq => hps q (by simp [List.mem_of_mem_drop hq])
    obtain ⟨o, text, pos, members, rfl, hopening⟩ := openingParen?_of_group hparen ha
    have hcall : (merge .function [.leaf t, .group .parenthesis text pos (.leaf o :: members)]).reading
        callView = (t, some o) :: (group .parenthesis text pos (.leaf o :: members)).reading callView := by
      show (ofMembers .function [.leaf t, .group .parenthesis text pos (.leaf o :: members)]).reading
        callView = _
      rw [ofMembers, looksAtFirst_callView.reading_first, List.flatMap_singleton]
      rfl
    show CallsRight following ((merge _ [_, _] :: functionCall.replaceAll _ rest).flatMap _)
    rw [List.flatMap_cons, callsRight_append, hcall]
    refine ⟨⟨fun _ => ?_, hparen.1 _⟩, hrest⟩
    rw [map_fst_reading, hopening, if_pos rfl]
  | case3 p ps hnot ih =>
    rw [List.forall_mem_cons] at hps
    have hrest := ih hps.2
    have htokens : (((functionCall.replaceAll (merge .function) ps).flatMap (reading callView)).map Prod.fst)
        = leavesOf ps := by
      rw [map_fst_flatMap, leavesOf_eq_flatMap, flatMap_replaceAll (seesThrough_leaves _),
        leavesOf_eq_flatMap]
    rw [List.flatMap_cons, callsRight_append, htokens]
    refine ⟨?_, hrest⟩
    cases p with
    | group kind text pos members => exact hps.1.1 _
    | leaf t =>
      rw [reading_leaf]
      refine ⟨fun ht => ?_, trivial⟩
      have hnone : openingParen? (leavesOf ps ++ following) = none := by
        refine openingParen?_leavesOf hps.2 hfollowing ?_
        -- a parenthesis right behind the name would have been a match
        rintro q qs rfl hkind
        exact hnot 1 (width?_functionCall ht hkind)
      rw [List.map_nil, List.nil_append, hnone]
      rfl

/-- Brackets around a level settle it. -/
theorem callsSettled_bracket {kind : GroupKind} {o c : Token} {inner : List Piece} (hkind : kind ≠ .function)
    (ho : o.lexClass ∉ callNames) (hopen : o.lexClass = .openParen ↔ kind = .parenthesis)
    (hc : c.lexClass ∉ callNames) (hclose : c.lexClass ≠ .openParen)
    (hinner : ∀ following, openingParen? following = none →
      CallsRight following (inner.flatMap (reading callView))) :
    CallsSettled (ofMembers kind (.leaf o :: inner ++ [.leaf c])) := by
  refine ⟨fun following => ?_, o, _, rfl, hopen⟩
  have hreading : (ofMembers kind (.leaf o :: inner ++ [.leaf c])).reading callView =
      (o, none) :: (inner.flatMap (reading callView) ++ [(c, none)]) := by
    rw [looksAtFirst_callView.reading_bracket]
    simp [callView, callParen, hkind]
  have hend : openingParen? (c :: following) = none := by simp [openingParen?, hclose]
  show CallsRight following ((ofMembers _ _).reading _)
  rw [hreading, CallsRight, callsRight_append]
  exact ⟨fun hname => absurd hname ho, hinner _ hend, fun hname => absurd hname hc, trivial⟩

theorem levelInvariant_calls :
    LevelInvariant CallsSettled fun ps => ∀ following, openingParen? following = none →
      CallsRight following (ps.flatMap (reading callView)) where
  leaf ho _ _ := ho
  rules h following hfollowing := by
    have hmarked := forall_markWildcardsFrom (P := CallsSettled) (fun _ _ _ => LexClass.noConfusion) h none
    rw [flatMap_applyRules fun kind hkind => looksAtFirst_callView.seesThrough_reading ?_]
    · exact callsRight_replaceAll hmarked hfollowing
    · rintro hfunction
      obtain rfl := List.mem_singleton.mp hfunction
      simp at hkind
  caseExpression hc he hbody :=
    callsSettled_bracket (by decide) (by simp [hc, callNames]) (by simp [hc]) (by simp [he, callNames])
      (by simp [he]) hbody
  parenthesis ho hc hinner :=
    callsSettled_bracket (by decide) (by simp [ho, callNames]) (by simp [ho]) (by simp [hc, callNames])
      (by simp [hc]) hinner

namespace Statement

/-- **A name is called exactly if a parenthesis is next to it.**  Take a name anywhere in a statement of a
text.  If the leaf behind it is an opening parenthesis, the name is the first member of a function call and
the parenthesis group that this leaf opens is the second one; otherwise it is in no such place. -/
theorem callParen_of_parse (sql : String) (statements : List Statement) (h : parse sql = .ok statements) :
    ∀ s ∈ statements, ∀ before x after, s.sites = before ++ x :: after → x.token.lexClass ∈ callNames →
      x.callParen = openingParen? (after.map (·.token)) := by
  intro s hs before x after hsites hname
  have hright := levelInvariant_calls.of_parse h s hs [] rfl
  rw [← map_sites looksAtFirst_callView, hsites, List.map_append, callsRight_append, List.map_cons,
    CallsRight] at hright
  have hcall := hright.2.1 hname
  rw [List.map_map, List.append_nil] at hcall
  exact hcall

theorem callParen_of_parse_nested :
    ∃ statements,
      parse "select s.f(a) x, g (b), case when h(k('1')) then i end + count(*) from t where \"m\"(1) = j" =
        .ok statements ∧
      statements.map (fun s => (s.sites.filter (·.callParen.isSome)).map (·.token.text)) =
        [["f", "h", "k", "count", "\"m\""]] ∧
      ∀ s ∈ statements, ∀ before x after, s.sites = before ++ x :: after → x.token.lexClass ∈ callNames →
        x.callParen = openingParen? (after.map (·.token)) := by
  have hcalls : (parse
      "select s.f(a) x, g (b), case when h(k('1')) then i end + count(*) from t where \"m\"(1) = j").toOption.map
      (·.map fun s => (s.sites.filter (·.callParen.isSome)).map (·.token.text)) =
        some [["f", "h", "k", "count", "\"m\""]] := by
    decide +kernel
  cases hparse : parse
      "select s.f(a) x, g (b), case when h(k('1')) then i end + count(*) from t where \"m\"(1) = j" with
  | error e =>
    rw [hparse] at hcalls
    cases hcalls
  | ok statements =>
    rw [hparse] at hcalls
    exact ⟨statements, rfl, Option.some.inj hcalls, callParen_of_parse _ statements hparse⟩

end Statement

end SqlOutline
