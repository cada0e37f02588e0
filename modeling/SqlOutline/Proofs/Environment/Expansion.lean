import Mathlib.Data.List.Chain
import SqlOutline.Environment.Basic
import SqlOutline.Proofs.Text.Cut

/-!
# References to variables, all at once

The references in a text are read from left to right, and every one of them is replaced by the value of the
variable that it names; values are not looked at again.  The program replaces the references in braces first
and looks for the others in what comes out.  The two agree as long as nothing runs into what is put next to
it: a dollar sign into a name, or a name into more of its characters.

* `braced?`, `plain?` : the reference at the front of a text;
* `atoms` : the characters and the references without braces in a text, `parts` : those in braces, too;
* `substitute`, `substituted` : all references of a text replaced at once;
* `fill` : only the references in braces replaced, `Settled` : nothing runs into what comes after it;
* `expandPlain_eq`, `expandBraced_eq` : what the program does, in terms of these;
* `atoms_source_eq_iff` : which atoms are read again from what they are written as;
* `undisturbed_of_apart` : references that are told apart by the text itself;
* `undisturbed_iff` : the main result.
-/

namespace SqlOutline.Environment

/-! ### Reading -/

/-- The name of the reference in braces at the front of a text, and what comes after the reference. -/
def braced? : List Char → Option (List Char × List Char)
  | c :: d :: cs =>
    if c = '$' ∧ d = '\x7b' then
      match cs.takeWhile (· != '\x7d'), cs.dropWhile (· != '\x7d') with
      | n :: name, _ :: rest => some (n :: name, rest)
      | _, _ => none
    else none
  | _ => none

/-- The name of the reference without braces at the front of a text, and what comes after the reference. -/
def plain? : List Char → Option (List Char × List Char)
  | c :: d :: cs =>
    if c = '$' ∧ isNameStart d then some (d :: cs.takeWhile isNameChar, cs.dropWhile isNameChar) else none
  | _ => none

/-- A character that stands for itself, or a reference without braces. -/
inductive Atom where
  | char (c : Char)
  | plain (name : List Char)
deriving DecidableEq, Repr

/-- An atom, or a reference in braces. -/
inductive Part where
  | atom (a : Atom)
  | braced (name : List Char)
deriving DecidableEq, Repr

namespace Atom

/-- An atom as it is written. -/
def source : Atom → List Char
  | char c => [c]
  | plain name => '$' :: name

theorem length_source_pos (a : Atom) : 0 < a.source.length := by
  cases a with
  | char c => exact Nat.one_pos
  | plain name => exact Nat.succ_pos _

/-- What an atom stands for. -/
def value (lookup : List Char → List Char) : Atom → List Char
  | char c => [c]
  | plain name => lookup name

/-- The name of a reference is a name. -/
def Valid : Atom → Prop
  | char _ => True
  | plain [] => False
  | plain (d :: ds) => isNameStart d = true ∧ ∀ c ∈ ds, isNameChar c = true

/-- The text after an atom does not change it: no name starts behind a dollar sign, and no name goes on. -/
def Ends (after : List Char) : Atom → Prop
  | char c => c = '$' → after.head?.any isNameStart = false
  | plain _ => after.head?.any isNameChar = false

instance decidableEnds (after : List Char) : (a : Atom) → Decidable (a.Ends after)
  | char _ => inferInstanceAs (Decidable (_ → _))
  | plain _ => inferInstanceAs (Decidable (_ = _))

end Atom

/-- What a part stands for. -/
def Part.value (braced plain : List Char → List Char) : Part → List Char
  | atom a => a.value plain
  | .braced name => braced name

/-! ### The reference at the front -/

theorem plain?_eq_some_iff {cs name rest : List Char} :
    plain? cs = some (name, rest) ↔
      cs = '$' :: (name ++ rest) ∧ (Atom.plain name).Valid ∧ (Atom.plain name).Ends rest := by
  constructor
  · intro h
    unfold plain? at h
    split at h
    · split at h
      · rename_i c d cs hstart
        obtain ⟨rfl, hd⟩ := hstart
        cases h
        obtain ⟨hcs, hname, hends⟩ := (Text.cut_iff (p := isNameChar)).mp ⟨rfl, rfl⟩
        exact ⟨congrArg _ (congrArg _ hcs), ⟨hd, hname⟩, hends⟩
      · cases h
    · cases h
  · rintro ⟨rfl, hvalid, hends⟩
    cases name with
    | nil => cases hvalid
    | cons d ds =>
      obtain ⟨hd, hds⟩ := hvalid
      obtain ⟨htake, hdrop⟩ := Text.cut_iff.mpr ⟨rfl, hds, hends⟩
      rw [List.cons_append, plain?, if_pos ⟨rfl, hd⟩, htake, hdrop]

theorem cut_brace {name : List Char} (h : '\x7d' ∉ name) (rest : List Char) :
    (name ++ '\x7d' :: rest).takeWhile (· != '\x7d') = name ∧
      (name ++ '\x7d' :: rest).dropWhile (· != '\x7d') = '\x7d' :: rest :=
  Text.cut_iff.mpr ⟨rfl, fun _ hc => bne_iff_ne.mpr fun heq => h (heq ▸ hc), by simp⟩

theorem braced?_eq_some_iff {cs name rest : List Char} :
    braced? cs = some (name, rest) ↔
      cs = '$' :: '\x7b' :: (name ++ '\x7d' :: rest) ∧ name ≠ [] ∧ '\x7d' ∉ name := by
  constructor
  · intro h
    unfold braced? at h
    split at h
    · split at h
      · rename_i c d cs hstart
        obtain ⟨rfl, rfl⟩ := hstart
        split at h
        · rename_i n name' e rest' htake hdrop
          cases h
          obtain ⟨hcs, hname, hends⟩ := Text.cut_iff.mp ⟨htake, hdrop⟩
          obtain rfl : e = '\x7d' := by simpa using hends
          exact ⟨congrArg _ (congrArg _ hcs), List.cons_ne_nil _ _, fun hmem => by simpa using hname _ hmem⟩
        · cases h
      · cases h
    · cases h
  · rintro ⟨rfl, hne, hmem⟩
    obtain ⟨htake, hdrop⟩ := cut_brace hmem rest
    obtain ⟨n, name, rfl⟩ := List.exists_cons_of_ne_nil hne
    rw [braced?, if_pos ⟨rfl, rfl⟩, htake, hdrop]

theorem plain?_eq_none_iff {c : Char} {cs : List Char} :
    plain? (c :: cs) = none ↔ (Atom.char c).Ends cs := by
  cases cs with
  | nil => simp [plain?, Atom.Ends]
  | cons d ds => simp [plain?, Atom.Ends]

/-- The atom at the front of a text, and what comes after it. -/
def nextAtom (c : Char) (cs : List Char) : Atom × List Char :=
  match plain? (c :: cs) with
  | some (name, rest) => (.plain name, rest)
  | none => (.char c, cs)

/-- The part at the front of a text, and what comes after it. -/
def nextPart (c : Char) (cs : List Char) : Part × List Char :=
  match braced? (c :: cs) with
  | some (name, rest) => (.braced name, rest)
  | none => (.atom (nextAtom c cs).1, (nextAtom c cs).2)

/-- An atom is taken exactly as far as it goes. -/
theorem nextAtom_eq_iff {c : Char} {cs rest : List Char} {a : Atom} :
    nextAtom c cs = (a, rest) ↔ c :: cs = a.source ++ rest ∧ a.Valid ∧ a.Ends rest := by
  unfold nextAtom
  cases a with
  | char c' =>
    constructor
    · intro h
      split at h
      · cases h
      · rename_i hnone
        cases h
        exact ⟨rfl, trivial, plain?_eq_none_iff.mp hnone⟩
    · rintro ⟨hsource, -, hends⟩
      obtain ⟨rfl, rfl⟩ := List.cons_eq_cons.mp (hsource.trans List.singleton_append)
      rw [plain?_eq_none_iff.mpr hends]
  | plain name =>
    constructor
    · intro h
      split at h
      · rename_i hsome
        cases h
        exact plain?_eq_some_iff.mp hsome
      · cases h
    · intro h
      rw [plain?_eq_some_iff.mpr h]

theorem length_nextAtom_le (c : Char) (cs : List Char) : (nextAtom c cs).2.length ≤ cs.length := by
  rcases hnext : nextAtom c cs with ⟨a, rest⟩
  have hlen := congrArg List.length (nextAtom_eq_iff.mp hnext).1
  have hpos := a.length_source_pos
  rw [List.length_cons, List.length_append] at hlen
  dsimp only
  omega

theorem nextPart_of_braced {c : Char} {cs name rest : List Char} (h : braced? (c :: cs) = some (name, rest)) :
    nextPart c cs = (.braced name, rest) := by
  rw [nextPart, h]

theorem nextPart_of_none {c : Char} {cs : List Char} (h : braced? (c :: cs) = none) :
    nextPart c cs = (.atom (nextAtom c cs).1, (nextAtom c cs).2) := by
  rw [nextPart, h]

theorem length_nextPart_le (c : Char) (cs : List Char) : (nextPart c cs).2.length ≤ cs.length := by
  cases h : braced? (c :: cs) with
  | none =>
    rw [nextPart_of_none h]
    exact length_nextAtom_le c cs
  | some r =>
    obtain ⟨name, rest⟩ := r
    rw [nextPart_of_braced h]
    have hlen := congrArg List.length (braced?_eq_some_iff.mp h).1
    simp only [List.length_cons, List.length_append] at hlen
    dsimp only
    omega

/-! ### Whole texts -/

/-- The characters and the references without braces in a text. -/
def atoms : List Char → List Atom
  | [] => []
  | c :: cs => (nextAtom c cs).1 :: atoms (nextAtom c cs).2
termination_by cs => cs.length
decreasing_by exact Nat.lt_succ_of_le (length_nextAtom_le c cs)

/-- The characters and the references in a text. -/
def parts : List Char → List Part
  | [] => []
  | c :: cs => (nextPart c cs).1 :: parts (nextPart c cs).2
termination_by cs => cs.length
decreasing_by exact Nat.lt_succ_of_le (length_nextPart_le c cs)

/-- All references in a text are replaced at once. -/
def substitute (braced plain : List Char → List Char) (cs : List Char) : List Char :=
  (parts cs).flatMap (Part.value braced plain)

/-- A text in which every reference is replaced by the value of the variable that it names. -/
def substituted (env : Environment) (text : String) : String :=
  String.ofList (substitute env.chars env.chars text.toList)

/-- The atoms that are left when the references in braces have been replaced. -/
def fill (braced : List Char → List Char) (ps : List Part) : List Atom :=
  ps.flatMap fun
    | .atom a => [a]
    | .braced name => (braced name).map .char

/-- Some atoms as they are written. -/
def source (as : List Atom) : List Char := as.flatMap Atom.source

/-- None of the atoms is changed by what comes after it. -/
def Settled : List Atom → Prop
  | [] => True
  | a :: as => a.Ends (source as) ∧ Settled as

instance decidableSettled : (as : List Atom) → Decidable (Settled as)
  | [] => .isTrue trivial
  | a :: as =>
    have := decidableSettled as
    inferInstanceAs (Decidable (a.Ends (source as) ∧ Settled as))

/-- Once the references in braces are replaced, the other references are what they were. -/
def Undisturbed (env : Environment) (text : String) : Prop := Settled (fill env.chars (parts text.toList))

instance decidableUndisturbed (env : Environment) (text : String) : Decidable (env.Undisturbed text) :=
  decidableSettled (fill env.chars (parts text.toList))

theorem source_cons (a : Atom) (as : List Atom) : source (a :: as) = a.source ++ source as :=
  List.flatMap_cons

theorem atoms_append {a : Atom} {rest : List Char} (hvalid : a.Valid) (hends : a.Ends rest) :
    atoms (a.source ++ rest) = a :: atoms rest := by
  cases hcs : a.source ++ rest with
  | nil => cases a <;> cases hcs
  | cons c cs =>
    rw [atoms, nextAtom_eq_iff.mpr ⟨hcs.symm, hvalid, hends⟩]

/-- An atom is read only where it ends. -/
theorem ends_of_atoms_append {a : Atom} {as : List Atom} {rest : List Char}
    (h : atoms (a.source ++ rest) = a :: as) : a.Ends rest := by
  cases hcs : a.source ++ rest with
  | nil => cases a <;> cases hcs
  | cons c cs =>
    rcases hnext : nextAtom c cs with ⟨b, rest'⟩
    rw [hcs, atoms, hnext] at h
    obtain rfl : b = a := List.head_eq_of_cons_eq h
    obtain ⟨hsource, -, hends⟩ := nextAtom_eq_iff.mp hnext
    obtain rfl : rest' = rest := List.append_cancel_left (hsource.symm.trans hcs.symm)
    exact hends

/-- Atoms are read again from what they are written as when they are settled. -/
theorem atoms_source_eq_iff {as : List Atom} (hvalid : ∀ a ∈ as, a.Valid) :
    atoms (source as) = as ↔ Settled as := by
  induction as with
  | nil =>
    rw [show source [] = [] from rfl, atoms]
    exact iff_of_true rfl trivial
  | cons a as ih =>
    rw [List.forall_mem_cons] at hvalid
    rw [source_cons, Settled, ← ih hvalid.2]
    constructor
    · intro h
      have hends := ends_of_atoms_append h
      rw [atoms_append hvalid.1 hends] at h
      exact ⟨hends, List.tail_eq_of_cons_eq h⟩
    · rintro ⟨hends, has⟩
      rw [atoms_append hvalid.1 hends, has]

/-! ### References without braces -/

variable {lookup : List Char → List Char}

theorem expandPlain_append {a : Atom} {rest : List Char} (hvalid : a.Valid) (hends : a.Ends rest) :
    expandPlain lookup (a.source ++ rest) = a.value lookup ++ expandPlain lookup rest := by
  cases a with
  | char c =>
    rw [Atom.source, Atom.value, List.singleton_append, List.singleton_append]
    cases rest with
    | nil => rw [expandPlain, expandPlain]
    | cons d ds =>
      rw [expandPlain, if_neg]
      rintro ⟨rfl, hd⟩
      have hnone : isNameStart d = false := hends rfl
      rw [hnone] at hd
      cases hd
  | plain name =>
    cases name with
    | nil => cases hvalid
    | cons d ds =>
      obtain ⟨hd, hds⟩ := hvalid
      obtain ⟨htake, hdrop⟩ := Text.cut_iff.mpr ⟨rfl, hds, hends⟩
      rw [Atom.source, List.cons_append, List.cons_append, expandPlain, if_pos ⟨rfl, hd⟩, htake, hdrop,
        Atom.value]

/-- The second pass replaces the references that it finds in its text. -/
theorem expandPlain_eq : (cs : List Char) → expandPlain lookup cs = (atoms cs).flatMap (Atom.value lookup)
  | [] => by rw [expandPlain, atoms, List.flatMap_nil]
  | c :: cs => by
    rcases hnext : nextAtom c cs with ⟨a, rest⟩
    obtain ⟨hsource, hvalid, hends⟩ := nextAtom_eq_iff.mp hnext
    rw [hsource, expandPlain_append hvalid hends, atoms_append hvalid hends, List.flatMap_cons,
      expandPlain_eq rest]
termination_by cs => cs.length
decreasing_by
  have hlen := length_nextAtom_le c cs
  rw [hnext] at hlen
  exact Nat.lt_succ_of_le hlen

/-! ### References in braces -/

theorem expandBraced_of_braced {cs name rest : List Char} (h : braced? cs = some (name, rest)) :
    expandBraced lookup cs = lookup name ++ expandBraced lookup rest := by
  obtain ⟨rfl, hne, hmem⟩ := braced?_eq_some_iff.mp h
  obtain ⟨htake, hdrop⟩ := cut_brace hmem rest
  rw [expandBraced, if_pos ⟨rfl, rfl⟩]
  dsimp only
  split
  · rename_i hnil
    rw [hdrop] at hnil
    cases hnil
  · rename_i after hcons
    rw [hdrop] at hcons
    cases hcons
    rw [htake, if_neg hne]

theorem expandBraced_cons {c : Char} {cs : List Char} (h : braced? (c :: cs) = none) :
    expandBraced lookup (c :: cs) = c :: expandBraced lookup cs := by
  cases cs with
  | nil => rw [expandBraced, expandBraced]
  | cons d ds =>
    rw [expandBraced]
    split
    · rename_i hstart
      obtain ⟨rfl, rfl⟩ := hstart
      dsimp only
      split
      · rfl
      · rename_i e after hcons
        split
        · rfl
        · rename_i hne
          obtain ⟨hds, hname, hends⟩ := (Text.cut_iff (p := (· != '\x7d'))).mp ⟨rfl, hcons⟩
          obtain rfl : e = '\x7d' := by simpa using hends
          have hsome := braced?_eq_some_iff.mpr ⟨congrArg _ (congrArg _ hds), hne, fun hmem => by
            simpa using hname _ hmem⟩
          rw [hsome] at h
          cases h
    · rfl

theorem braced?_of_ne {c : Char} {cs : List Char} (h : c ≠ '$') : braced? (c :: cs) = none := by
  cases cs with
  | nil => rfl
  | cons d ds => rw [braced?, if_neg fun hstart => h hstart.1]

theorem expandBraced_append {name rest : List Char} (h : '$' ∉ name) :
    expandBraced lookup (name ++ rest) = name ++ expandBraced lookup rest := by
  induction name with
  | nil => rfl
  | cons c name ih =>
    rw [List.mem_cons, not_or] at h
    rw [List.cons_append, expandBraced_cons (braced?_of_ne (Ne.symm h.1)), ih h.2, List.cons_append]

theorem dollar_not_mem {name : List Char} (h : (Atom.plain name).Valid) : '$' ∉ name := by
  cases name with
  | nil => cases h
  | cons d ds =>
    obtain ⟨hd, hds⟩ := h
    intro hmem
    cases hmem with
    | head => cases hd
    | tail _ hmem => cases hds _ hmem

theorem fill_nil (braced : List Char → List Char) : fill braced [] = [] := rfl

theorem fill_atom_cons (braced : List Char → List Char) (a : Atom) (ps : List Part) :
    fill braced (.atom a :: ps) = a :: fill braced ps := rfl

theorem fill_braced_cons (braced : List Char → List Char) (name : List Char) (ps : List Part) :
    fill braced (.braced name :: ps) = (braced name).map .char ++ fill braced ps := rfl

theorem source_append (as bs : List Atom) : source (as ++ bs) = source as ++ source bs := List.flatMap_append

theorem source_map_char (cs : List Char) : source (cs.map .char) = cs := by
  rw [source, List.flatMap_map]
  exact List.flatMap_singleton' cs

/-- The first pass replaces the references in braces and leaves the others as they are written. -/
theorem expandBraced_eq : (cs : List Char) → expandBraced lookup cs = source (fill lookup (parts cs))
  | [] => by rw [expandBraced, parts, fill_nil, source, List.flatMap_nil]
  | c :: cs => by
    have hlen := length_nextPart_le c cs
    cases hbraced : braced? (c :: cs) with
    | some r =>
      obtain ⟨name, rest⟩ := r
      have hrest : rest.length ≤ cs.length := by rwa [nextPart_of_braced hbraced] at hlen
      rw [expandBraced_of_braced hbraced, parts, nextPart_of_braced hbraced, fill_braced_cons, source_append,
        source_map_char, expandBraced_eq rest]
    | none =>
      rcases hnext : nextAtom c cs with ⟨a, rest⟩
      obtain ⟨hsource, hvalid, -⟩ := nextAtom_eq_iff.mp hnext
      have hstep : expandBraced lookup (c :: cs) = a.source ++ expandBraced lookup rest := by
        rw [expandBraced_cons hbraced]
        cases a with
        | char c' =>
          obtain ⟨rfl, rfl⟩ := List.cons_eq_cons.mp (hsource.trans List.singleton_append)
          rfl
        | plain name =>
          -- a name has no dollar sign, so this pass copies it
          rw [Atom.source, List.cons_append] at hsource ⊢
          obtain ⟨rfl, rfl⟩ := List.cons_eq_cons.mp hsource
          rw [expandBraced_append (dollar_not_mem hvalid)]
      have hrest : rest.length ≤ cs.length := by rwa [nextPart_of_none hbraced, hnext] at hlen
      rw [hstep, parts, nextPart_of_none hbraced, hnext, fill_atom_cons, source_cons, expandBraced_eq rest]
termination_by cs => cs.length
decreasing_by
  all_goals exact Nat.lt_succ_of_le hrest

/-! ### References that stand apart -/

/-- No reference in braces stands right behind a dollar sign or behind a reference without braces. -/
def Part.Apart : Part → Part → Prop
  | atom (.char c), braced _ => c ≠ '$'
  | atom (.plain _), braced _ => False
  | _, _ => True

theorem Atom.ends_congr {a : Atom} {after after' : List Char} (h : after.head? = after'.head?) :
    a.Ends after ↔ a.Ends after' := by
  cases a with
  | char c => rw [Ends, Ends, h]
  | plain name => rw [Ends, Ends, h]

theorem settled_map_char_append {cs : List Char} {as : List Atom} (h : '$' ∉ cs) (has : Settled as) :
    Settled (cs.map .char ++ as) := by
  induction cs with
  | nil => exact has
  | cons c cs ih =>
    rw [List.mem_cons, not_or] at h
    exact ⟨fun heq => absurd heq.symm h.1, ih h.2⟩

theorem head?_source_fill {braced : List Char → List Char} {cs : List Char}
    (h : ∀ name, (parts cs).head? ≠ some (.braced name)) :
    (source (fill braced (parts cs))).head? = cs.head? := by
  cases cs with
  | nil => rw [parts, fill_nil, source, List.flatMap_nil]
  | cons c cs =>
    rw [parts] at h ⊢
    cases hbraced : braced? (c :: cs) with
    | some r =>
      rw [nextPart_of_braced hbraced] at h
      exact absurd rfl (h _)
    | none =>
      rcases hnext : nextAtom c cs with ⟨a, rest⟩
      rw [nextPart_of_none hbraced, hnext, fill_atom_cons, source_cons, (nextAtom_eq_iff.mp hnext).1]
      cases a <;> rfl

/-- What is put in place of references that stand apart does not run into anything, unless it has dollar signs
of its own. -/
theorem settled_fill {braced : List Char → List Char} : (cs : List Char) →
    (∀ name, .braced name ∈ parts cs → '$' ∉ braced name) → (parts cs).IsChain Part.Apart →
    Settled (fill braced (parts cs))
  | [], _, _ => by
    rw [parts, fill_nil]
    trivial
  | c :: cs, hvalues, hapart => by
    have hlen := length_nextPart_le c cs
    rw [parts] at hvalues hapart ⊢
    rw [List.isChain_cons] at hapart
    cases hbraced : braced? (c :: cs) with
    | some r =>
      obtain ⟨name, rest⟩ := r
      rw [nextPart_of_braced hbraced] at hvalues hapart hlen ⊢
      have hrest : rest.length ≤ cs.length := hlen
      rw [fill_braced_cons]
      exact settled_map_char_append (hvalues name List.mem_cons_self)
        (settled_fill rest (fun n hn => hvalues n (List.mem_cons_of_mem _ hn)) hapart.2)
    | none =>
      rcases hnext : nextAtom c cs with ⟨a, rest⟩
      rw [nextPart_of_none hbraced, hnext] at hvalues hapart hlen ⊢
      have hrest : rest.length ≤ cs.length := hlen
      rw [fill_atom_cons]
      refine ⟨?_, settled_fill rest (fun n hn => hvalues n (List.mem_cons_of_mem _ hn)) hapart.2⟩
      by_cases hhead : ∃ name, (parts rest).head? = some (.braced name)
      · obtain ⟨name, hname⟩ := hhead
        have hbehind := hapart.1 _ hname
        cases a with
        | char c' => exact fun heq => absurd heq hbehind
        | plain name' => cases hbehind
      · rw [Atom.ends_congr (head?_source_fill (not_exists.mp hhead))]
        exact (nextAtom_eq_iff.mp hnext).2.2
termination_by cs => cs.length
decreasing_by
  all_goals exact Nat.lt_succ_of_le hrest

theorem undisturbed_of_apart {env : Environment} {text : String}
    (hvalues : ∀ name, .braced name ∈ parts text.toList → '$' ∉ env.chars name)
    (hapart : (parts text.toList).IsChain Part.Apart) : env.Undisturbed text :=
  settled_fill text.toList hvalues hapart

/-! ### Both passes -/

theorem flatMap_fill (braced plain : List Char → List Char) (ps : List Part) :
    (fill braced ps).flatMap (Atom.value plain) = ps.flatMap (Part.value braced plain) := by
  induction ps with
  | nil => rfl
  | cons p ps ih =>
    cases p with
    | atom a => rw [fill_atom_cons, List.flatMap_cons, List.flatMap_cons, ih, Part.value]
    | braced name =>
      have hchars : ((braced name).map Atom.char).flatMap (Atom.value plain) = braced name := by
        rw [List.flatMap_map]
        exact List.flatMap_singleton' _
      rw [fill_braced_cons, List.flatMap_append, hchars, List.flatMap_cons, ih, Part.value]

theorem valid_of_mem_fill (braced : List Char → List Char) :
    (cs : List Char) → ∀ a ∈ fill braced (parts cs), a.Valid
  | [] => by
    rw [parts, fill_nil]
    exact fun a ha => nomatch ha
  | c :: cs => by
    have hlen := length_nextPart_le c cs
    rw [parts]
    cases hbraced : braced? (c :: cs) with
    | some r =>
      obtain ⟨name, rest⟩ := r
      have hrest : rest.length ≤ cs.length := by rwa [nextPart_of_braced hbraced] at hlen
      rw [nextPart_of_braced hbraced, fill_braced_cons, List.forall_mem_append]
      refine ⟨?_, valid_of_mem_fill braced rest⟩
      simp [Atom.Valid]
    | none =>
      rcases hnext : nextAtom c cs with ⟨a, rest⟩
      have hrest : rest.length ≤ cs.length := by rwa [nextPart_of_none hbraced, hnext] at hlen
      rw [nextPart_of_none hbraced, hnext, fill_atom_cons, List.forall_mem_cons]
      exact ⟨(nextAtom_eq_iff.mp hnext).2.1, valid_of_mem_fill braced rest⟩
termination_by cs => cs.length
decreasing_by
  all_goals exact Nat.lt_succ_of_le hrest

/-- The character that an atom stands for when every value has a single one. -/
def Atom.letter (f : List Char → Char) : Atom → Char
  | char c => c
  | plain name => f name

theorem Atom.eq_of_letter_eq {a b : Atom} (h : ∀ f, a.letter f = b.letter f) : a = b := by
  have hother (c : Char) : (if c = 'a' then 'b' else 'a') ≠ c := by
    split
    · rename_i hc
      rw [hc]
      decide
    · rename_i hc
      exact Ne.symm hc
  cases a with
  | char c =>
    cases b with
    | char c' => exact congrArg _ (h fun _ => c)
    | plain name => exact absurd (h fun _ => if c = 'a' then 'b' else 'a').symm (hother c)
  | plain name =>
    cases b with
    | char c => exact absurd (h fun _ => if c = 'a' then 'b' else 'a') (hother c)
    | plain name' =>
      have hname := h fun m => if m = name then 'a' else 'b'
      simp only [letter, if_true] at hname
      split at hname
      · rename_i heq
        rw [heq]
      · exact absurd hname (by decide)

theorem eq_of_map_letter_eq {as bs : List Atom}
    (h : ∀ f, as.map (Atom.letter f) = bs.map (Atom.letter f)) : as = bs := by
  induction as generalizing bs with
  | nil =>
    have hnil := h fun _ => 'a'
    rw [List.map_nil, eq_comm, List.map_eq_nil_iff] at hnil
    exact hnil.symm
  | cons a as ih =>
    cases bs with
    | nil => cases h fun _ => 'a'
    | cons b bs =>
      simp only [List.map_cons, List.cons.injEq, forall_and] at h
      rw [Atom.eq_of_letter_eq h.1, ih h.2]

/-- Different atoms stand for different texts under some values. -/
theorem eq_of_flatMap_value_eq {as bs : List Atom}
    (h : ∀ lookup, as.flatMap (Atom.value lookup) = bs.flatMap (Atom.value lookup)) : as = bs := by
  -- with values of a single character every atom stands at its own place
  refine eq_of_map_letter_eq fun f => ?_
  have hvalue : (Atom.value fun name => [f name]) = fun a => [a.letter f] := by
    funext a
    cases a <;> rfl
  have hf := h fun name => [f name]
  rwa [hvalue, ← List.map_eq_flatMap, ← List.map_eq_flatMap] at hf

/-- **References are replaced at once unless one is disturbed.**  As long as the values of the references in
braces leave the other references what they are, the two passes put every variable in the place of its
references and change nothing else.  When they do not, the passes come to something else for some values of
the variables that are named without braces. -/
theorem undisturbed_iff (env : Environment) (text : String) :
    (env.Undisturbed text → env.expand text = env.substituted text) ∧
      (env.Undisturbed text ↔ ∀ plain, expandPlain plain (expandBraced env.chars text.toList) =
        substitute env.chars plain text.toList) := by
  have hiff : env.Undisturbed text ↔ ∀ plain, expandPlain plain (expandBraced env.chars text.toList) =
      substitute env.chars plain text.toList := by
    rw [Undisturbed, ← atoms_source_eq_iff (valid_of_mem_fill _ _)]
    simp only [expandPlain_eq, expandBraced_eq, substitute, ← flatMap_fill]
    constructor
    · intro h plain
      rw [h]
    · exact eq_of_flatMap_value_eq
  refine ⟨fun h => ?_, hiff⟩
  rw [expand, substituted, hiff.mp h]

/-- The references stand apart. -/
theorem undisturbed_iff_apart :
    let env : Environment := ⟨[("A", "alpha"), ("B", "beta")]⟩
    env.Undisturbed "$\x7bA\x7d/$B" ∧ env.expand "$\x7bA\x7d/$B" = env.substituted "$\x7bA\x7d/$B" ∧
      env.substituted "$\x7bA\x7d/$B" = "alpha/beta" := by
  intro env
  have hparts : parts "$\x7bA\x7d/$B".toList =
      [.braced ['A'], .atom (.char '/'), .atom (.plain ['B'])] := by decide +kernel
  have hundisturbed : env.Undisturbed "$\x7bA\x7d/$B" := by
    refine undisturbed_of_apart ?_ ?_
    · have hvalue : '$' ∉ env.chars ['A'] := by decide
      rw [hparts]
      simpa using hvalue
    · rw [hparts]
      simp [List.isChain_cons, Part.Apart]
  exact ⟨hundisturbed, (undisturbed_iff env _).1 hundisturbed, by decide +kernel⟩

/-- The name before the braces goes on in the value. -/
example :
    let env : Environment := ⟨[("X", "a"), ("Y", "b")]⟩
    ¬ env.Undisturbed "$X$\x7bY\x7d" ∧ env.expand "$X$\x7bY\x7d" = "" ∧
      env.substituted "$X$\x7bY\x7d" = "ab" := by
  decide +kernel

end SqlOutline.Environment
