/-!
# Types of filter values

* `Filter.Ty` : the types; `dyn` is the type of values that are only known when they are computed;
* `Filter.Unifier` : what has been found out about type variables;
* `Filter.Unifier.fit?` : makes one type fit another;
* `Filter.Overload`, `Filter.Unifier.call?` : the ways to call a function, and the type of a call.
-/

namespace SqlOutline.Filter

/-- The type of a value. -/
inductive Ty where
  | null | bool | int | uint | double | string | bytes
  /-- The type of types. -/
  | type
  | list (item : Ty)
  | map (key value : Ty)
  /-- Any type. -/
  | dyn
  /-- A type that is not known yet. -/
  | var (n : Nat)
deriving DecidableEq, Repr

namespace Ty

/-- How deep lists and maps are nested in a type. -/
def depth : Ty → Nat
  | list t => t.depth + 1
  | map k v => max k.depth v.depth + 1
  | _ => 0

/-- A type with its variables renumbered from `n` on. -/
def shift (n : Nat) : Ty → Ty
  | list t => list (t.shift n)
  | map k v => map (k.shift n) (v.shift n)
  | var m => var (n + m)
  | t => t

/-- Whether the first type says no more than the second. -/
def isVaguer : Ty → Ty → Bool
  | dyn, _ => true
  | var _, _ => true
  | list a, list b => isVaguer a b
  | map k v, map l w => isVaguer k l && isVaguer v w
  | a, b => a == b

/-- The vaguer one of two types. -/
def vaguer (a b : Ty) : Ty := if a.isVaguer b then a else b

end Ty

/-- What has been found out about type variables. -/
structure Unifier where
  /-- The number of the next variable. -/
  next : Nat := 0
  /-- The types of variables, the last finding first. -/
  found : List (Nat × Ty) := []
deriving Repr

namespace Unifier

/-- The number of steps after which all variables of a type of the given depth have been followed. -/
def fuel (u : Unifier) (depth : Nat) : Nat :=
  u.found.foldl (fun n f => n + f.2.depth + 2) (2 * depth + 2)

/-- A new variable. -/
def fresh (u : Unifier) : Ty × Unifier := (.var u.next, { u with next := u.next + 1 })

/-- A type with all that is known of its variables. -/
def resolveIn (u : Unifier) : (fuel : Nat) → Ty → Ty
  | 0, t => t
  | fuel + 1, .var n =>
    match u.found.lookup n with
    | some t => u.resolveIn fuel t
    | none => .var n
  | fuel + 1, .list t => .list (u.resolveIn fuel t)
  | fuel + 1, .map k v => .map (u.resolveIn fuel k) (u.resolveIn fuel v)
  | _, t => t

/-- A type with all that is known of its variables. -/
def resolve (u : Unifier) (t : Ty) : Ty := u.resolveIn (u.fuel t.depth) t

/-- Whether a variable occurs in a type. -/
def occurs (u : Unifier) (n : Nat) : (fuel : Nat) → Ty → Bool
  | 0, _ => false
  | fuel + 1, .var m => m == n || (u.found.lookup m).any (u.occurs n fuel)
  | fuel + 1, .list t => u.occurs n fuel t
  | fuel + 1, .map k v => u.occurs n fuel k || u.occurs n fuel v
  | _, _ => false

/-- Finds out the type of a variable, unless the variable is part of the type. -/
def learn? (u : Unifier) (n : Nat) (t : Ty) : Option Unifier :=
  if u.occurs n (u.fuel t.depth) t then none else some { u with found := (n, t) :: u.found }

/-- Makes a type fit another one.  Where a variable has a type already, it gets the vaguer one of the two. -/
def fitIn? : (fuel : Nat) → Ty → Ty → Unifier → Option Unifier
  | 0, _, _, _ => none
  | fuel + 1, a, b, u =>
    let extend := fun (t : Ty) (n : Nat) (known : Ty) =>
      if t = known then some u
      else (fitIn? fuel t known u).map fun u => (u.learn? n (t.vaguer known)).getD u
    match a, b with
    | a, .var n =>
      if a = .var n then some u
      else
        match u.found.lookup n, a with
        | some known, _ => extend a n known
        | none, .var m =>
          (u.learn? n a).or
            (match u.found.lookup m with
              | some known => extend b m known
              | none => u.learn? m b)
        | none, _ => u.learn? n a
    | .var n, b =>
      match u.found.lookup n with
      | some known => extend b n known
      | none => u.learn? n b
    | .dyn, _ => some u
    | _, .dyn => some u
    | .list a, .list b => fitIn? fuel a b u
    | .map k v, .map l w => (fitIn? fuel k l u).bind (fitIn? fuel v w)
    | a, b => if a = b then some u else none

/-- Makes a type fit another one. -/
def fit? (a b : Ty) (u : Unifier) : Option Unifier := fitIn? (u.fuel (a.depth + b.depth)) a b u

/-- Makes types fit others, one by one. -/
def fitAll? : List Ty → List Ty → Unifier → Option Unifier
  | [], [], u => some u
  | a :: as, b :: bs, u => (fit? a b u).bind (fitAll? as bs)
  | _, _, _ => none

/-- The type of values that may be of either of two types. -/
def join (a b : Ty) (u : Unifier) : Ty × Unifier :=
  match fit? a b u with
  | some u => (a.vaguer b, u)
  | none => (.dyn, u)

end Unifier

/-! ### Calls -/

/-- A way to call a function.  The variables `0` and `1` stand for any types. -/
structure Overload where
  /-- The types of the arguments. -/
  arguments : List Ty
  /-- The type of the result. -/
  result : Ty
deriving Repr

/-- The type of a call: that of the overloads that the arguments fit, or any type if these disagree. -/
def Unifier.call? (overloads : List Overload) (arguments : List Ty) (u : Unifier) : Option (Ty × Unifier) :=
  let step := fun (found : Option Ty × Unifier) (o : Overload) =>
    let u := { found.2 with next := found.2.next + 2 }
    match Unifier.fitAll? arguments (o.arguments.map (·.shift found.2.next)) u with
    | none => (found.1, u)
    | some u =>
      let t := u.resolve (o.result.shift found.2.next)
      (some (match found.1 with
        | none => t
        | some r => if r = t then r else .dyn), u)
  match overloads.foldl step (none, u) with
  | (some t, u) => some (t, u)
  | (none, _) => none

end SqlOutline.Filter
