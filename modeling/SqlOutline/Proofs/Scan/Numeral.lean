import SqlOutline.Token.Scan

/-!
# The parts of a numeric literal

The scanner measures a numeric literal in three steps: whole digits, a fraction, an exponent.  This file
says which texts these parts are and what may follow them.

* `run_append_eq_length_iff` : a run of a class ends exactly where the class does;
* `IsFraction`, `IsExponent`, `Numeral` : the three parts as texts;
* `NumeralEnd` : what a text must not start with for the literal before it to end there;
* `numberLength_append_iff` : the scanner takes exactly a numeral, and takes it exactly as far as that.
-/

namespace SqlOutline.Scan

/-! ### Runs of characters -/

@[simp] theorem startsWith_nil (p : Char → Bool) : startsWith p [] = false := rfl

@[simp] theorem startsWith_cons (p : Char → Bool) (c : Char) (cs : List Char) :
    startsWith p (c :: cs) = p c := rfl

@[simp] theorem run_nil (p : Char → Bool) : run p [] = 0 := rfl

theorem run_cons (p : Char → Bool) (c : Char) (cs : List Char) :
    run p (c :: cs) = if p c then run p cs + 1 else 0 := by
  unfold run
  rw [List.takeWhile_cons]
  split <;> rfl

/-- A run over a slice ends with the slice exactly when the slice lies in the class and the text after it
starts outside. -/
theorem run_append_eq_length_iff (p : Char → Bool) (s r : List Char) :
    run p (s ++ r) = s.length ↔ (∀ c ∈ s, p c = true) ∧ startsWith p r = false := by
  induction s with
  | nil =>
    cases r with
    | nil => simp
    | cons c r => by_cases hc : p c = true <;> simp [run_cons, hc]
  | cons c s ih =>
    rw [List.cons_append, run_cons]
    by_cases hc : p c = true
    · simp [hc, ih]
    · simp [hc]

/-- Every text is a run of the class and a rest that starts outside of it. -/
theorem exists_run (p : Char → Bool) (cs : List Char) :
    ∃ s r, cs = s ++ r ∧ run p cs = s.length ∧ (∀ c ∈ s, p c = true) ∧ startsWith p r = false := by
  have hsplit : cs.takeWhile p ++ cs.dropWhile p = cs := List.takeWhile_append_dropWhile
  have hrun : run p (cs.takeWhile p ++ cs.dropWhile p) = (cs.takeWhile p).length := by
    rw [hsplit]
    rfl
  refine ⟨cs.takeWhile p, cs.dropWhile p, hsplit.symm, rfl, ?_⟩
  exact (run_append_eq_length_iff p _ _).mp hrun

/-! ### Fractions and exponents -/

/-- The letters that introduce an exponent. -/
def isExponentMark (c : Char) : Bool := c == 'e' || c == 'E'

/-- The signs of an exponent. -/
def isSign (c : Char) : Bool := c == '+' || c == '-'

/-- A fraction: nothing, or a point and digits. -/
inductive IsFraction : List Char → Prop
  | absent : IsFraction []
  | present {ds : List Char} : ds ≠ [] → (∀ c ∈ ds, c.isDigit = true) → IsFraction ('.' :: ds)

/-- An exponent: nothing, or a mark, at most one sign, and digits. -/
inductive IsExponent : List Char → Prop
  | absent : IsExponent []
  | present {m : Char} {sign ds : List Char} : isExponentMark m = true →
      (sign = [] ∨ ∃ c, isSign c = true ∧ sign = [c]) → ds ≠ [] → (∀ c ∈ ds, c.isDigit = true) →
      IsExponent (m :: (sign ++ ds))

/-- The whole digits, the fraction and the exponent of a numeric literal. -/
structure Numeral (d f e : List Char) : Prop where
  whole : ∀ c ∈ d, c.isDigit = true
  fraction : IsFraction f
  exponent : IsExponent e

/-- What follows a numeral with the given fraction and exponent does not belong to it. -/
structure NumeralEnd (f e r : List Char) : Prop where
  digit : startsWith Char.isDigit r = false
  mark : e = [] → startsWith isExponentMark r = false
  point : f = [] → e = [] → fractionLength r = 0

theorem NumeralEnd.nil (f e : List Char) : NumeralEnd f e [] :=
  ⟨rfl, fun _ => rfl, fun _ _ => rfl⟩

theorem fractionLength_of_not_point {cs : List Char} (h : startsWith (· == '.') cs = false) :
    fractionLength cs = 0 := by
  cases cs with
  | nil => rfl
  | cons c cs =>
    have hc : c ≠ '.' := by simpa using h
    unfold fractionLength
    split
    · rename_i heq
      exact absurd (List.cons.inj heq).1 hc
    · rfl

theorem fractionLength_point (cs : List Char) :
    fractionLength ('.' :: cs)
      = if startsWith Char.isDigit cs then 1 + run Char.isDigit cs else 0 := rfl

/-- Every text is a fraction and a rest that does not extend it. -/
theorem exists_fraction (cs : List Char) :
    ∃ f r, cs = f ++ r ∧ fractionLength cs = f.length ∧ IsFraction f ∧
      (f ≠ [] → startsWith Char.isDigit r = false) ∧ (f = [] → fractionLength r = 0) := by
  by_cases hpos : fractionLength cs = 0
  · exact ⟨[], cs, rfl, hpos, .absent, fun h => absurd rfl h, fun _ => hpos⟩
  · cases hp : startsWith (· == '.') cs with
    | false => exact absurd (fractionLength_of_not_point hp) hpos
    | true =>
      cases cs with
      | nil => simp at hp
      | cons c cs =>
        have hc : c = '.' := by simpa using hp
        subst hc
        rw [fractionLength_point] at hpos ⊢
        cases hd : startsWith Char.isDigit cs with
        | false => simp [hd] at hpos
        | true =>
          obtain ⟨s, r, rfl, hrun, hs, hr⟩ := exists_run Char.isDigit cs
          have hne : s ≠ [] := by
            rintro rfl
            rw [List.nil_append, hr] at hd
            cases hd
          refine ⟨'.' :: s, r, rfl, ?_, .present hne hs, fun _ => hr, fun h => by cases h⟩
          rw [if_pos rfl, hrun, List.length_cons]
          omega

theorem exponentLength_of_not_mark {cs : List Char} (h : startsWith isExponentMark cs = false) :
    exponentLength cs = some 0 := by
  cases cs with
  | nil => rfl
  | cons c cs =>
    have hc : ¬ (c = 'e' ∨ c = 'E') := by simpa [isExponentMark] using h
    rw [exponentLength, if_neg hc]

theorem exponentLength_mark {m : Char} (hm : isExponentMark m = true) (cs : List Char) :
    exponentLength (m :: cs)
      = match run Char.isDigit (cs.drop (if startsWith isSign cs then 1 else 0)) with
        | 0 => none
        | digits => some (1 + (if startsWith isSign cs then 1 else 0) + digits) := by
  have hm' : m = 'e' ∨ m = 'E' := by simpa [isExponentMark] using hm
  rw [exponentLength, if_pos hm']
  rfl

/-- Every text is an optional sign and a rest. -/
theorem exists_sign (cs : List Char) :
    ∃ sign r, cs = sign ++ r ∧ (if startsWith isSign cs then 1 else 0) = sign.length ∧
      (sign = [] ∨ ∃ c, isSign c = true ∧ sign = [c]) := by
  cases hs : startsWith isSign cs with
  | false => exact ⟨[], cs, rfl, rfl, .inl rfl⟩
  | true =>
    cases cs with
    | nil => simp at hs
    | cons c cs => exact ⟨[c], cs, rfl, rfl, .inr ⟨c, hs, rfl⟩⟩

/-- A measured exponent is an exponent, and what follows does not extend it. -/
theorem exists_exponent {cs : List Char} {n : Nat} (h : exponentLength cs = some n) :
    ∃ e r, cs = e ++ r ∧ n = e.length ∧ IsExponent e ∧
      (e ≠ [] → startsWith Char.isDigit r = false) ∧
      (e = [] → startsWith isExponentMark r = false) := by
  cases hm : startsWith isExponentMark cs with
  | false =>
    rw [exponentLength_of_not_mark hm] at h
    have hn : 0 = n := by simpa using h
    exact ⟨[], cs, rfl, hn.symm, .absent, fun h => absurd rfl h, fun _ => hm⟩
  | true =>
    cases cs with
    | nil => simp at hm
    | cons m cs =>
      rw [startsWith_cons] at hm
      obtain ⟨sign, t, rfl, hlen, hsign⟩ := exists_sign cs
      rw [exponentLength_mark hm, hlen, List.drop_left] at h
      obtain ⟨ds, r, rfl, hrun, hds, hr⟩ := exists_run Char.isDigit t
      rw [hrun] at h
      cases ds with
      | nil => simp at h
      | cons d ds =>
        have hn : 1 + sign.length + (d :: ds).length = n := by simpa using h
        refine ⟨m :: (sign ++ d :: ds), r, by simp, ?_, .present hm hsign (by simp) hds,
          fun _ => hr, fun h => by cases h⟩
        rw [← hn]
        simp only [List.length_cons, List.length_append]
        omega

/-! ### The length of a numeral -/

theorem IsFraction.fractionLength_append {f r : List Char} (hf : IsFraction f)
    (hr : f ≠ [] → startsWith Char.isDigit r = false) (h0 : f = [] → fractionLength r = 0) :
    fractionLength (f ++ r) = f.length := by
  cases hf with
  | absent => simpa using h0 rfl
  | @present ds hne hds =>
    have hrun : run Char.isDigit (ds ++ r) = ds.length :=
      (run_append_eq_length_iff _ _ _).mpr ⟨hds, hr (by simp)⟩
    cases ds with
    | nil => exact absurd rfl hne
    | cons d ds =>
      have hd : startsWith Char.isDigit (d :: ds ++ r) = true := hds d (by simp)
      rw [List.cons_append, fractionLength_point, if_pos hd, hrun]
      simp only [List.length_cons]
      omega

theorem IsExponent.exponentLength_append {e r : List Char} (he : IsExponent e)
    (hr : e ≠ [] → startsWith Char.isDigit r = false)
    (h0 : e = [] → startsWith isExponentMark r = false) :
    exponentLength (e ++ r) = some e.length := by
  cases he with
  | absent => simpa using exponentLength_of_not_mark (h0 rfl)
  | @present m sign ds hm hsign hne hds =>
    have hrun : run Char.isDigit (ds ++ r) = ds.length :=
      (run_append_eq_length_iff _ _ _).mpr ⟨hds, hr (by simp)⟩
    obtain ⟨d, ds', rfl⟩ := List.exists_cons_of_ne_nil hne
    have hd : d.isDigit = true := hds d (by simp)
    have hlen : (if startsWith isSign (sign ++ (d :: ds' ++ r)) then 1 else 0) = sign.length := by
      rcases hsign with rfl | ⟨c, hc, rfl⟩
      · have hnot : isSign d = false := by
          cases hd' : isSign d with
          | false => rfl
          | true =>
            have : d = '+' ∨ d = '-' := by simpa [isSign] using hd'
            rcases this with rfl | rfl <;> exact absurd hd (by decide)
        simp [hnot]
      · simp [hc]
    rw [show m :: (sign ++ d :: ds') ++ r = m :: (sign ++ (d :: ds' ++ r)) by simp,
      exponentLength_mark hm, hlen, List.drop_left, hrun]
    simp only [List.length_cons, List.length_append]
    rw [show 1 + sign.length + (ds'.length + 1) = sign.length + (ds'.length + 1) + 1 by omega]

theorem IsExponent.fractionLength_eq_zero {e : List Char} (he : IsExponent e) (hne : e ≠ [])
    (r : List Char) : fractionLength (e ++ r) = 0 := by
  apply fractionLength_of_not_point
  cases he with
  | absent => exact absurd rfl hne
  | @present m sign ds hm _ _ _ =>
    have hm' : m = 'e' ∨ m = 'E' := by simpa [isExponentMark] using hm
    rcases hm' with rfl | rfl <;> rfl

theorem IsExponent.not_startsWith_digit {e : List Char} (he : IsExponent e) (hne : e ≠ [])
    (r : List Char) : startsWith Char.isDigit (e ++ r) = false := by
  cases he with
  | absent => exact absurd rfl hne
  | @present m sign ds hm _ _ _ =>
    have hm' : m = 'e' ∨ m = 'E' := by simpa [isExponentMark] using hm
    rcases hm' with rfl | rfl <;> rfl

theorem IsFraction.not_startsWith_digit {f : List Char} (hf : IsFraction f) (hne : f ≠ [])
    (r : List Char) : startsWith Char.isDigit (f ++ r) = false := by
  cases hf with
  | absent => exact absurd rfl hne
  | present _ _ => rfl

theorem Numeral.numberLength_append {d f e r : List Char} (h : Numeral d f e)
    (hr : NumeralEnd f e r) :
    numberLength (d ++ f ++ e ++ r) = some (d ++ f ++ e).length := by
  -- each part ends where the next one, or the rest, begins
  have hafter : startsWith Char.isDigit (e ++ r) = false := by
    by_cases he : e = []
    · rw [he]
      exact hr.digit
    · exact h.exponent.not_startsWith_digit he r
  have hwhole : run Char.isDigit (d ++ (f ++ (e ++ r))) = d.length := by
    refine (run_append_eq_length_iff _ _ _).mpr ⟨h.whole, ?_⟩
    by_cases hf : f = []
    · rw [hf]
      exact hafter
    · exact h.fraction.not_startsWith_digit hf _
  have hfrac : fractionLength (f ++ (e ++ r)) = f.length := by
    refine h.fraction.fractionLength_append (fun _ => hafter) fun hf => ?_
    by_cases he : e = []
    · rw [he]
      exact hr.point hf he
    · exact h.exponent.fractionLength_eq_zero he r
  have hexp : exponentLength (e ++ r) = some e.length :=
    h.exponent.exponentLength_append (fun _ => hr.digit) hr.mark
  rw [List.append_assoc, List.append_assoc]
  unfold numberLength
  simp only [hwhole, List.drop_left, hfrac]
  rw [← List.append_assoc d f, ← List.length_append, List.drop_left, hexp]
  simp only [Option.map_some, List.length_append]

/-- A measured literal is a numeral, and what follows does not belong to it. -/
theorem exists_numeral {cs : List Char} {n : Nat} (h : numberLength cs = some n) :
    ∃ d f e r, cs = d ++ f ++ e ++ r ∧ n = (d ++ f ++ e).length ∧ Numeral d f e ∧
      NumeralEnd f e r := by
  obtain ⟨d, x, rfl, hrun, hd, hx⟩ := exists_run Char.isDigit cs
  obtain ⟨f, y, rfl, hfl, hf, hfy, hf0⟩ := exists_fraction x
  unfold numberLength at h
  simp only [hrun, List.drop_left, hfl] at h
  rw [← List.append_assoc d f, ← List.length_append, List.drop_left] at h
  obtain ⟨m, hm, hn⟩ := Option.map_eq_some_iff.mp h
  obtain ⟨e, r, rfl, rfl, he, hed, hem⟩ := exists_exponent hm
  refine ⟨d, f, e, r, by simp, ?_, ⟨hd, hf, he⟩, ?_, hem, ?_⟩
  · rw [← hn]
    simp only [List.length_append]
  · by_cases hee : e = []
    · subst hee
      by_cases hff : f = []
      · subst hff
        simpa using hx
      · exact hfy hff
    · exact hed hee
  · rintro rfl rfl
    simpa using hf0 rfl

/-- The scanner takes a slice as a numeric literal exactly when the slice is a numeral and the text after
it does not belong to it. -/
theorem numberLength_append_iff (w r : List Char) :
    numberLength (w ++ r) = some w.length ↔
      ∃ d f e, w = d ++ f ++ e ∧ Numeral d f e ∧ NumeralEnd f e r := by
  constructor
  · intro h
    obtain ⟨d, f, e, r', hcs, hlen, hnum, hend⟩ := exists_numeral h
    obtain ⟨rfl, rfl⟩ := List.append_inj hcs hlen
    exact ⟨d, f, e, rfl, hnum, hend⟩
  · rintro ⟨d, f, e, rfl, hnum, hend⟩
    exact hnum.numberLength_append hend

end SqlOutline.Scan
