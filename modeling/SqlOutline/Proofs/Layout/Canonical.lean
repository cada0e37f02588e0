import SqlOutline.Proofs.Layout.Joined

/-!
# Formatted text is canonical

A layout that is chosen anew, with keywords in one spelling, keeps nothing of the white space of a text but
where it stands, and nothing of the letter case of its keywords.  So texts that differ in these alone have
one formatted form.

* `SameWord` : tokens that differ in these alone;
* `KeywordCase.apply_eq` : a spelling does not see the case of ASCII letters;
* `withoutMargins` : the tokens of a text without the white space at its ends;
* `format_canonical` : the main result.
-/

namespace SqlOutline

/-! ### The case of ASCII letters -/

/-- Beyond ASCII there are no capitals of ASCII. -/
theorem toLower_of_le {c : Char} (h : 128 ≤ c.toNat) : c.toLower = c := by
  unfold Char.toLower
  split
  · rename_i hcapital
    have hle : c.toNat ≤ 90 := hcapital.2
    omega
  · rfl

/-- A case mapping that does so on ASCII, and on all of it, gives a letter and its capital one image. -/
theorem map_toLower_of_ascii {f : Char → Char}
    (hall : ∀ n ∈ List.range 128, f (Char.ofNat n).toLower = f (Char.ofNat n)) (c : Char) :
    f c.toLower = f c := by
  by_cases hc : c.toNat < 128
  · have hn := hall c.toNat (List.mem_range.mpr hc)
    rwa [Char.ofNat_toNat] at hn
  · rw [toLower_of_le (by omega)]

theorem upperChar_toLower (c : Char) : Text.upperChar c.toLower = Text.upperChar c :=
  map_toLower_of_ascii (by decide +kernel) c

theorem lowerChar_toLower (c : Char) : Text.lowerChar c.toLower = Text.lowerChar c :=
  map_toLower_of_ascii (by decide +kernel) c

/-- A mapping that does not see the case of ASCII letters in a character does not see it in a word. -/
theorem map_eq_of_map_toLower {f : Char → Char} (hf : ∀ c, f c.toLower = f c) {s s' : List Char}
    (h : s.map Char.toLower = s'.map Char.toLower) : s.map f = s'.map f := by
  have hlower : ∀ w : List Char, w.map f = (w.map Char.toLower).map f := by
    intro w
    rw [List.map_map]
    exact List.map_congr_left fun c _ => (hf c).symm
  rw [hlower s, hlower s', h]

theorem upper_eq {word word' : String}
    (h : word.toList.map Char.toLower = word'.toList.map Char.toLower) :
    Text.upper word = Text.upper word' := by
  unfold Text.upper
  rw [map_eq_of_map_toLower upperChar_toLower h]

/-- A spelling other than the given one does not see the case of ASCII letters. -/
theorem KeywordCase.apply_eq {k : KeywordCase} (hk : k ≠ .preserve) {word word' : String}
    (h : word.toList.map Char.toLower = word'.toList.map Char.toLower) : k.apply word = k.apply word' := by
  cases k with
  | preserve => exact absurd rfl hk
  | upper => exact upper_eq h
  | lower =>
    show Text.lower word = Text.lower word'
    unfold Text.lower
    rw [map_eq_of_map_toLower lowerChar_toLower h]
  | capitalize =>
    unfold apply
    cases hw : word.toList with
    | nil =>
      rw [hw] at h
      rw [List.map_eq_nil_iff.mp h.symm]
    | cons c cs =>
      rw [hw] at h
      obtain ⟨d, ds, hw', hcd, hcs⟩ := List.map_eq_cons_iff.mp h.symm
      have hhead : Text.upperChar c = Text.upperChar d := by
        rw [← upperChar_toLower c, ← hcd, upperChar_toLower]
      rw [hw']
      dsimp only
      rw [hhead, map_eq_of_map_toLower lowerChar_toLower hcs]

namespace Layout

open Scan Token

variable {o : Options} {t u : Token} {ts us : List Token}

/-! ### Texts that differ in white space and letter case -/

/-- Tokens of one class and one text.  The text of white space does not count, and that of a keyword counts
up to the case of ASCII letters. -/
structure SameWord (t u : Token) : Prop where
  lexClass : t.lexClass = u.lexClass
  text : t.lexClass ≠ .whitespace → t.lexClass.isKeyword = false → t.text = u.text
  keyword : t.lexClass.isKeyword = true →
    t.text.toList.map Char.toLower = u.text.toList.map Char.toLower

instance : DecidableRel SameWord := fun t u =>
  decidable_of_iff (t.lexClass = u.lexClass ∧
      (t.lexClass ≠ .whitespace → t.lexClass.isKeyword = false → t.text = u.text) ∧
      (t.lexClass.isKeyword = true → t.text.toList.map Char.toLower = u.text.toList.map Char.toLower))
    ⟨fun h => ⟨h.1, h.2.1, h.2.2⟩, fun h => ⟨h.lexClass, h.text, h.keyword⟩⟩

/-- The tokens without the white space at either end. -/
def withoutMargins (ts : List Token) : List Token :=
  (ts.dropWhile (·.lexClass == .whitespace)).rdropWhile (·.lexClass == .whitespace)

theorem SameWord.alike (h : SameWord t u) : Alike t u where
  lexClass := h.lexClass
  modifier := by
    unfold isJoinModifier
    rw [← h.lexClass]
    by_cases hreserved : t.lexClass = .reservedWord
    · rw [upper_eq (h.keyword (by rw [hreserved]; rfl))]
    · rw [beq_eq_false_iff_ne.mpr hreserved, Bool.false_and, Bool.false_and]

theorem SameWord.textOf_eq (ho : o.keywordCase ≠ .preserve) (h : SameWord t u)
    (hspace : t.lexClass ≠ .whitespace) : o.textOf t = o.textOf u := by
  unfold Options.textOf
  rw [← h.lexClass]
  cases hk : t.lexClass.isKeyword with
  | true => exact KeywordCase.apply_eq ho (h.keyword hk)
  | false => exact h.text hspace hk

theorem exists_margins (ts : List Token) : ∃ lead trail, ts = lead ++ withoutMargins ts ++ trail ∧
    lead.all (·.lexClass == .whitespace) = true ∧ trail.all (·.lexClass == .whitespace) = true := by
  refine ⟨ts.takeWhile (·.lexClass == .whitespace),
    (ts.dropWhile (·.lexClass == .whitespace)).rtakeWhile (·.lexClass == .whitespace), ?_, ?_, ?_⟩
  · rw [withoutMargins, List.append_assoc, List.rdropWhile_append_rtakeWhile,
      List.takeWhile_append_dropWhile]
  · exact List.all_takeWhile
  · exact List.all_eq_true.mpr fun t ht =>
      List.mem_rtakeWhile_imp (p := fun t : Token => t.lexClass == .whitespace) ht

/-- White space at the ends shows neither in the layout nor in the parentheses. -/
theorem layout_withoutMargins (o : Options) (ts : List Token) :
    layout o (withoutMargins ts) = layout o ts ∧ parens (withoutMargins ts) = parens ts := by
  obtain ⟨lead, trail, hts, hlead, htrail⟩ := exists_margins ts
  constructor
  · obtain ⟨g, hg⟩ := layoutFrom_space_append (o := o) (s := {}) hlead (withoutMargins ts)
    have hall : layoutFrom o {} ts = layoutFrom o {} (withoutMargins ts) := by
      rw [hts, layoutFrom_append_space htrail, ← hts, hg, layoutFrom_gap rfl]
    rw [layout, layout, hall]
  · have hall : parens ts = parens (lead ++ withoutMargins ts ++ trail) := congrArg parens hts
    rw [hall, parens_append, parens_append, parens_of_all_space hlead, parens_of_all_space htrail,
      List.nil_append, List.append_nil]

theorem map_lexClass_eq (h : List.Forall₂ SameWord ts us) :
    ts.map (·.lexClass) = us.map (·.lexClass) := by
  induction h with
  | nil => rfl
  | cons htu _ ih => rw [List.map_cons, List.map_cons, htu.lexClass, ih]

/-- Tokens that differ in white space and in the case of keywords have the same layout and parentheses. -/
theorem layout_eq (ho : o.keywordCase ≠ .preserve)
    (h : List.Forall₂ SameWord (withoutMargins ts) (withoutMargins us)) :
    layout o ts = layout o us ∧ parens ts = parens us := by
  obtain ⟨hts, hts'⟩ := layout_withoutMargins o ts
  obtain ⟨hus, hus'⟩ := layout_withoutMargins o us
  have hwords := h.imp fun t u htu =>
    (⟨htu.alike, htu.textOf_eq ho⟩ : Alike t u ∧ (t.lexClass ≠ .whitespace → o.textOf t = o.textOf u))
  constructor
  · rw [← hts, ← hus, layout, layout, layoutFrom_alike (.refl _) hwords]
  · rw [← hts', ← hus', parens, parens, map_lexClass_eq h]

theorem format_of_layout_eq (ho : (o.reindent || o.stripWhitespace) = true) {sql sql' out : String}
    (hts : tokenize sql = .ok ts) (hus : tokenize sql' = .ok us) (hlayout : layout o ts = layout o us)
    (hparens : parens ts = parens us) (h : format o sql = .ok out) : format o sql' = .ok out := by
  obtain ⟨ts', hts', hbalanced, rfl⟩ := (format_eq_ok_iff_layout ho sql out).mp h
  obtain rfl : ts = ts' := Except.ok.inj (hts.symm.trans hts')
  rw [hparens] at hbalanced
  exact (format_eq_ok_iff_layout ho sql' _).mpr ⟨us, hus, hbalanced, hlayout⟩

/-! ### The main result -/

/-- **Formatted text is canonical.**  Let the layout be chosen anew and keywords get a spelling of their own.
Two texts that are scanned without an error and whose tokens, apart from white space at the ends of the
texts, differ at most in the characters of their white space and in the letter case of their keywords are
both refused or formatted to one text. -/
theorem format_canonical (o : Options) (ho : (o.reindent || o.stripWhitespace) = true)
    (hcase : o.keywordCase ≠ .preserve) (sql sql' : String) (ts us : List Token)
    (hts : tokenize sql = .ok ts) (hus : tokenize sql' = .ok us)
    (h : List.Forall₂ SameWord (withoutMargins ts) (withoutMargins us)) :
    (∃ e e', format o sql = .error e ∧ format o sql' = .error e') ∨
      ∃ out, format o sql = .ok out ∧ format o sql' = .ok out := by
  obtain ⟨hlayout, hparens⟩ := layout_eq hcase h
  cases hsql : format o sql with
  | ok out => exact .inr ⟨out, rfl, format_of_layout_eq ho hts hus hlayout hparens hsql⟩
  | error e =>
    cases hsql' : format o sql' with
    | ok out =>
      rw [format_of_layout_eq ho hus hts hlayout.symm hparens.symm hsql'] at hsql
      cases hsql
    | error e' => exact .inl ⟨e, e', rfl, rfl⟩

theorem format_canonical_join :
    ∃ ts us, tokenize "a left join b\n" = .ok ts ∧ tokenize " a LEFT  Join b" = .ok us ∧
      List.Forall₂ SameWord (withoutMargins ts) (withoutMargins us) ∧
      format {} "a left join b\n" = .ok "a\nLEFT JOIN b" ∧
      format {} " a LEFT  Join b" = .ok "a\nLEFT JOIN b" := by
  obtain ⟨ts, us, hts, hus, hlength, hsame⟩ : ∃ ts us, tokenize "a left join b\n" = .ok ts ∧
      tokenize " a LEFT  Join b" = .ok us ∧ (withoutMargins ts).length = (withoutMargins us).length ∧
      ∀ p ∈ (withoutMargins ts).zip (withoutMargins us), SameWord p.1 p.2 :=
    ⟨[⟨.identifier, "a", ⟨1, 1, 0⟩⟩, ⟨.whitespace, " ", ⟨1, 2, 1⟩⟩,
        ⟨.reservedWord, "left", ⟨1, 3, 2⟩⟩, ⟨.whitespace, " ", ⟨1, 7, 6⟩⟩,
        ⟨.keyword .JOIN, "join", ⟨1, 8, 7⟩⟩, ⟨.whitespace, " ", ⟨1, 12, 11⟩⟩,
        ⟨.identifier, "b", ⟨1, 13, 12⟩⟩, ⟨.whitespace, "\n", ⟨1, 14, 13⟩⟩],
      [⟨.whitespace, " ", ⟨1, 1, 0⟩⟩, ⟨.identifier, "a", ⟨1, 2, 1⟩⟩, ⟨.whitespace, " ", ⟨1, 3, 2⟩⟩,
        ⟨.reservedWord, "LEFT", ⟨1, 4, 3⟩⟩, ⟨.whitespace, "  ", ⟨1, 8, 7⟩⟩,
        ⟨.keyword .JOIN, "Join", ⟨1, 10, 9⟩⟩, ⟨.whitespace, " ", ⟨1, 14, 13⟩⟩,
        ⟨.identifier, "b", ⟨1, 15, 14⟩⟩],
      by decide +kernel, by decide +kernel, by decide +kernel, by decide +kernel⟩
  have hwords : List.Forall₂ SameWord (withoutMargins ts) (withoutMargins us) :=
    List.forall₂_iff_zip.mpr ⟨hlength, fun {t u} h => hsame (t, u) h⟩
  have hformat : format {} "a left join b\n" = .ok "a\nLEFT JOIN b" := by decide +kernel
  refine ⟨ts, us, hts, hus, hwords, hformat, ?_⟩
  rcases format_canonical {} rfl (by decide) _ _ _ _ hts hus hwords with ⟨e, -, herror, -⟩ | ⟨out, hout, hout'⟩
  · rw [hformat] at herror
    cases herror
  · rw [hformat] at hout
    rwa [← Except.ok.inj hout] at hout'

end Layout

end SqlOutline
