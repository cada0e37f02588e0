import Mathlib.Data.List.TakeWhile
import SqlOutline.Xml.Reader

/-!
# Reading back written tags

What is written for the parts of a document is read as the tags that it stands for, whatever follows it.

* `Carried` : texts that a document carries unchanged;
* `textRun_escape` : an escaped text is read as it was;
* `PlainName`, `qualified?_plain` : names without a namespace;
* `attributes?_write` : written attributes are read as they were;
* `Tagged` : the tags of a text, without fuel;
* `tagged_newline`, `tagged_declaration` : what stands for no tag.
-/

namespace SqlOutline.Xml

/-! ### Texts -/

/-- A text that a document carries unchanged: all its characters are allowed, and none is a carriage return,
which is read as a line feed. -/
def Carried (s : String) : Prop := ∀ c ∈ s.toList, isAllowed c = true ∧ c ≠ '\r'

instance (s : String) : Decidable (Carried s) := inferInstanceAs (Decidable (∀ c ∈ s.toList, _))

/-- An allowed character is written as an entity that stands for it, or as it is. -/
theorem escapeChar_cases {c : Char} (h : isAllowed c = true) :
    (∃ name, escapeChar c = '&' :: (name ++ [';']) ∧ ';' ∉ name ∧ entity? name = some c) ∨
    (escapeChar c = [c] ∧ c ≠ '&' ∧ c ≠ '<' ∧ c ≠ '"') := by
  by_cases hmarkup : c ∈ ['&', '<', '>', '\'', '"']
  · left
    have hall : ∀ c ∈ ['&', '<', '>', '\'', '"'],
        ∃ name ∈ [['a', 'm', 'p'], ['l', 't'], ['g', 't'], ['a', 'p', 'o', 's'], ['q', 'u', 'o', 't']],
          escapeChar c = '&' :: (name ++ [';']) ∧ ';' ∉ name ∧ entity? name = some c := by decide +kernel
    obtain ⟨name, -, hname⟩ := hall c hmarkup
    exact ⟨name, hname⟩
  · right
    simp only [List.mem_cons, List.not_mem_nil, or_false, not_or] at hmarkup
    unfold escapeChar
    simp [hmarkup, h]

/-- An entity is read as the character that it stands for. -/
theorem textRun_entity {quote : Option Char} (hquote : quote ≠ some '&') {name : List Char} {d : Char}
    (hname : ';' ∉ name) (hd : entity? name = some d) (hallowed : isAllowed d = true) (rest : List Char) :
    textRun quote none ('&' :: (name ++ ';' :: rest)) =
      (textRun quote none rest).map fun (text, after) => (d :: text, after) := by
  have hinside : ∀ name found, ';' ∉ name → textRun quote (some found) (name ++ ';' :: rest) =
      textRun quote (some (name.reverse ++ found)) (';' :: rest) := by
    intro name
    induction name with
    | nil => simp
    | cons c name ih =>
      intro found hnone
      rw [List.mem_cons, not_or] at hnone
      rw [List.cons_append, textRun, if_neg (Ne.symm hnone.1), ih _ hnone.2, List.reverse_cons,
        List.append_assoc, List.singleton_append]
  rw [textRun, if_neg hquote, if_neg (by decide), if_pos rfl, hinside name [] hname, List.append_nil,
    textRun, if_pos rfl, List.reverse_reverse, hd]
  cases textRun quote none rest <;> simp [hallowed]

/-- An escaped text before its closing quote is read as it was. -/
theorem textRun_escape {cs : List Char} (h : ∀ c ∈ cs, isAllowed c = true) (rest : List Char) :
    textRun (some '"') none (cs.flatMap escapeChar ++ '"' :: rest) = some (cs, rest) := by
  induction cs with
  | nil => rfl
  | cons c cs ih =>
    rw [List.forall_mem_cons] at h
    rw [List.flatMap_cons, List.append_assoc]
    rcases escapeChar_cases h.1 with ⟨name, hname, hnone, hentity⟩ | ⟨hplain, hamp, hless, hquote⟩
    · rw [hname, List.cons_append, List.append_assoc, List.singleton_append,
        textRun_entity (by decide) hnone hentity h.1, ih h.2]
      rfl
    · rw [hplain, List.singleton_append, textRun, if_neg (by simpa using Ne.symm hquote), if_neg hless,
        if_neg hamp]
      simp [h.1, ih h.2]

/-! ### Names and attributes -/

/-- A name without a namespace. -/
structure PlainName (name : List Char) : Prop where
  starts : name.head?.any isNameStart = true
  parts : ∀ c ∈ name, isNamePart c = true
  colon : ':' ∉ name

/-- `PlainName` as a test. -/
def isPlainName (name : List Char) : Bool :=
  name.head?.any isNameStart && name.all fun c => isNamePart c && c != ':'

theorem isPlainName_iff {name : List Char} : isPlainName name = true ↔ PlainName name := by
  simp only [isPlainName, Bool.and_eq_true, List.all_eq_true, bne_iff_ne]
  constructor
  · rintro ⟨hstarts, hparts⟩
    exact ⟨hstarts, fun c hc => (hparts c hc).1, fun hc => (hparts _ hc).2 rfl⟩
  · intro h
    refine ⟨h.starts, fun c hc => ⟨h.parts c hc, ?_⟩⟩
    rintro rfl
    exact h.colon hc

instance (name : List Char) : Decidable (PlainName name) :=
  decidable_of_iff (isPlainName name = true) isPlainName_iff

theorem PlainName.exists_cons {name : List Char} (h : PlainName name) :
    ∃ c cs, name = c :: cs ∧ isNamePart c = true := by
  cases name with
  | nil => cases h.starts
  | cons c cs => exact ⟨c, cs, rfl, h.parts c List.mem_cons_self⟩

theorem name?_plain {name : List Char} (h : PlainName name) {c : Char} (hc : isNameLike c = false)
    (rest : List Char) : name? (name ++ c :: rest) = some (name, c :: rest) := by
  have hlike : ∀ d ∈ name, isNameLike d = true := fun d hd => isNameLike_of_isNamePart (h.parts d hd)
  have htake : (name ++ c :: rest).takeWhile isNameLike = name := by
    rw [List.takeWhile_append_of_pos hlike]
    simp [hc]
  have hparts : name.all isNamePart = true := List.all_eq_true.mpr h.parts
  unfold name?
  rw [htake]
  simp [h.starts, hparts]

theorem qualified?_plain {name : List Char} (h : PlainName name) {c : Char} (hc : isNameLike c = false)
    (rest : List Char) : qualified? (name ++ c :: rest) = some (⟨"", String.ofList name⟩, c :: rest) := by
  have hkeep : ∀ d ∈ name, (d != ':') = true := by
    intro d hd
    rw [bne_iff_ne]
    rintro rfl
    exact h.colon hd
  have hdrop : name.dropWhile (· != ':') = [] := List.dropWhile_eq_nil_iff.mpr hkeep
  unfold qualified?
  rw [name?_plain h hc]
  simp [hdrop]

theorem skipBlank_cons {c : Char} (h : (c == ' ' || c == '\t' || c == '\n' || c == '\r') = false)
    (cs : List Char) : skipBlank (c :: cs) = c :: cs := by
  rw [skipBlank, List.dropWhile_cons, h]
  rfl

theorem not_blank_of_isNamePart {c : Char} (h : isNamePart c = true) :
    (c == ' ' || c == '\t' || c == '\n' || c == '\r') = false := by
  have hall : ∀ c ∈ [' ', '\t', '\n', '\r'], isNamePart c = false := by decide
  cases hblank : (c == ' ' || c == '\t' || c == '\n' || c == '\r') with
  | false => rfl
  | true =>
    have hnot := hall c (by simpa [or_assoc] using hblank)
    rw [h] at hnot
    cases hnot

/-- An attribute is read with its value. -/
theorem attributes?_next {name value : String} (hname : PlainName name.toList) (hvalue : Carried value)
    (fuel : Nat) (found : List (Name × String)) (rest : List Char) :
    attributes? (fuel + 1) found (' ' :: (name.toList ++ '=' :: '"' :: (escape value ++ '"' :: rest))) =
      attributes? fuel (setAttribute ⟨"", name⟩ value found) rest := by
  obtain ⟨c, cs, hcs, hc⟩ := hname.exists_cons
  have hskip : skipBlank (' ' :: (name.toList ++ '=' :: '"' :: (escape value ++ '"' :: rest))) =
      name.toList ++ '=' :: '"' :: (escape value ++ '"' :: rest) := by
    rw [hcs]
    exact skipBlank_cons (not_blank_of_isNamePart hc) _
  have hvalue := textRun_escape (fun c hc => (hvalue c hc).1) rest
  rw [attributes?, hskip]
  split
  · rename_i heq
    rw [hcs, List.cons_append] at heq
    obtain ⟨rfl, -⟩ := List.cons.inj heq
    exact absurd hc (by decide)
  · rename_i heq
    rw [hcs, List.cons_append] at heq
    obtain ⟨rfl, -⟩ := List.cons.inj heq
    exact absurd hc (by decide)
  · have hequals := skipBlank_cons (c := '=') (by decide)
    have hquote := skipBlank_cons (c := '"') (by decide)
    rw [qualified?_plain hname rfl, String.ofList_toList, escape]
    simp [hequals, hquote, hvalue]

/-- Written attributes are read with their values. -/
theorem attributes?_write {attributes : List (String × String)}
    (h : ∀ a ∈ attributes, PlainName a.1.toList ∧ Carried a.2) (fuel : Nat) (found : List (Name × String))
    (rest : List Char) : attributes? (attributes.length + fuel) found (writeAttributes attributes ++ rest) =
      attributes? fuel (attributes.foldl (fun found a => setAttribute ⟨"", a.1⟩ a.2 found) found) rest := by
  induction attributes generalizing found with
  | nil => simp [writeAttributes]
  | cons a attributes ih =>
    rw [List.forall_mem_cons] at h
    have hfuel : (a :: attributes).length + fuel = attributes.length + fuel + 1 := by
      rw [List.length_cons]
      omega
    have htext : writeAttributes (a :: attributes) ++ rest =
        ' ' :: (a.1.toList ++ '=' :: '"' :: (escape a.2 ++ '"' :: (writeAttributes attributes ++ rest))) := by
      simp [writeAttributes]
    rw [hfuel, htext, attributes?_next h.1.1 h.1.2, ih h.2, List.foldl_cons]

theorem length_le_writeAttributes (attributes : List (String × String)) :
    attributes.length ≤ (writeAttributes attributes).length := by
  induction attributes with
  | nil => exact Nat.zero_le _
  | cons a attributes ih =>
    simp only [writeAttributes, List.flatMap_cons, List.length_append, List.length_cons] at ih ⊢
    omega

/-! ### Tags -/

/-- The tags of a text. -/
inductive Tagged : List Char → List Tag → Prop
  | nil : Tagged [] []
  | step {cs rest : List Char} {tags more : List Tag} : step? cs = some (tags, rest) →
      rest.length < cs.length → Tagged rest more → Tagged cs (tags ++ more)

/-- The length of a text is enough fuel for its tags. -/
theorem Tagged.tags?_eq {cs : List Char} {tags : List Tag} (h : Tagged cs tags) (fuel : Nat)
    (hfuel : cs.length ≤ fuel) : tags? fuel cs = some tags := by
  induction h generalizing fuel with
  | nil => cases fuel <;> rfl
  | @step cs rest tags more hstep hlen _ ih =>
    obtain ⟨fuel, rfl⟩ : ∃ n, fuel = n + 1 := Nat.exists_eq_add_one.mpr (by omega)
    cases cs with
    | nil => simp at hlen
    | cons c cs =>
      rw [tags?, hstep]
      · simp [ih fuel (by omega)]
      · intro hnil
        cases hnil

/-- White space before a tag, or at the end, stands for no tag. -/
theorem tagged_newline {rest : List Char} {tags : List Tag} (h : Tagged rest tags)
    (hrest : rest = [] ∨ ∃ cs, rest = '<' :: cs) (pretty : Bool) (level : Nat) :
    Tagged (newline pretty level ++ rest) tags := by
  cases pretty with
  | false => exact h
  | true =>
    have hend : textRun none none rest = some ([], rest) := by
      rcases hrest with rfl | ⟨cs, rfl⟩
      · rfl
      · rfl
    have hspaces : ∀ n, textRun none none (List.replicate n ' ' ++ rest) =
        some (List.replicate n ' ', rest) := by
      intro n
      induction n with
      | zero => exact hend
      | succ n ih =>
        rw [List.replicate_succ, List.cons_append, textRun]
        simp [ih, isAllowed]
    have hstep : step? (newline true level ++ rest) = some ([], rest) := by
      show (textRun none none ('\n' :: (List.replicate (2 * level) ' ' ++ rest))).map _ = _
      rw [textRun]
      simp [hspaces, isAllowed]
    have hlen : 0 < (newline true level).length := Nat.succ_pos _
    exact .step hstep (by rw [List.length_append]; omega) h

/-- What the declaration says. -/
def declared : List Char := " version=\"1.0\" encoding=\"UTF-8\"".toList

theorem instruction?_declared (rest : List Char) :
    instruction? (['x', 'm', 'l'] ++ (declared ++ '?' :: '>' :: rest)) = some rest := by
  have hname : name? (['x', 'm', 'l'] ++ (declared ++ '?' :: '>' :: rest)) =
      some (['x', 'm', 'l'], declared ++ '?' :: '>' :: rest) := name?_plain (by decide) rfl _
  have hbefore : before ['?', '>'] (declared ++ '?' :: '>' :: rest) = declared := rfl
  have hafter : after? ['?', '>'] (declared ++ '?' :: '>' :: rest) = some rest := rfl
  have hversion : setting "version=".toList declared = "1.0".toList := by decide +kernel
  unfold instruction?
  rw [hname, Option.bind_eq_bind, Option.bind_some]
  dsimp only
  rw [hafter, hbefore, Option.bind_eq_bind, Option.bind_some, hversion]
  exact if_neg fun h => h.2.2 rfl

/-- The declaration stands for no tag. -/
theorem tagged_declaration {rest : List Char} {tags : List Tag} (h : Tagged rest tags) :
    Tagged (declaration.toList ++ rest) tags := by
  have htext : declaration.toList ++ rest =
      '<' :: '?' :: (['x', 'm', 'l'] ++ (declared ++ '?' :: '>' :: rest)) := rfl
  have hstep : step? (declaration.toList ++ rest) = some ([], rest) := by
    rw [htext]
    show (instruction? _).map _ = _
    rw [instruction?_declared]
    rfl
  have hlen : 0 < declaration.toList.length := by decide
  exact .step hstep (by rw [List.length_append]; omega) h

/-! ### Start and end tags -/

/-- What follows a bracket is the name of a start tag, unless one of three marks does. -/
theorem step?_name {c : Char} (hmark : c ∉ ['?', '!', '/']) {cs after rest : List Char} {name : Name}
    {attributes : List (Name × String)} {closed : Bool} (hname : qualified? (c :: cs) = some (name, after))
    (hattributes : attributes? (after.length + 1) [] after = some (attributes, closed, rest)) :
    step? ('<' :: c :: cs) =
      some (.start name attributes :: if closed then [.finish name] else [], rest) := by
  simp only [List.mem_cons, List.not_mem_nil, or_false, not_or] at hmark
  unfold step?
  split
  case h_7 heq =>
    obtain ⟨-, rfl⟩ := List.cons.inj heq
    simp [hname, hattributes]
  case h_8 hnone => exact absurd rfl (hnone (c :: cs))
  all_goals
    rename_i heq
    obtain ⟨-, htail⟩ := List.cons.inj heq
    obtain ⟨rfl, -⟩ := List.cons.inj htail
    simp at hmark

/-- The attributes of an element as they are read. -/
def readAttributes (attributes : List (String × String)) : List (Name × String) :=
  attributes.foldl (fun found a => setAttribute ⟨"", a.1⟩ a.2 found) []

/-- The tag of an element with attributes, closed at once or not. -/
theorem step?_start {name : String} (hname : PlainName name.toList) {attributes : List (String × String)}
    (hattributes : ∀ a ∈ attributes, PlainName a.1.toList ∧ Carried a.2) {ending rest : List Char}
    {closed : Bool} (hending : ending = ['>'] ∧ closed = false ∨ ending = ['/', '>'] ∧ closed = true) :
    step? (openTag name attributes ++ (ending ++ rest)) =
      some (.start ⟨"", name⟩ (readAttributes attributes) ::
        if closed then [.finish ⟨"", name⟩] else [], rest) := by
  obtain ⟨c, cs, hcs, hc⟩ := hname.exists_cons
  have hmark : c ∉ ['?', '!', '/'] := by
    intro hmem
    have hall : ∀ c ∈ ['?', '!', '/'], isNamePart c = false := by decide
    rw [hall c hmem] at hc
    cases hc
  have hread : attributes? ((writeAttributes attributes ++ (ending ++ rest)).length + 1) []
      (writeAttributes attributes ++ (ending ++ rest)) = some (readAttributes attributes, closed, rest) := by
    obtain ⟨fuel, hfuel⟩ : ∃ n, (writeAttributes attributes ++ (ending ++ rest)).length + 1 =
        attributes.length + (n + 1) := by
      have hlen := length_le_writeAttributes attributes
      refine ⟨(writeAttributes attributes).length - attributes.length + (ending ++ rest).length, ?_⟩
      rw [List.length_append]
      omega
    rw [hfuel, attributes?_write hattributes]
    rcases hending with ⟨rfl, rfl⟩ | ⟨rfl, rfl⟩
    · rfl
    · rfl
  have hqualified : qualified? (name.toList ++ (writeAttributes attributes ++ (ending ++ rest))) =
      some (⟨"", name⟩, writeAttributes attributes ++ (ending ++ rest)) := by
    obtain ⟨d, after, hafter, hd⟩ : ∃ d after, writeAttributes attributes ++ (ending ++ rest) = d :: after ∧
        isNameLike d = false := by
      cases attributes with
      | cons a attributes => exact ⟨' ', _, rfl, rfl⟩
      | nil =>
        rcases hending with ⟨rfl, -⟩ | ⟨rfl, -⟩
        · exact ⟨'>', _, rfl, rfl⟩
        · exact ⟨'/', _, rfl, rfl⟩
    rw [hafter, qualified?_plain hname hd, String.ofList_toList]
  rw [openTag, List.cons_append, List.append_assoc]
  rw [hcs] at hqualified ⊢
  exact step?_name hmark hqualified hread

theorem step?_finish {name : String} (hname : PlainName name.toList) (rest : List Char) :
    step? (closeTag name ++ rest) = some ([.finish ⟨"", name⟩], rest) := by
  have hqualified := qualified?_plain hname (c := '>') rfl rest
  have hskip : skipBlank ('>' :: rest) = '>' :: rest := skipBlank_cons (by decide) _
  rw [closeTag, List.cons_append, List.cons_append, List.append_assoc, List.singleton_append, step?,
    hqualified, String.ofList_toList]
  simp [hskip]

end SqlOutline.Xml
