import SqlOutline.Export
import SqlOutline.Proofs.Json.Depth
import SqlOutline.Proofs.Outline.Stripped

/-!
# Reading back what was written as JSON

The text of a value, in either style, is read as that value unless it nests too deep, and so a node that is
exported is read as it was.

* `escapeChar_cases` : what is written for a character;
* `stringBody_quoted` : a text between quotes is read as it was;
* `Json.Numberless` : values without numbers;
* `value?_write`, `items?_writeItems`, `members?_writeMembers` : a written value is taken off the front of a
  text, whatever follows it, when the fuel is as much as its length and there is room for it;
* `parse_render` : a whole document;
* `toNode?_ofNode` : the node that the value of a node stands for;
* `readNode_writeNode_json` : the main result; `writeNode_json_nested_eq_error` : a node that is not written.
-/

namespace SqlOutline

namespace Json

/-! ### Texts -/

/-- The numbers of the characters that are escaped by number. -/
def numberedChars : List Nat := List.range 0x20 ++ [0x2028, 0x2029, 0x3c, 0x3e, 0x26]

theorem exists_hex {n : Nat} (h : n ∈ numberedChars) :
    ∃ a b c d, Text.hex 4 n = [a, b, c, d] ∧ hexNumber? a b c d = some n := by
  have hall : ∀ n ∈ numberedChars,
      hexNumber? (Text.hexDigit (n / 16 / 16 / 16 % 16)) (Text.hexDigit (n / 16 / 16 % 16))
        (Text.hexDigit (n / 16 % 16)) (Text.hexDigit (n % 16)) = some n := by decide
  exact ⟨_, _, _, _, rfl, hall n h⟩

/-- A character is escaped by a letter, escaped by its number, or written as it is. -/
theorem escapeChar_cases (escapeMarkup : Bool) (c : Char) :
    (∃ e, escapeChar escapeMarkup c = ['\\', e] ∧ e ≠ 'u' ∧ unescape? e = some c) ∨
    (escapeChar escapeMarkup c = '\\' :: 'u' :: Text.hex 4 c.toNat ∧ c.toNat ∈ numberedChars) ∨
    (escapeChar escapeMarkup c = [c] ∧ c ≠ '"' ∧ c ≠ '\\' ∧ ¬ c.toNat < 0x20) := by
  by_cases hletter : c ∈ ['"', '\\', '\x08', '\x0c', '\n', '\r', '\t']
  · left
    have hall : ∀ b, ∀ c ∈ ['"', '\\', '\x08', '\x0c', '\n', '\r', '\t'],
        ∃ e ∈ ['"', '\\', 'b', 'f', 'n', 'r', 't'], escapeChar b c = ['\\', e] ∧ e ≠ 'u' ∧
          unescape? e = some c := by decide
    obtain ⟨e, -, he⟩ := hall escapeMarkup c hletter
    exact ⟨e, he⟩
  · simp only [List.mem_cons, List.not_mem_nil, or_false, not_or] at hletter
    right
    unfold escapeChar
    simp only [hletter, if_false]
    split
    · rename_i hnumber
      refine .inl ⟨rfl, ?_⟩
      rcases hnumber with hlow | rfl | rfl | ⟨-, rfl | rfl | rfl⟩
      · exact List.mem_append_left _ (List.mem_range.mpr hlow)
      all_goals decide
    · rename_i hnone
      exact .inr ⟨rfl, hletter.1, hletter.2.1, fun hlow => hnone (.inl hlow)⟩

/-- What is written for a character is read as one code unit. -/
theorem stringUnits_escapeChar (escapeMarkup : Bool) (c : Char) (rest : List Char) :
    stringUnits (escapeChar escapeMarkup c ++ rest) =
      (stringUnits rest).map fun (units, after) => (c.toNat :: units, after) := by
  rcases escapeChar_cases escapeMarkup c with ⟨e, he, hne, hc⟩ | ⟨hhex, hmem⟩ | ⟨hc, hquote, hslash, hlow⟩
  · rw [he, List.cons_append, List.cons_append, List.nil_append,
      stringUnits.eq_4 _ _ fun _ _ _ _ _ hu _ => hne hu, hc]
    cases stringUnits rest <;> rfl
  · obtain ⟨h₁, h₂, h₃, h₄, hfour, hnumber⟩ := exists_hex hmem
    rw [hhex, hfour]
    show stringUnits ('\\' :: 'u' :: h₁ :: h₂ :: h₃ :: h₄ :: rest) = _
    rw [stringUnits, hnumber]
    cases stringUnits rest <;> rfl
  · rw [hc, List.singleton_append, stringUnits.eq_5 _ _ hquote (fun _ _ _ _ _ h _ => hslash h)
      (fun _ _ h _ => hslash h), if_neg (not_or.mpr ⟨hlow, hslash⟩)]
    cases stringUnits rest <;> rfl

theorem stringUnits_quoted (escapeMarkup : Bool) (cs rest : List Char) :
    stringUnits (cs.flatMap (escapeChar escapeMarkup) ++ '"' :: rest) = some (cs.map Char.toNat, rest) := by
  induction cs with
  | nil => rfl
  | cons c cs ih =>
    rw [List.flatMap_cons, List.append_assoc, stringUnits_escapeChar, ih]
    rfl

/-- No character is half of a pair. -/
theorem not_surrogate (c : Char) : (isHigh c.toNat || isLow c.toNat) = false := by
  have hvalid := c.valid
  have hnat : c.toNat = c.val.toNat := rfl
  simp only [UInt32.isValidChar, Nat.isValidChar] at hvalid
  simp only [isHigh, isLow, Bool.or_eq_false_iff, Bool.and_eq_false_iff, decide_eq_false_iff_not]
  omega

theorem joinUnits_map_toNat (cs : List Char) : joinUnits (cs.map Char.toNat) = cs := by
  induction cs with
  | nil => rfl
  | cons c cs ih =>
    have hnone := not_surrogate c
    have hhigh : isHigh c.toNat = false := (Bool.or_eq_false_iff.mp hnone).1
    cases cs with
    | nil => simp [joinUnits, hnone]
    | cons d ds =>
      rw [List.map_cons, List.map_cons, joinUnits]
      rw [List.map_cons] at ih
      simp [hhigh, ih, (Bool.or_eq_false_iff.mp hnone).2]

/-- A text between quotes is read as it was. -/
theorem stringBody_quoted (escapeMarkup : Bool) (s : String) (rest : List Char) :
    stringBody (s.toList.flatMap (escapeChar escapeMarkup) ++ '"' :: rest) = some (s, rest) := by
  rw [stringBody, stringUnits_quoted]
  simp [joinUnits_map_toNat]

/-! ### White space -/

theorem skipBlank_newline (style : Style) (level : Nat) (cs : List Char) :
    skipBlank (style.newline level ++ cs) = skipBlank cs := by
  unfold Style.newline
  split
  · have hspaces : ∀ n, skipBlank (List.replicate n ' ' ++ cs) = skipBlank cs := by
      intro n
      induction n with
      | zero => rfl
      | succ n ih =>
        rw [List.replicate_succ]
        exact ih
    exact hspaces (2 * level)
  · rfl

theorem value?_newline (style : Style) (level fuel room : Nat) (cs : List Char) :
    value? fuel room (style.newline level ++ cs) = value? fuel room cs := by
  cases fuel with
  | zero => simp only [value?]
  | succ fuel => simp only [value?, skipBlank_newline]

/-! ### Values -/

/-- Values without numbers. -/
inductive Numberless : Json → Prop
  | null : Numberless null
  | bool (value : Bool) : Numberless (bool value)
  | string (value : String) : Numberless (string value)
  | array {items : List Json} : (∀ j ∈ items, Numberless j) → Numberless (array items)
  | object {members : List (String × Json)} : (∀ m ∈ members, Numberless m.2) →
      Numberless (object members)

/-- The characters that values without numbers start with. -/
def valueStarts : List Char := ['n', 't', 'f', '"', '[', '\x7b']

theorem exists_write {j : Json} (h : j.Numberless) (style : Style) (level : Nat) :
    ∃ c ∈ valueStarts, ∃ cs, write style level j = c :: cs := by
  cases h with
  | null => exact ⟨'n', by decide, _, by rw [write]; rfl⟩
  | bool value =>
    cases value with
    | true => exact ⟨'t', by decide, _, by rw [write]; rfl⟩
    | false => exact ⟨'f', by decide, _, by rw [write]; rfl⟩
  | string value => exact ⟨'"', by decide, _, by rw [write]; rfl⟩
  | @array items _ =>
    cases items with
    | nil => exact ⟨'[', by decide, _, by rw [write]⟩
    | cons j js => exact ⟨'[', by decide, _, by rw [write]⟩
  | @object members _ =>
    cases members with
    | nil => exact ⟨'\x7b', by decide, _, by rw [write]⟩
    | cons m ms => exact ⟨'\x7b', by decide, _, by rw [write]⟩

theorem skipBlank_of_mem {c : Char} (h : c ∈ valueStarts ++ [']', '\x7d', ',', ':', '"']) (cs : List Char) :
    skipBlank (c :: cs) = c :: cs := by
  have hall : ∀ c ∈ valueStarts ++ [']', '\x7d', ',', ':', '"'],
      (c == ' ' || c == '\t' || c == '\n' || c == '\r') = false := by decide
  rw [skipBlank, List.dropWhile_cons, hall c h]
  rfl

/-! ### Steps of the reader -/

section Steps

variable {fuel room : Nat} {cs body after rest : List Char} {k : String} {j : Json} {js : List Json}
  {m : String × Json} {ms : List (String × Json)}

theorem value?_string (hcs : skipBlank cs = '"' :: body) (hbody : stringBody body = some (k, rest)) :
    value? (fuel + 1) room cs = some (string k, rest) := by
  rw [value?, hcs]
  simp [hbody]

theorem value?_items (hcs : skipBlank cs = '[' :: body) (hopen : ∀ tail, skipBlank body ≠ ']' :: tail)
    (hfirst : value? fuel room body = some (j, after)) (hrest : items? fuel room after = some (js, rest)) :
    value? (fuel + 1) (room + 1) cs = some (array (j :: js), rest) := by
  simp only [value?, hcs]
  simp [hfirst, hrest]

theorem value?_members (hcs : skipBlank cs = '\x7b' :: body)
    (hopen : ∀ tail, skipBlank body ≠ '\x7d' :: tail) (hfirst : member? fuel room body = some (m, after))
    (hrest : members? fuel room after = some (ms, rest)) :
    value? (fuel + 1) (room + 1) cs = some (object (m :: ms), rest) := by
  simp only [value?, hcs]
  simp [hfirst, hrest]

theorem items?_end (hcs : skipBlank cs = ']' :: rest) : items? (fuel + 1) room cs = some ([], rest) := by
  simp only [items?, hcs]

theorem items?_next (hcs : skipBlank cs = ',' :: body) (hfirst : value? fuel room body = some (j, after))
    (hrest : items? fuel room after = some (js, rest)) : items? (fuel + 1) room cs = some (j :: js, rest) := by
  rw [items?, hcs]
  simp [hfirst, hrest]

theorem member?_ok (hcs : skipBlank cs = '"' :: body) (hkey : stringBody body = some (k, after))
    {tail : List Char} (hcolon : skipBlank after = ':' :: tail) (hvalue : value? fuel room tail = some (j, rest)) :
    member? (fuel + 1) room cs = some ((k, j), rest) := by
  rw [member?, hcs]
  simp [hkey, hcolon, hvalue]

theorem members?_end (hcs : skipBlank cs = '\x7d' :: rest) : members? (fuel + 1) room cs = some ([], rest) := by
  simp only [members?, hcs]

theorem members?_next (hcs : skipBlank cs = ',' :: body) (hfirst : member? fuel room body = some (m, after))
    (hrest : members? fuel room after = some (ms, rest)) : members? (fuel + 1) room cs = some (m :: ms, rest) := by
  rw [members?, hcs]
  simp [hfirst, hrest]

end Steps

/-! ### Written values -/

theorem skipBlank_quoted (style : Style) (s : String) (rest : List Char) :
    skipBlank (quoted style s ++ rest) =
      '"' :: (s.toList.flatMap (escapeChar style.escapeMarkup) ++ '"' :: rest) := by
  rw [quoted, List.cons_append, List.append_assoc, skipBlank_of_mem (by decide)]
  rfl

/-- A member is a key between quotes, a colon and a value. -/
theorem member?_write {style : Style} {k : String} {j : Json} {fuel room level : Nat} {cs rest : List Char}
    (h : value? fuel room cs = some (j, rest)) :
    member? (fuel + 1) room (style.newline level ++ (quoted style k ++ (style.colon ++ cs))) =
      some ((k, j), rest) := by
  have hkey : skipBlank (style.newline level ++ (quoted style k ++ (style.colon ++ cs))) =
      '"' :: (k.toList.flatMap (escapeChar style.escapeMarkup) ++ '"' :: (style.colon ++ cs)) := by
    rw [skipBlank_newline, skipBlank_quoted]
  obtain ⟨tail, hcolon, hvalue⟩ : ∃ tail, style.colon ++ cs = ':' :: tail ∧
      value? fuel room tail = some (j, rest) := by
    unfold Style.colon
    split
    · refine ⟨' ' :: cs, rfl, ?_⟩
      cases fuel with
      | zero => simp [value?] at h
      | succ fuel => exact h
    · exact ⟨cs, rfl, h⟩
  refine member?_ok hkey (stringBody_quoted _ _ _) ?_ hvalue
  rw [hcolon, skipBlank_of_mem (by decide)]

mutual

/-- A written value is taken off the front of a text. -/
theorem value?_write (style : Style) (level : Nat) : (j : Json) → j.Numberless → ∀ fuel room rest,
    (write style level j).length ≤ fuel → j.depth ≤ room →
      value? fuel room (write style level j ++ rest) = some (j, rest)
  | j, hj, 0, room, rest, hfuel, _ => by
    obtain ⟨c, -, cs, hwrite⟩ := exists_write hj style level
    rw [hwrite] at hfuel
    cases hfuel
  | .null, _, fuel + 1, room, rest, _, _ => by
    rw [write]
    rfl
  | .bool true, _, fuel + 1, room, rest, _, _ => by
    rw [write]
    rfl
  | .bool false, _, fuel + 1, room, rest, _, _ => by
    rw [write]
    rfl
  | .string s, _, fuel + 1, room, rest, _, _ => by
    rw [write]
    exact value?_string (skipBlank_quoted _ _ _) (stringBody_quoted _ _ _)
  | .array js, _, fuel + 1, 0, rest, _, hroom => by
    rw [depth] at hroom
    cases hroom
  | .array [], _, fuel + 1, room + 1, rest, _, _ => by
    rw [write]
    rfl
  | .array (j :: js), .array hitems, fuel + 1, room + 1, rest, hfuel, hroom => by
    rw [List.forall_mem_cons] at hitems
    rw [depth, depthOfItems] at hroom
    obtain ⟨hroom, hroom'⟩ := Nat.max_le.mp (Nat.le_of_succ_le_succ hroom)
    rw [write] at hfuel ⊢
    simp only [List.length_cons, List.length_append, List.length_nil] at hfuel
    have hfirst := value?_write style (level + 1) j hitems.1 fuel room
      (writeItems style (level + 1) js ++ (style.newline level ++ ']' :: rest)) (by omega) hroom
    have hrest := items?_writeItems style level js hitems.2 fuel room rest (by omega) hroom'
    rw [← value?_newline style (level + 1)] at hfirst
    simp only [List.cons_append, List.append_assoc, List.nil_append]
    refine value?_items (skipBlank_of_mem (by decide) _) ?_ hfirst hrest
    obtain ⟨c, hc, cs, hwrite⟩ := exists_write hitems.1 style (level + 1)
    intro tail
    rw [skipBlank_newline, hwrite, List.cons_append, skipBlank_of_mem (List.mem_append_left _ hc)]
    rintro ⟨⟩
    exact absurd hc (by decide)
  | .object ms, _, fuel + 1, 0, rest, _, hroom => by
    rw [depth] at hroom
    cases hroom
  | .object [], _, fuel + 1, room + 1, rest, _, _ => by
    rw [write]
    rfl
  | .object ((k, j) :: ms), .object hmembers, fuel + 1, room + 1, rest, hfuel, hroom => by
    rw [List.forall_mem_cons] at hmembers
    rw [depth, depthOfMembers] at hroom
    obtain ⟨hroom, hroom'⟩ := Nat.max_le.mp (Nat.le_of_succ_le_succ hroom)
    rw [write] at hfuel ⊢
    simp only [List.length_cons, List.length_append, List.length_nil] at hfuel
    obtain ⟨fuel, rfl⟩ : ∃ n, fuel = n + 1 := Nat.exists_eq_add_one.mpr (by omega)
    have hfirst := value?_write style (level + 1) j hmembers.1 fuel room
      (writeMembers style (level + 1) ms ++ (style.newline level ++ '\x7d' :: rest)) (by omega) hroom
    have hrest := members?_writeMembers style level ms hmembers.2 (fuel + 1) room rest (by omega) hroom'
    simp only [List.cons_append, List.append_assoc, List.nil_append]
    refine value?_members (skipBlank_of_mem (by decide) _) ?_ (member?_write hfirst) hrest
    intro tail
    rw [skipBlank_newline, skipBlank_quoted]
    nofun

theorem items?_writeItems (style : Style) (level : Nat) : (js : List Json) → (∀ j ∈ js, j.Numberless) →
    ∀ fuel room rest, (writeItems style (level + 1) js).length < fuel → depthOfItems js ≤ room →
      items? fuel room (writeItems style (level + 1) js ++ (style.newline level ++ ']' :: rest)) =
        some (js, rest)
  | js, _, 0, room, rest, hfuel, _ => by cases hfuel
  | [], _, fuel + 1, room, rest, _, _ => by
    rw [writeItems, List.nil_append]
    refine items?_end ?_
    rw [skipBlank_newline, skipBlank_of_mem (by decide)]
  | j :: js, hjs, fuel + 1, room, rest, hfuel, hroom => by
    rw [List.forall_mem_cons] at hjs
    rw [depthOfItems] at hroom
    obtain ⟨hroom, hroom'⟩ := Nat.max_le.mp hroom
    rw [writeItems] at hfuel ⊢
    simp only [List.length_cons, List.length_append] at hfuel
    have hfirst := value?_write style (level + 1) j hjs.1 fuel room
      (writeItems style (level + 1) js ++ (style.newline level ++ ']' :: rest)) (by omega) hroom
    rw [← value?_newline style (level + 1)] at hfirst
    simp only [List.cons_append, List.append_assoc]
    exact items?_next (skipBlank_of_mem (by decide) _) hfirst
      (items?_writeItems style level js hjs.2 fuel room rest (by omega) hroom')

theorem members?_writeMembers (style : Style) (level : Nat) : (ms : List (String × Json)) →
    (∀ m ∈ ms, m.2.Numberless) → ∀ fuel room rest, (writeMembers style (level + 1) ms).length < fuel →
      depthOfMembers ms ≤ room →
        members? fuel room (writeMembers style (level + 1) ms ++ (style.newline level ++ '\x7d' :: rest)) =
          some (ms, rest)
  | ms, _, 0, room, rest, hfuel, _ => by cases hfuel
  | [], _, fuel + 1, room, rest, _, _ => by
    rw [writeMembers, List.nil_append]
    refine members?_end ?_
    rw [skipBlank_newline, skipBlank_of_mem (by decide)]
  | (k, j) :: ms, hms, fuel + 1, room, rest, hfuel, hroom => by
    rw [List.forall_mem_cons] at hms
    rw [depthOfMembers] at hroom
    obtain ⟨hroom, hroom'⟩ := Nat.max_le.mp hroom
    rw [writeMembers] at hfuel ⊢
    simp only [List.length_cons, List.length_append] at hfuel
    obtain ⟨fuel, rfl⟩ : ∃ n, fuel = n + 1 := Nat.exists_eq_add_one.mpr (by omega)
    have hfirst := value?_write style (level + 1) j hms.1 fuel room
      (writeMembers style (level + 1) ms ++ (style.newline level ++ '\x7d' :: rest)) (by omega) hroom
    simp only [List.cons_append, List.append_assoc]
    exact members?_next (skipBlank_of_mem (by decide) _) (member?_write hfirst)
      (members?_writeMembers style level ms hms.2 (fuel + 1) room rest (by omega) hroom')

end

/-- A written value that nests deeper than there is room for is rejected. -/
theorem value?_write_of_lt (style : Style) (level : Nat) {j : Json} (hj : j.Numberless) {fuel room : Nat}
    (rest : List Char) (hfuel : (write style level j).length ≤ fuel) (hroom : room < j.depth) :
    value? fuel room (write style level j ++ rest) = none := by
  have hread := value?_write style level j hj fuel j.depth rest hfuel (Nat.le_refl _)
  refine Option.eq_none_iff_forall_ne_some.mpr fun ⟨j', rest'⟩ hj' => ?_
  obtain ⟨hfits, hmore⟩ := (confined_value? fuel _ room j.depth (Nat.le_of_lt hroom) j' rest').mp hj'
  obtain ⟨rfl, -⟩ := Prod.mk.inj (Option.some.inj (hread.symm.trans hmore))
  exact Nat.not_lt_of_le hfits hroom

/-- A document is read as the value that it was written for, unless it nests too deep. -/
theorem parse_render (style : Style) {j : Json} (h : j.Numberless) :
    parse (render style j) = if j.depth ≤ maxDepth then some j else none := by
  unfold parse render
  rw [String.toList_ofList]
  have hlen : (write style 0 j).length ≤ 2 * (write style 0 j ++ ['\n']).length + 2 := by
    rw [List.length_append]
    omega
  split
  · rename_i hroom
    simp only [value?_write style 0 j h _ maxDepth ['\n'] hlen hroom]
    rfl
  · rename_i hroom
    simp only [value?_write_of_lt style 0 h ['\n'] hlen (Nat.lt_of_not_le hroom)]
    rfl

/-! ### Nodes -/

mutual

theorem numberless_ofNode : (n : Node) → (ofNode n).Numberless
  | .mk tag text isGroup children => by
    have hfields : ∀ m ∈ [("type", string tag), ("value", string text), ("is_group", bool isGroup)],
        Numberless m.2 := by
      simp only [List.forall_mem_cons]
      exact ⟨.string tag, .string text, .bool isGroup, by simp⟩
    rw [ofNode]
    cases isGroup with
    | false => exact .object hfields
    | true =>
      refine .object (List.forall_mem_append.mpr ⟨hfields, ?_⟩)
      simpa using Numberless.array (numberless_ofNodes children)

theorem numberless_ofNodes : (ns : List Node) → ∀ j ∈ ofNodes ns, j.Numberless
  | [] => by simp [ofNodes]
  | n :: ns => by
    rw [ofNodes, List.forall_mem_cons]
    exact ⟨numberless_ofNode n, numberless_ofNodes ns⟩

end

mutual

/-- The value of a node stands for the node without the children of leaves. -/
theorem toNode?_ofNode : (n : Node) → toNode? (ofNode n) = some n.stripped
  | .mk tag text false children => rfl
  | .mk tag text true children => by
    have hchildren := toNodes?_ofNodes children
    show ((match toNodes? (ofNodes children) with
      | some nodes => readMembers ⟨tag, text, true, nodes⟩ []
      | none => none).map Fields.toNode) = _
    rw [hchildren]
    rfl

theorem toNodes?_ofNodes : (ns : List Node) → toNodes? (ofNodes ns) = some (Node.strippedAll ns)
  | [] => by rw [ofNodes, toNodes?, Node.strippedAll]
  | n :: ns => by
    rw [ofNodes, toNodes?, toNode?_ofNode n, toNodes?_ofNodes ns]
    rfl

end

end Json

theorem readNode_render (style : Json.Style) (n : Node) :
    readNode .json (Json.render style (Json.ofNode n)) =
      if (Json.ofNode n).depth ≤ Json.maxDepth then .ok n.stripped else .error (.malformed .json) := by
  rw [readNode, Json.parse_render style (Json.numberless_ofNode n)]
  by_cases hdepth : (Json.ofNode n).depth ≤ Json.maxDepth
  · rw [if_pos hdepth, if_pos hdepth, Option.bind_some, Json.toNode?_ofNode]
  · rw [if_neg hdepth, if_neg hdepth, Option.bind_none]

theorem writeNode_json_of_le (pretty : Bool) {n : Node} (h : (Json.ofNode n).depth ≤ Json.maxDepth) :
    writeNode .json pretty n = .ok (Json.render { pretty } (Json.ofNode n)) := by
  rw [writeNode, Json.encode_of_le _ h]
  rfl

theorem exists_writeNode_json_of_lt (pretty : Bool) {n : Node} (h : Json.maxDepth < (Json.ofNode n).depth) :
    ∃ e, writeNode .json pretty n = .error (.tooDeep e) ∧ e.Locates n := by
  obtain ⟨e, he, hlocates⟩ := Json.exists_encode_of_lt { pretty } h
  refine ⟨e, ?_, hlocates⟩
  rw [writeNode, he]
  rfl

/-- A node that is written as JSON is read as it was, but for the children of leaves. -/
theorem readNode_of_writeNode_json {pretty : Bool} {n : Node} {text : String}
    (h : writeNode .json pretty n = .ok text) : readNode .json text = .ok n.stripped := by
  rcases Nat.lt_or_ge Json.maxDepth (Json.ofNode n).depth with hdeep | hdepth
  · obtain ⟨e, he, -⟩ := exists_writeNode_json_of_lt pretty hdeep
    rw [he] at h
    cases h
  · rw [writeNode_json_of_le pretty hdepth] at h
    obtain rfl := Except.ok.inj h
    rw [readNode_render, if_pos hdepth]

/-- **Nodes survive JSON.**  A node whose text nests no deeper than it may is written as a JSON document,
compact or indented, and read back from it without the children of nodes that are no groups.  So a node in
which only groups have children is read as it was, and the nodes of queries are of this kind.  Any other node
is not written, and its text would not be read either. -/
theorem readNode_writeNode_json (pretty : Bool) (n : Node) :
    ((Json.ofNode n).depth ≤ Json.maxDepth → ∃ text, writeNode .json pretty n = .ok text ∧
      readNode .json text = .ok n.stripped ∧ (n.Proper → readNode .json text = .ok n)) ∧
    (Json.maxDepth < (Json.ofNode n).depth →
      (∃ e, writeNode .json pretty n = .error (.tooDeep e) ∧ e.Locates n) ∧
        readNode .json (Json.render { pretty } (Json.ofNode n)) = .error (.malformed .json)) ∧
    ∀ q q' : Query, q.node = .ok (n, q') → n.Proper := by
  refine ⟨fun hdepth => ?_, fun hdeep => ⟨exists_writeNode_json_of_lt pretty hdeep, ?_⟩,
    fun q q' => Query.proper_of_node⟩
  · have hwrite := writeNode_json_of_le pretty hdepth
    have hread := readNode_of_writeNode_json hwrite
    refine ⟨_, hwrite, hread, fun hproper => ?_⟩
    rw [hread, Node.stripped_of_proper n hproper]
  · rw [readNode_render, if_neg (Nat.not_le_of_lt hdeep)]

/-- A group with the given number of groups around it, and nothing else. -/
def Node.nested : Nat → Node
  | 0 => .mk "" "" true []
  | k + 1 => .mk "" "" true [nested k]

theorem depth_ofNode_nested (k : Nat) : (Json.ofNode (.nested k)).depth = 2 * k + 2 := by
  induction k with
  | zero => rfl
  | succ k ih =>
    rw [Node.nested, Json.depth_ofNode_group, Json.ofNodes, Json.ofNodes, Json.depthOfItems, ih]
    simp only [Json.depthOfItems, Nat.max_zero]
    omega

/-- With five thousand groups around it, a group is too much for a document. -/
theorem writeNode_json_nested_eq_error :
    (writeNode .json false (.nested 5000) = .error (.tooDeep { around := 0 }) ∧
      writeNode .json true (.nested 5000) = .error (.tooDeep { around := 0 }) ∧
      readNode .json (Json.render {} (Json.ofNode (.nested 5000))) = .error (.malformed .json)) ∧
    ¬ ∀ (pretty : Bool) (n : Node), ∃ text,
      writeNode .json pretty n = .ok text ∧ readNode .json text = .ok n.stripped := by
  have hinner : Json.encodedDepths [.nested 4999] = .ok 10000 := by
    refine (Json.encodedDepths_eq_ok_iff _).mpr ⟨?_, by decide⟩
    rw [Json.ofNodes, Json.ofNodes, Json.depthOfItems, Json.depthOfItems, depth_ofNode_nested]
    rfl
  have hdeep : Json.encodedDepth (.nested 5000) = .error { around := 0 } :=
    Json.encodedDepth_of_lt hinner (by decide)
  have hwrite : ∀ pretty, writeNode .json pretty (.nested 5000) = .error (.tooDeep { around := 0 }) := by
    intro pretty
    rw [writeNode, Json.encode, hdeep]
    rfl
  refine ⟨⟨hwrite false, hwrite true, ?_⟩, fun hall => ?_⟩
  · rw [readNode_render, depth_ofNode_nested, if_neg (by decide)]
  · obtain ⟨text, htext, -⟩ := hall false (.nested 5000)
    rw [hwrite] at htext
    cases htext

end SqlOutline
