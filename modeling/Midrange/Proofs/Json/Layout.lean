import Midrange.Json.Basic
import Midrange.Proofs.Json.Decode

/-!
# Indented texts are JSON texts

The text that is printed for a value is a JSON text of this value, whatever characters its strings
hold and however deep it is nested.

* `Json.toValue`: the value of the grammar that a printed value stands for.
* `characters_flatMap`: a string is escaped so that it reads as it was.
* `number_toDigits`: a number is printed without leading zeros.
* `writes_layout`: the text of a value, by recursion over the value.
* `isText_pretty_iff`: an indented text is a text of its value and of no other.
-/

namespace Midrange.Json

/-! ## Values -/

mutual

/-- The value that is printed. -/
def toValue : Json → Value
  | .number value => .number value
  | .string text => .string (units text)
  | .array items => .array (toValues items)
  | .object members => .object (toMembers members)

/-- The items of an array that is printed. -/
def toValues : List Json → List Value
  | [] => []
  | item :: rest => toValue item :: toValues rest

/-- The members of an object that is printed. -/
def toMembers : List (List Char × Json) → List (List Nat × Value)
  | [] => []
  | (name, value) :: rest => (units name, toValue value) :: toMembers rest

end

theorem toValues_eq_map (items : List Json) : toValues items = items.map toValue := by
  induction items with
  | nil => rfl
  | cons item rest ih => rw [toValues, List.map_cons, ih]

/-! ## Strings -/

theorem utf16_of_lt {c : Char} (h : c.toNat < 0x80) : utf16 c = [c.toNat] := by
  rw [utf16, if_pos (by omega)]

theorem characters_controlEscape {c : Char} (hc : c.toNat < 0x20) {us : List Nat}
    {text : List Char} (h : Characters us text) :
    Characters (utf16 c ++ us) (controlEscape c ++ text) := by
  have hhigh : c.toNat / 16 < 16 := by omega
  have hlow : c.toNat % 16 < 16 := by omega
  rw [utf16_of_lt (by omega)]
  refine .hex ⟨by simp, ?_, ?_⟩ h
  · simp only [List.forall_mem_cons]
    exact ⟨rfl, rfl, Literal.isDigit_digitChar hhigh le_rfl, Literal.isDigit_digitChar hlow le_rfl,
      by simp⟩
  · have hzero : Text.digitValue '0' = 0 := by decide
    simp only [Literal.positional, List.foldl_cons, List.foldl_nil, hzero,
      Literal.digitValue_digitChar _ hhigh, Literal.digitValue_digitChar _ hlow]
    omega

/-- **A character is escaped so that it reads as it was.** -/
theorem characters_escape (c : Char) {us : List Nat} {text : List Char} (h : Characters us text) :
    Characters (utf16 c ++ us) (escape c ++ text) := by
  have hescape : ∀ letter d, (letter, d) ∈ escapes → c = d →
      Characters (utf16 c ++ us) ('\\' :: letter :: text) := by
    rintro letter d hmem rfl
    have hsmall : ∀ entry ∈ escapes, entry.2.toNat < 0x80 := by decide
    rw [utf16_of_lt (hsmall _ hmem)]
    exact .escape hmem h
  unfold escape
  split_ifs with hquote hbackslash hback htab hfeed hform hreturn hcontrol
  · exact hescape '"' '"' (by decide) hquote
  · exact hescape '\\' '\\' (by decide) hbackslash
  · exact hescape 'b' '\x08' (by decide) hback
  · exact hescape 't' '\t' (by decide) htab
  · exact hescape 'n' '\n' (by decide) hfeed
  · exact hescape 'f' '\x0c' (by decide) hform
  · exact hescape 'r' '\r' (by decide) hreturn
  · exact characters_controlEscape hcontrol h
  · exact .plain (by omega) hquote hbackslash h

theorem characters_flatMap_append (text : List Char) {us : List Nat} {rest : List Char}
    (h : Characters us rest) : Characters (units text ++ us) (text.flatMap escape ++ rest) := by
  induction text with
  | nil => exact h
  | cons c text ih =>
    rw [units, List.flatMap_cons, List.flatMap_cons, List.append_assoc, List.append_assoc]
    exact characters_escape c ih

theorem characters_flatMap (text : List Char) : Characters (units text) (text.flatMap escape) := by
  simpa using characters_flatMap_append text .nil

/-! ## Numbers -/

/-- The digits of a number have no leading zero. -/
theorem head?_toDigits {n : Nat} (h : (Nat.toDigits 10 n).head? = some '0') :
    Nat.toDigits 10 n = ['0'] := by
  induction n using Nat.strongRecOn with
  | ind n ih =>
    by_cases hn : n < 10
    · rw [Nat.toDigits_of_lt_base hn] at h ⊢
      simpa using h
    · have hnumeral : Literal.IsNumeral 10 (n / 10) (Nat.toDigits 10 (n / 10)) :=
        Literal.isNumeral_toDigits (by omega) (by omega) _
      rw [Nat.toDigits_of_base_le (by omega) (by omega),
        List.head?_append_of_ne_nil _ hnumeral.ne_nil] at h
      have hvalue := hnumeral.value
      rw [ih (n / 10) (by omega) h] at hvalue
      have hzero : Literal.positional 10 ['0'] = 0 := by decide
      omega

theorem number_toDigits (n : Nat) : Number n (Nat.toDigits 10 n) := by
  have hnumeral : Literal.IsNumeral 10 n (Nat.toDigits 10 n) :=
    Literal.isNumeral_toDigits (by omega) (by omega) n
  have hsign : Literal.Sign.none ≠ .plus := by simp
  have hwhole : IsWhole (Nat.toDigits 10 n) := ⟨hnumeral.ne_nil, hnumeral.isDigit, head?_toDigits⟩
  have hnumber := Number.mk hsign hwhole .absent .absent
  simpa [hnumeral.value, Literal.Sign.apply, Literal.Sign.text] using hnumber

/-! ## Layout -/

theorem spaces_newline (depth : Nat) : Spaces (newline depth) := by
  intro c hc
  rcases List.mem_cons.1 hc with rfl | hc
  · rfl
  · rw [List.eq_of_mem_replicate hc]
    rfl

theorem spaces_nil : Spaces [] := by
  simp [Spaces]

theorem block_of_ne_nil (opening closing : Char) (depth : Nat) {parts : List (List Char)}
    (h : parts ≠ []) : block opening closing depth parts =
      opening :: (newline (depth + 1) ++ (List.intercalate (',' :: newline (depth + 1)) parts ++
        newline depth) ++ [closing]) := by
  simp [block, h]

theorem layoutItems_ne_nil {depth : Nat} {items : List Json} (h : items ≠ []) :
    layoutItems depth items ≠ [] := by
  obtain ⟨item, rest, rfl⟩ := List.exists_cons_of_ne_nil h
  simp [layoutItems]

theorem layoutMembers_ne_nil {depth : Nat} {members : List (List Char × Json)}
    (h : members ≠ []) : layoutMembers depth members ≠ [] := by
  obtain ⟨⟨name, value⟩, rest, rfl⟩ := List.exists_cons_of_ne_nil h
  simp [layoutMembers]

mutual

/-- **The text of a value is a JSON text of it**, at any depth. -/
theorem writes_layout (depth : Nat) :
    ∀ value : Json, Writes (.value value.toValue) (layout depth value)
  | .number value => .number (number_toDigits value)
  | .string text => .string (characters_flatMap text)
  | .array items => by
    by_cases hitems : items = []
    · subst hitems
      exact .emptyArray spaces_nil
    · have h := writes_layoutItems (depth + 1) (spaces_newline depth) items hitems
      rw [toValue, layout, block_of_ne_nil _ _ _ (layoutItems_ne_nil hitems)]
      exact .array h
  | .object members => by
    by_cases hmembers : members = []
    · subst hmembers
      exact .emptyObject spaces_nil
    · have h := writes_layoutMembers (depth + 1) (spaces_newline depth) members hmembers
      rw [toValue, layout, block_of_ne_nil _ _ _ (layoutMembers_ne_nil hmembers)]
      exact .object h

theorem writes_layoutItems (depth : Nat) {after : List Char} (hafter : Spaces after) :
    ∀ items : List Json, items ≠ [] → Writes (.items (toValues items))
      (newline depth ++
        (List.intercalate (',' :: newline depth) (layoutItems depth items) ++ after))
  | [], hne => absurd rfl hne
  | item :: rest, _ => by
    have hitem := writes_layout depth item
    by_cases hrest : rest = []
    · subst hrest
      rw [layoutItems, layoutItems, List.intercalate_singleton]
      exact .lastItem (.element (spaces_newline depth) hitem hafter)
    · have ih := writes_layoutItems depth hafter rest hrest
      rw [layoutItems, List.intercalate_cons_of_ne_nil (layoutItems_ne_nil hrest)]
      simpa [toValues] using
        Writes.item (.element (spaces_newline depth) hitem spaces_nil) ih

theorem writes_layoutMembers (depth : Nat) {after : List Char} (hafter : Spaces after) :
    ∀ members : List (List Char × Json), members ≠ [] → Writes (.members (toMembers members))
      (newline depth ++
        (List.intercalate (',' :: newline depth) (layoutMembers depth members) ++ after))
  | [], hne => absurd rfl hne
  | (name, value) :: rest, _ => by
    have hname := characters_flatMap name
    have hvalue := writes_layout depth value
    have hspace : Spaces [' '] := by simp [Spaces, isSpace]
    by_cases hrest : rest = []
    · subst hrest
      rw [layoutMembers, layoutMembers, List.intercalate_singleton]
      simpa [toMembers, quoted] using Writes.lastMember (spaces_newline depth) hname spaces_nil
        (.element hspace hvalue hafter)
    · have ih := writes_layoutMembers depth hafter rest hrest
      rw [layoutMembers, List.intercalate_cons_of_ne_nil (layoutMembers_ne_nil hrest)]
      simpa [toMembers, quoted] using Writes.member (spaces_newline depth) hname spaces_nil
        (.element hspace hvalue spaces_nil) ih

end

/-- The indented text of a value is a JSON text of it, and blanks may follow. -/
theorem isText_pretty (value : Json) {after : List Char} (hafter : Spaces after) :
    IsText value.toValue (value.pretty.toList ++ after) := by
  rw [pretty, String.toList_ofList]
  exact .element spaces_nil (writes_layout 0 value) hafter

/-- **An indented text is a text of its value only**, with or without blanks after it. -/
theorem isText_pretty_iff (value : Json) {after : List Char} (hafter : Spaces after) {v : Value} :
    IsText v (value.pretty.toList ++ after) ↔ v = value.toValue := by
  constructor
  · intro h
    exact h.unique (isText_pretty value hafter)
  · rintro rfl
    exact isText_pretty value hafter

end Midrange.Json
