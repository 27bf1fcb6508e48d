import Mathlib.Data.List.Forall2
import Midrange.Listing
import Midrange.Proofs.Literal.Numeral
import Midrange.Proofs.Text.Lines

/-!
# The lines of a listing

A listing loses nothing: the words that it was made of can be read off its lines.

* `IsDigitsOf w text`, `IsLineOf placed text`: four digits of a word, and the line of a placed word,
  said by the value of the digits. `IsLineOf.unique`: a line is the line of one word only.
* `sourceLines_render`: the lines of a listing, header and footer included.
* `render_injective`: different words have different listings.
* `render_lossless`: all of it.
-/

namespace Midrange.Listing

/-! ## The line of a word -/

/-- Four hexadecimal digits with the value of a word. -/
structure IsDigitsOf (w : Word) (text : List Char) : Prop where
  length_eq : text.length = 4
  mem_digits : ∀ c ∈ text, c ∈ "0123456789ABCDEF".toList
  value_eq : Literal.positional 16 text = w.toNat

/-- The line of a placed word: the digits of its address and of its value. -/
inductive IsLineOf (placed : Placed) : List Char → Prop where
  | mk {address value : List Char} (haddress : IsDigitsOf placed.address address)
      (hvalue : IsDigitsOf placed.value value) :
      IsLineOf placed (address ++ [':', ' '] ++ value)

theorem isDigitsOf_upperHex (w : Word) : IsDigitsOf w w.upperHex where
  length_eq := rfl
  mem_digits := by
    have hdigit : ∀ d < 16, d.digitChar.toUpper ∈ "0123456789ABCDEF".toList := by decide
    simp only [Word.upperHex, Word.hex, Word.nibbles, List.map_cons, List.map_nil,
      List.forall_mem_cons]
    refine ⟨?_, ?_, ?_, ?_, by simp⟩ <;> exact hdigit _ (Nat.mod_lt _ (by omega))
  value_eq := by
    rw [← (Literal.isNumeral_hex w).value, Word.upperHex]
    simp only [Literal.positional, List.foldl_map, Text.digitValue_toUpper]

theorem isLineOf_line (placed : Placed) : IsLineOf placed (line placed) :=
  .mk (isDigitsOf_upperHex placed.address) (isDigitsOf_upperHex placed.value)

theorem IsDigitsOf.unique {w w' : Word} {text : List Char} (h : IsDigitsOf w text)
    (h' : IsDigitsOf w' text) : w = w' :=
  BitVec.eq_of_toNat_eq (h.value_eq.symm.trans h'.value_eq)

namespace IsLineOf

variable {placed placed' : Placed} {text : List Char}

theorem length_eq (h : IsLineOf placed text) : text.length = 10 := by
  cases h with
  | mk haddress hvalue => simp [haddress.length_eq, hvalue.length_eq]

/-- **A line is the line of one word only.** -/
theorem unique (h : IsLineOf placed text) (h' : IsLineOf placed' text) : placed = placed' := by
  obtain @⟨address, value, haddress, hvalue⟩ := h
  generalize htext : address ++ [':', ' '] ++ value = text at h'
  obtain @⟨address', value', haddress', hvalue'⟩ := h'
  -- The digits have a fixed length, so both lines are divided at the same places.
  have hlength : address.length = address'.length :=
    haddress.length_eq.trans haddress'.length_eq.symm
  simp only [List.append_assoc] at htext
  obtain ⟨rfl, htail⟩ := List.append_inj htext hlength
  obtain rfl : value = value' := List.append_cancel_left htail
  obtain ⟨place, word⟩ := placed
  obtain ⟨place', word'⟩ := placed'
  obtain rfl : place = place' := haddress.unique haddress'
  obtain rfl : word = word' := hvalue.unique hvalue'
  rfl

theorem not_mem (h : IsLineOf placed text) : '\n' ∉ text := by
  have hfeed : '\n' ∉ "0123456789ABCDEF".toList := by decide
  obtain @⟨address, value, haddress, hvalue⟩ := h
  simp only [List.mem_append, not_or]
  exact ⟨⟨fun h => hfeed (haddress.mem_digits _ h), by decide⟩,
    fun h => hfeed (hvalue.mem_digits _ h)⟩

end IsLineOf

/-! ## The lines of a listing -/

/-- The lines on top of a listing. -/
def headerLines : List String :=
  ["; Código Hexadecimal Generado", "; Formato: DIRECCIÓN: CÓDIGO", ";"]

theorem toList_header : header.toList = (headerLines.map String.toList).flatMap (· ++ ['\n']) := by
  decide

theorem not_mem_of_mem_headerLines : ∀ line ∈ headerLines.map String.toList, '\n' ∉ line := by
  decide

/-- **The lines of a listing**: those of the header, one for each word, an empty one and the
footer. -/
theorem sourceLines_render {words : List Placed} (h : words ≠ []) :
    sourceLines (render words) =
      headerLines.map String.toList ++ words.map line ++ [[], footer.toList] := by
  have hfooter : '\n' ∉ footer.toList := by decide
  have hcharacters : characters words =
      (headerLines.map String.toList ++ words.map line ++ [[]]).flatMap (· ++ ['\n']) ++
        footer.toList := by
    simp [characters, h, toList_header, List.flatMap_map]
  have hlines : ∀ text ∈ headerLines.map String.toList ++ words.map line ++ [[]], '\n' ∉ text := by
    simp only [List.mem_append]
    rintro text ((htext | htext) | htext)
    · exact not_mem_of_mem_headerLines text htext
    · obtain ⟨placed, -, rfl⟩ := List.mem_map.1 htext
      exact (isLineOf_line placed).not_mem
    · simp [List.mem_singleton.1 htext]
  rw [sourceLines, render, String.toList_ofList, hcharacters, splitOn_flatMap_append hlines,
    List.splitOn_eq_singleton hfooter]
  simp

theorem render_eq_empty_iff {words : List Placed} : render words = "" ↔ words = [] := by
  cases words with
  | nil => simp [render, characters]
  | cons placed rest => simp [render, characters]

theorem line_injective : Function.Injective line := by
  intro placed placed' h
  have hline := isLineOf_line placed
  rw [h] at hline
  exact hline.unique (isLineOf_line placed')

/-- **Different words have different listings.** -/
theorem render_injective : Function.Injective render := by
  intro words words' h
  by_cases hwords : words = []
  · subst hwords
    have hempty : render words' = "" := h.symm.trans (render_eq_empty_iff.2 rfl)
    exact (render_eq_empty_iff.1 hempty).symm
  by_cases hwords' : words' = []
  · subst hwords'
    exact absurd (render_eq_empty_iff.1 (h.trans (render_eq_empty_iff.2 rfl))) hwords
  have hlines := congrArg sourceLines h
  rw [sourceLines_render hwords, sourceLines_render hwords'] at hlines
  have hmap : words.map line = words'.map line :=
    List.append_cancel_left (List.append_cancel_right hlines)
  exact line_injective.list_map hmap

/-- **A listing loses nothing.** Different words, in number, order, address or value, have different
listings. The lines of a listing are the three of its header, then one of ten characters for each
word, then an empty one and the footer, after which no line feed stands. Only without words there is
no listing. -/
theorem render_lossless :
    (∀ words words', render words = render words' → words = words') ∧
    (∀ words, words ≠ [] → ∃ lines, List.Forall₂ IsLineOf words lines ∧
      (∀ line ∈ lines, line.length = 10) ∧
      sourceLines (render words) =
        ["; Código Hexadecimal Generado".toList, "; Formato: DIRECCIÓN: CÓDIGO".toList,
          ";".toList] ++ lines ++ [[], "; Fin del programa".toList]) ∧
    ∀ words, render words = "" ↔ words = [] := by
  refine ⟨fun words words' h => render_injective h, fun words h => ⟨words.map line, ?_, ?_, ?_⟩,
    fun words => render_eq_empty_iff⟩
  · rw [List.forall₂_map_right_iff, List.forall₂_same]
    exact fun placed _ => isLineOf_line placed
  · intro text htext
    obtain ⟨placed, -, rfl⟩ := List.mem_map.1 htext
    exact (isLineOf_line placed).length_eq
  · exact sourceLines_render h

/-- A word that is placed twice at the last address is listed twice. -/
theorem render_lossless_repeated :
    (∃ lines, List.Forall₂ IsLineOf [⟨0xFFFF, 0x0AB⟩, ⟨0xFFFF, 0x0AB⟩] lines ∧
      (∀ line ∈ lines, line.length = 10) ∧
      sourceLines (render [⟨0xFFFF, 0x0AB⟩, ⟨0xFFFF, 0x0AB⟩]) =
        ["; Código Hexadecimal Generado".toList, "; Formato: DIRECCIÓN: CÓDIGO".toList,
          ";".toList] ++ lines ++ [[], "; Fin del programa".toList]) ∧
    render [⟨0xFFFF, 0x0AB⟩, ⟨0xFFFF, 0x0AB⟩] ≠ render [⟨0xFFFF, 0x0AB⟩] := by
  obtain ⟨hinjective, hlines, -⟩ := render_lossless
  exact ⟨hlines _ (by simp), fun h => absurd (hinjective _ _ h) (by decide)⟩

/-- Leading zeros are written, and letters are capitals. -/
example : line ⟨0x000A, 0x3FC0⟩ = "000A: 3FC0".toList := by
  decide

end Midrange.Listing
