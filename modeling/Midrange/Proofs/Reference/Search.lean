import Midrange.Proofs.Reference.Agreement
import Midrange.Proofs.Text.Occurs

/-!
# Searching the catalogue

A search lower-cases both its filter and the mnemonics. Mnemonics are ASCII words without a `K`, so
it finds those that hold the capitals of the filter, and every law of a search follows from this:
the case of ASCII letters does not count, and a longer filter finds less.

A name is looked up in upper case instead, and the two do not agree beyond ASCII. There are four
characters beyond ASCII that a looked-up mnemonic may be spelled with, and a search finds nothing
for any of them.

* `Catalog.search_eq_filter`: what a search finds.
* `Catalog.search_of_flipped`, `Catalog.search_sublist_of_infix`: the two laws.
* `Catalog.mem_search_trim_iff`: which spellings of a found name a search finds too.
* `Reference.matchesText_eq_noMatches_iff`, `Reference.isText_cards_iff`: the two formats of an
  answer.
* `search_narrows`: what is found and what is printed.
-/

namespace Midrange

namespace Catalog

open Instruction (table)

variable {filter filter' name : List Char} {i : Instruction}

/-! ## What is found -/

theorem toNat_lt_of_mem_mnemonic (hi : i ∈ table) : ∀ c ∈ i.mnemonic.toList, c.toNat < 128 := by
  intro c hc
  have hrange := Text.isDigit_iff.1 ((isWord_mnemonic i hi).isDigit c hc)
  omega

theorem not_mem_map_toLower_mnemonic :
    ∀ i ∈ table, 'k' ∉ i.mnemonic.toList.map Char.toLower := by
  decide +kernel

/-- **A search finds the mnemonics that hold the capitals of its filter**, in table order. -/
theorem search_eq_filter (filter : List Char) : search filter =
    table.filter fun i => Text.occursIn (filter.map Char.toUpper) i.mnemonic.toList := by
  refine List.filter_congr fun i hi => ?_
  rw [Bool.eq_iff_iff, Text.occursIn_lower_iff (toNat_lt_of_mem_mnemonic hi)
    (not_mem_map_toLower_mnemonic i hi), map_toUpper_mnemonic i hi, Text.occursIn_iff]

theorem mem_search_iff : i ∈ search filter ↔
    i ∈ table ∧ filter.map Char.toUpper <:+: i.mnemonic.toList := by
  rw [search_eq_filter, List.mem_filter, Text.occursIn_iff]

theorem search_sublist_table (filter : List Char) : (search filter).Sublist table :=
  List.filter_sublist

theorem nodup_search (filter : List Char) : (search filter).Nodup := by
  have htable : table.Nodup := by decide +kernel
  exact htable.sublist (search_sublist_table filter)

/-- **The case of ASCII letters does not count.** -/
theorem search_of_flipped (h : Text.Flipped filter filter') : search filter' = search filter := by
  rw [search_eq_filter, search_eq_filter, Text.flipped_iff.1 h]

/-- **A longer filter finds less.** -/
theorem search_sublist_of_infix (h : filter <:+: filter') :
    (search filter').Sublist (search filter) := by
  rw [search_eq_filter, search_eq_filter]
  apply List.monotone_filter_right
  intro i hi
  rw [Text.occursIn_iff] at hi ⊢
  exact (h.map Char.toUpper).trans hi

/-- A filter that finds something is ASCII. -/
theorem toNat_lt_of_mem_search (h : i ∈ search filter) : ∀ c ∈ filter, c.toNat < 128 := by
  intro c hc
  obtain ⟨hi, hpart⟩ := mem_search_iff.1 h
  apply Text.toNat_lt_of_toUpper
  exact toNat_lt_of_mem_mnemonic hi _ (hpart.subset (List.mem_map_of_mem hc))

/-! ## Names that are found -/

/-- The characters beyond ASCII that a mnemonic can be spelled with when it is looked up. -/
def foreignSpellings : List Char :=
  ['ß', 'ı', 'ſ', 'ﬁ']

theorem upper_trim_of_find (h : find name = some i) :
    Text.upper (Text.trim name) = i.mnemonic.toList := by
  unfold find Instruction.lookup at h
  have hname := List.find?_some h
  exact (beq_iff_eq.1 hname).symm

/-- Of the ASCII upper-case forms with several characters, `SS` and `FI` stand in mnemonics. -/
theorem upperExpansions_mnemonic : ∀ entry ∈ Text.upperExpansions, (∀ code ∈ entry.2, code < 128) →
    ∀ i ∈ table, entry.2.map Char.ofNat <:+: i.mnemonic.toList →
      entry.1 = 'ß'.toNat ∨ entry.1 = 'ﬁ'.toNat := by
  decide +kernel

/-- Two letters beyond ASCII have an ASCII capital: the dotless `i` and the long `s`. -/
theorem upperRuns_ascii : ∀ run ∈ Text.upperRuns, 128 ≤ run.first + run.shift ∨
    run.first = run.last ∧ (run.first = 'ı'.toNat ∨ run.first = 'ſ'.toNat) := by
  decide +kernel

theorem shifted_upperRuns_ascii {c : Char} (hc : 128 ≤ c.toNat)
    (h : (Text.shifted Text.upperRuns c).toNat < 128) : c = 'ı' ∨ c = 'ſ' := by
  cases hrun : Text.upperRuns.find? (·.holds c.toNat) with
  | none =>
    rw [Text.shifted, hrun] at h
    exact absurd h (by simpa using hc)
  | some run =>
    have hmem := List.mem_of_find?_eq_some hrun
    obtain ⟨hfirst, hlast⟩ := Text.upperRuns_bounds run hmem
    have himage := Text.toNat_shifted hrun (by omega) hlast
    rcases upperRuns_ascii run hmem with hbeyond | ⟨hsingle, hletter⟩
    · omega
    · simp only [← Char.toNat_inj]
      omega

/-- **A character beyond ASCII that a mnemonic is spelled with is one of four.** -/
theorem mem_foreignSpellings {c : Char} (hc : 128 ≤ c.toNat) (hi : i ∈ table)
    (h : Text.upperChar c <:+: i.mnemonic.toList) : c ∈ foreignSpellings := by
  rw [Text.upperChar, if_neg (by omega)] at h
  split at h
  · rename_i codes hcodes
    obtain ⟨before, after, htable, -⟩ := List.lookup_eq_some_iff.1 hcodes
    have hentry : (c.toNat, codes) ∈ Text.upperExpansions := by simp [htable]
    have hascii : ∀ code ∈ codes, code < 128 := by
      intro code hcode
      have hlt := toNat_lt_of_mem_mnemonic hi _ (h.subset (List.mem_map_of_mem hcode))
      rwa [Text.toNat_ofNat_of_lt (.inl (Text.upperExpansions_bounds _ hentry code hcode).2)] at hlt
    rcases upperExpansions_mnemonic _ hentry hascii i hi h with hcode | hcode
    · simp [foreignSpellings, Char.toNat_inj.1 hcode]
    · simp [foreignSpellings, Char.toNat_inj.1 hcode]
  · have hmem := h.subset (List.mem_singleton_self _)
    rcases shifted_upperRuns_ascii hc (toNat_lt_of_mem_mnemonic hi _ hmem) with rfl | rfl
    · simp [foreignSpellings]
    · simp [foreignSpellings]

/-- **Which names that are looked up can be searched for.** Of the spellings under which an
instruction is found, a search finds it for the ASCII ones. The others hold one of four characters,
and a search for them finds nothing. -/
theorem mem_search_trim_iff (h : find name = some i) :
    (i ∈ search (Text.trim name) ↔ ∀ c ∈ Text.trim name, c.toNat < 128) ∧
    ∀ c ∈ Text.trim name, 128 ≤ c.toNat →
      c ∈ foreignSpellings ∧ search (Text.trim name) = [] := by
  have hi : i ∈ table := mem_table_of_find h
  have hupper := upper_trim_of_find h
  refine ⟨⟨toNat_lt_of_mem_search, fun hascii => mem_search_iff.2 ⟨hi, ?_⟩⟩, fun c hc hbeyond =>
    ⟨mem_foreignSpellings hbeyond hi ?_, ?_⟩⟩
  · have hcapitals := (Text.upper_eq_map_toUpper hascii).symm.trans hupper
    exact hcapitals ▸ List.infix_rfl
  · rw [← hupper]
    exact List.infix_flatMap_of_mem hc Text.upperChar
  · rw [List.eq_nil_iff_forall_not_mem]
    intro j hj
    have hlt := toNat_lt_of_mem_search hj c hc
    omega

/-- The long `s` is a capital `S` to the one and no letter of a mnemonic to the other. -/
theorem mem_search_trim_iff_sleep : ∃ i, find "ſleep".toList = some i ∧
    i ∉ search (Text.trim "ſleep".toList) ∧ find "\tsLeep ".toList = some i ∧
    i ∈ search (Text.trim "\tsLeep ".toList) := by
  obtain ⟨i, hi⟩ : ∃ i, find "ſleep".toList = some i :=
    Option.isSome_iff_exists.1 (by decide +kernel)
  have hi' : find "\tsLeep ".toList = some i := by
    rw [← hi]
    decide +kernel
  have hascii : (Text.trim "\tsLeep ".toList).all (·.toNat < 128) = true := by decide
  refine ⟨i, hi, fun hmem => ?_, hi', (mem_search_trim_iff hi').1.2 fun c hc =>
    of_decide_eq_true (List.all_eq_true.1 hascii c hc)⟩
  have hlt := (mem_search_trim_iff hi).1.1 hmem 'ſ' (by decide)
  exact absurd hlt (by decide)

/-- Each of the four characters is used in some spelling. -/
example : ∀ name ∈ ["btfß", "ıorwf", "ſleep", "retﬁe"], (find name.toList).isSome = true := by
  decide +kernel

end Catalog

/-! ## Answers -/

namespace Reference

open Catalog
open Json (Value IsText)

/-- **A card is no notice**: it has more than one line. -/
theorem newline_mem_renderCards {cards : List Card} (h : cards ≠ []) :
    '\n' ∈ (renderCards cards).toList := by
  have hcard : ∀ card : Card, '\n' ∈ card.render.toList := by
    intro card
    simp [Card.render]
  obtain ⟨card, rest, rfl⟩ := List.exists_cons_of_ne_nil h
  rw [renderCards, String.toList_intercalate]
  cases rest with
  | nil => simpa using hcard card
  | cons next rest => simp

theorem matchesText_of_ne_nil {cards : List Card} (h : cards ≠ []) :
    matchesText cards = "\n\n".intercalate (cards.map Card.render) := by
  rw [matchesText, if_neg (by simpa using h), renderCards]

/-- **The notice is printed just if there are no cards.** -/
theorem matchesText_eq_noMatches_iff {cards : List Card} :
    matchesText cards = noMatches ↔ cards = [] := by
  constructor
  · intro htext
    by_contra hne
    have hmem := newline_mem_renderCards hne
    rw [renderCards, ← matchesText_of_ne_nil hne, htext] at hmem
    exact absurd hmem (by decide)
  · rintro rfl
    rfl

/-- **The JSON text of cards is a text of the list of their values only.** -/
theorem isText_cards_iff (cards : List Card) {value : Value} :
    IsText value (Json.array (cards.map Card.toJson)).pretty.toList ↔
      value = .array (cards.map Card.datum) := by
  have hdatum : Json.toValue ∘ Card.toJson = Card.datum := funext Card.toValue_toJson
  have htext := Json.isText_pretty_iff (v := value) (Json.array (cards.map Card.toJson))
    Json.spaces_nil
  rwa [List.append_nil, Json.toValue, Json.toValues_eq_map, List.map_map, hdatum] at htext

theorem isText_empty_iff (cards : List Card) :
    IsText (.array []) (Json.array (cards.map Card.toJson)).pretty.toList ↔ cards = [] := by
  rw [isText_cards_iff, Value.array.injEq, eq_comm, List.map_eq_nil_iff]

end Reference

open Catalog Reference in
/-- **The instruction search.** A search gives instructions of the table in table order and none
twice: those whose mnemonic holds the capitals of the filter. To flip the case of ASCII letters of
the filter changes nothing, and to write more around it only narrows the search. What is printed
in the two formats is about the same cards: the JSON text is a text of their list and of nothing
else, the notice is printed just if this list is empty, and otherwise their texts are, in this
order, with a blank line between two of them. -/
theorem search_narrows :
    (∀ filter, (search filter).Sublist Instruction.table ∧ (search filter).Nodup ∧
      ∀ i, i ∈ search filter ↔
        i ∈ Instruction.table ∧ filter.map Char.toUpper <:+: i.mnemonic.toList) ∧
    (∀ filter filter', Text.Flipped filter filter' → search filter' = search filter) ∧
    (∀ filter filter', filter <:+: filter' → (search filter').Sublist (search filter)) ∧
    ∀ filter : String, ∃ cards text json, cards = (search filter.toList).map card ∧
      execute ⟨.search filter, .text⟩ = { stdout := text ++ "\n" } ∧
      execute ⟨.search filter, .json⟩ = { stdout := json ++ "\n" } ∧
      (∀ value, Json.IsText value json.toList ↔ value = .array (cards.map Card.datum)) ∧
      (text = noMatches ↔ Json.IsText (.array []) json.toList) ∧
      (¬Json.IsText (.array []) json.toList →
        text = "\n\n".intercalate (cards.map Card.render)) := by
  refine ⟨fun filter => ⟨search_sublist_table filter, nodup_search filter, fun i => mem_search_iff⟩,
    fun _ _ => search_of_flipped, fun _ _ => search_sublist_of_infix, fun filter =>
    ⟨_, _, _, rfl, rfl, rfl, fun value => isText_cards_iff _, ?_, fun hne => ?_⟩⟩
  · rw [isText_empty_iff]
    exact matchesText_eq_noMatches_iff
  · rw [isText_empty_iff] at hne
    exact matchesText_of_ne_nil hne

open Catalog in
/-- Two filters in different case; and two of which one is part of the other while its lower-case
form is not, because a sigma at the end of a word becomes another letter than one inside. -/
theorem search_narrows_sigma :
    Text.Flipped "bTfS".toList "BtFs".toList ∧
      search "BtFs".toList = search "bTfS".toList ∧
      (search "bTfS".toList).map (·.mnemonic) = ["BTFSC", "BTFSS"] ∧
      "aΣ".toList <:+: "aΣb".toList ∧ ¬Text.lower "aΣ".toList <:+: Text.lower "aΣb".toList ∧
      (search "aΣb".toList).Sublist (search "aΣ".toList) := by
  have hflipped : Text.Flipped "bTfS".toList "BtFs".toList := Text.flipped_iff.2 (by decide)
  have hpart : "aΣ".toList <:+: "aΣb".toList := by decide
  obtain ⟨-, hsame, hnarrow, -⟩ := search_narrows
  exact ⟨hflipped, hsame _ _ hflipped, by decide +kernel, hpart, by decide +kernel,
    hnarrow _ _ hpart⟩

end Midrange
