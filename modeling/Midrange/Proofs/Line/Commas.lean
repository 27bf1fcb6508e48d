import Midrange.Proofs.Line.Quotation

/-!
# Commas do not count

A token is looked at only after it was cleaned, and cleaning a token of a line deletes its commas
and nothing else. So operands that differ in commas only are the same operands, and a token of
commas is no operand but an empty literal.

* `withoutCommas token`: the token without its commas. `Line.clean_of_mem_tokens`: this is what is
  left of a token of a line.
* `Literal.read_congr`, `Encoding.encode_congr`: literals and encodings depend on cleaned tokens
  only. `Line.assembleTokens_congr` says it of a line.
* `assemble_commas`: lines whose operands differ in commas.
-/

namespace Midrange

/-- The token without its commas. -/
def withoutCommas (token : List Char) : List Char :=
  token.filter (· != ',')

/-- The warning without the commas of the argument that it quotes. -/
def Warning.withoutCommas : Warning → Warning
  | .originNotNumber argument => .originNotNumber (Midrange.withoutCommas argument)
  | warning => warning

/-! ## Cleaned tokens -/

namespace Literal

theorem clean_clean {token : List Char} (h : ∀ c ∈ token, Text.isBlank c = false) :
    clean (clean token) = clean token := by
  have hblank : ∀ c ∈ clean token, Text.isBlank c = false :=
    fun c hc => h c (mem_of_mem_clean hc)
  rw [Text.clean_eq_filter hblank, Text.clean_eq_filter h, List.filter_filter]
  simp

theorem clean_of_forall_comma {token : List Char} (h : ∀ c ∈ token, c = ',') :
    clean token = [] := by
  have hblank : ∀ c ∈ token, Text.isBlank c = false := by
    intro c hc
    rw [h c hc]
    decide
  rw [Text.clean_eq_filter hblank, List.filter_eq_nil_iff]
  simpa using h

variable {token token' : List Char}

theorem read_congr (h : clean token = clean token') : read token = read token' := by
  rw [read, read, h]

theorem value?_congr (h : clean token = clean token') : value? token = value? token' := by
  rw [value?, value?, read_congr h]

theorem exact_congr (h : clean token = clean token') : exact token = exact token' := by
  rw [exact, exact, read_congr h, h]

end Literal

namespace Encoding

variable {token token' : Option (List Char)}

theorem operand_congr (strictness : Strictness)
    (h : token.map Literal.clean = token'.map Literal.clean) :
    operand strictness token = operand strictness token' := by
  cases token with
  | none =>
    obtain rfl : token' = none := by simpa using h.symm
    rfl
  | some text =>
    obtain ⟨text', rfl, htext⟩ := Option.map_eq_some_iff.1 h.symm
    simp only [operand, literal, Literal.exact_congr htext, Literal.value?_congr htext]

theorem destination_congr (strictness : Strictness)
    (h : token.map Literal.clean = token'.map Literal.clean) :
    destination strictness token = destination strictness token' := by
  cases token with
  | none =>
    obtain rfl : token' = none := by simpa using h.symm
    rfl
  | some text =>
    obtain ⟨text', rfl, htext⟩ := Option.map_eq_some_iff.1 h.symm
    simp only [destination, htext]

/-- **An encoding depends on the cleaned operands only.** -/
theorem encode_congr (strictness : Strictness) (format : Format)
    {operands operands' : List (List Char)}
    (h : operands.map Literal.clean = operands'.map Literal.clean) :
    encode strictness format operands = encode strictness format operands' := by
  have hplace : ∀ place : Nat,
      operands[place]?.map Literal.clean = operands'[place]?.map Literal.clean := by
    intro place
    rw [← List.getElem?_map, h, List.getElem?_map]
  unfold encode
  simp only [operand_congr strictness (hplace 0), operand_congr strictness (hplace 1),
    destination_congr strictness (hplace 1)]

end Encoding

/-! ## Lines -/

namespace Line

variable {strictness : Strictness}

theorem isBlank_of_mem_tokens {line token : List Char} (h : token ∈ tokens line) :
    ∀ c ∈ token, Text.isBlank c = false :=
  fun _ hc => Text.isBlank_of_isSeparator (isSeparator_of_mem_tokens h hc)

/-- **Cleaning a token of a line deletes its commas**, and nothing else. -/
theorem clean_of_mem_tokens {line token : List Char} (h : token ∈ tokens line) :
    Literal.clean token = withoutCommas token :=
  Text.clean_eq_filter (isBlank_of_mem_tokens h)

theorem map_clean_operands {line first : List Char} {rest : List (List Char)}
    (h : tokens line = first :: rest) : rest.map Literal.clean = rest.map withoutCommas := by
  refine List.map_congr_left fun token htoken => ?_
  have hmem : token ∈ tokens line := by
    rw [h]
    exact List.mem_cons_of_mem first htoken
  exact clean_of_mem_tokens hmem

/-- Two lines do the same, and are warned about the same but for commas. -/
def SameButCommas (assembled assembled' : Assembled) : Prop :=
  assembled.outcome = assembled'.outcome ∧
    assembled.warning.map Warning.withoutCommas = assembled'.warning.map Warning.withoutCommas

theorem origin_congr {argument argument' : List Char}
    (hclean : Literal.clean argument = Literal.clean argument')
    (hcommas : withoutCommas argument = withoutCommas argument') :
    SameButCommas (origin strictness argument) (origin strictness argument') := by
  unfold origin
  rw [Literal.exact_congr hclean, Literal.value?_congr hclean]
  split_ifs
  · exact ⟨rfl, rfl⟩
  · cases Literal.value? argument' with
    | some value => exact ⟨rfl, rfl⟩
    | none => exact ⟨rfl, by simp [Warning.withoutCommas, hcommas]⟩

/-- **A line depends on its operands up to commas only.** -/
theorem assembleTokens_congr (first : List Char) {rest rest' : List (List Char)}
    (hclean : rest.map Literal.clean = rest'.map Literal.clean)
    (hcommas : rest.map withoutCommas = rest'.map withoutCommas) :
    SameButCommas (assembleTokens strictness (first :: rest))
      (assembleTokens strictness (first :: rest')) := by
  simp only [assembleTokens]
  cases Head.classify (Text.upper first) with
  | halt | unknown name => exact ⟨rfl, rfl⟩
  | instruction i =>
    simp only [instruction, Encoding.encode_congr strictness i.toFormat hclean]
    exact ⟨rfl, rfl⟩
  | origin =>
    refine origin_congr ?_ ?_
    · cases rest <;> cases rest' <;> simp_all
    · cases rest <;> cases rest' <;> simp_all

theorem assemble_sameButCommas {line line' : List Char}
    (hhead : (tokens line).head? = (tokens line').head?)
    (htail : (tokens line).tail.map withoutCommas = (tokens line').tail.map withoutCommas) :
    SameButCommas (assemble strictness line) (assemble strictness line') := by
  unfold assemble
  cases htokens : tokens line with
  | nil =>
    rw [htokens, List.head?_nil, eq_comm, List.head?_eq_none_iff] at hhead
    rw [hhead]
    exact ⟨rfl, rfl⟩
  | cons first rest =>
    rw [htokens, List.head?_cons, eq_comm, List.head?_eq_some_iff] at hhead
    obtain ⟨rest', htokens'⟩ := hhead
    rw [htokens, htokens', List.tail_cons, List.tail_cons] at htail
    rw [htokens']
    refine assembleTokens_congr first ?_ htail
    rw [map_clean_operands htokens, map_clean_operands htokens', htail]

end Line

/-! ## Tokens of commas -/

section AllCommas

variable {token : List Char} (h : ∀ c ∈ token, c = ',')

include h

theorem Literal.read_of_forall_comma : read token = some ⟨0, true⟩ := by
  rw [read, clean_of_forall_comma h]
  rfl

theorem Encoding.operand_of_forall_comma (strictness : Strictness) :
    operand strictness (some token) = .ok (some 0) := by
  have hread := Literal.read_of_forall_comma h
  simp [operand, literal, Literal.exact, Literal.value?, hread, Except.map]

theorem Line.origin_of_forall_comma (strictness : Strictness) :
    origin strictness token = { outcome := .origin 0 } := by
  have hread := Literal.read_of_forall_comma h
  simp [origin, Literal.exact, Literal.value?, hread]

theorem Encoding.destination_of_forall_comma (strictness : Strictness) :
    destination strictness (some token) =
      if strictness.destination then .error (.invalidDestination []) else .ok (0, none) := by
  have hname : Text.upper (Literal.clean token) = [] := by
    rw [Literal.clean_of_forall_comma h]
    rfl
  have hscan : Literal.scan 10 [] = none := by decide
  simp [destination, hname, hscan]

end AllCommas

open Encoding in
/-- **Operands count only up to commas.** Lines with the same first token and with operands that are
equal without their commas do the same, faults included; only the argument that a warning quotes can
differ, and in commas only. A token of a line holds no blank and no byte-order mark, so that
cleaning it deletes its commas, and deletes nothing when it is done again. A token of commas is the
empty literal: 0 as an operand and as the argument of `ORG`, however strict literals are, and as a
destination 0 or, where destinations are strict, refused as empty. -/
theorem assemble_commas (strictness : Strictness) :
    (∀ line line' : List Char, (Line.tokens line).head? = (Line.tokens line').head? →
      List.Forall₂ (fun token token' => withoutCommas token = withoutCommas token')
        (Line.tokens line).tail (Line.tokens line').tail →
      (Line.assemble strictness line).outcome = (Line.assemble strictness line').outcome ∧
      (Line.assemble strictness line).warning.map Warning.withoutCommas =
        (Line.assemble strictness line').warning.map Warning.withoutCommas) ∧
    (∀ line, ∀ token ∈ Line.tokens line,
      (∀ c ∈ token, Text.isBlank c = false ∧ c ≠ '\uFEFF') ∧
      Literal.clean token = withoutCommas token ∧
      Literal.clean (Literal.clean token) = Literal.clean token) ∧
    ∀ token : List Char, (∀ c ∈ token, c = ',') →
      Literal.exact token = .ok 0 ∧ Literal.value? token = some 0 ∧
      operand strictness (some token) = .ok (some 0) ∧
      Line.origin strictness token = { outcome := .origin 0 } ∧
      destination strictness (some token) =
        if strictness.destination then .error (.invalidDestination []) else .ok (0, none) := by
  refine ⟨fun line line' hhead htail => ?_, fun line token htoken => ⟨fun c hc => ?_, ?_, ?_⟩,
    fun token h => ?_⟩
  · refine Line.assemble_sameButCommas hhead ?_
    rwa [← List.forall₂_eq_eq_eq, List.forall₂_map_left_iff, List.forall₂_map_right_iff]
  · have hsep := Line.isSeparator_of_mem_tokens htoken hc
    simpa [Line.isSeparator] using hsep
  · exact Line.clean_of_mem_tokens htoken
  · exact Literal.clean_clean (Line.isBlank_of_mem_tokens htoken)
  · have hread := Literal.read_of_forall_comma h
    exact ⟨by rw [Literal.exact, hread], by rw [Literal.value?, hread, Option.map_some],
      operand_of_forall_comma h strictness, Line.origin_of_forall_comma h strictness,
      destination_of_forall_comma h strictness⟩

/-- A warning that quotes its argument with a comma, a token with commas at both ends, and a token
of commas under strict literals. -/
theorem assemble_commas_origin :
    (Line.assemble {} "org ,x".toList).outcome = (Line.assemble {} "org x,".toList).outcome ∧
    Literal.clean ",x,".toList = "x".toList ∧
    Encoding.operand .full (some ",,".toList) = .ok (some 0) := by
  have hbefore : Line.tokens "org ,x".toList = ["org".toList, ",x".toList] := by decide
  have hbehind : Line.tokens "org x,".toList = ["org".toList, "x,".toList] := by decide
  refine ⟨((assemble_commas {}).1 _ _ ?_ ?_).1, ?_, ?_⟩
  · rw [hbefore, hbehind]
    rfl
  · rw [hbefore, hbehind]
    exact .cons (by decide) .nil
  · exact ((assemble_commas {}).2.1 "NOP ,x,".toList ",x,".toList (by decide)).2.1
  · have hcommas : ∀ c ∈ ",,".toList, c = ',' := fun c => List.eq_of_mem_replicate (n := 2)
    exact ((assemble_commas .full).2.2 ",,".toList hcommas).2.2.1

/-- A comma may stand within a number, and in place of one. -/
example : Line.assemble .full "BSF 0,x0,C ,".toList = { outcome := .emitted 0x140C } := by
  decide

end Midrange
