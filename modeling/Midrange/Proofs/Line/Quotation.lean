import Midrange.Proofs.Literal.Numeral
import Midrange.Proofs.Pass.ClosedForm
import Midrange.Proofs.Text.LetterCase

/-!
# What an error quotes

The text of an error quotes a token of its line, cleaned and perhaps in upper case, and is different
for different faults. A token holds no separator, so the text of an error is one line.

* `Fault.Quotes tokens fault`: the fault quotes one of some tokens, or none. `Line.quotes_of_failed`
  says it of every fault of every line.
* `OnlyFails p x`: the faults with which a result can fail. Such bounds pass through
  `OnlyFails.bind`.
* `not_mem_message`: no message of an error of a program holds a line feed.
* `Fault.message_injective`, `Diagnostic.eq_of_message_eq`: an error is known by its line and its
  message.
-/

namespace Midrange

variable {strictness : Strictness}

/-! ## Quoted tokens -/

/-- The fault quotes one of the given tokens, or nothing. -/
inductive Fault.Quotes (tokens : List (List Char)) : Fault → Prop where
  | mnemonic {token : List Char} (h : token ∈ tokens) :
      Quotes tokens (.unknownMnemonic (Text.upper token))
  | missing : Quotes tokens .missingOperand
  | literal {token : List Char} (h : token ∈ tokens) :
      Quotes tokens (.invalidLiteral (Literal.clean token))
  | destination {token : List Char} (h : token ∈ tokens) :
      Quotes tokens (.invalidDestination (Text.upper (Literal.clean token)))

theorem Fault.Quotes.mono {tokens tokens' : List (List Char)} (hsub : tokens ⊆ tokens')
    {fault : Fault} (h : fault.Quotes tokens) : fault.Quotes tokens' := by
  cases h with
  | mnemonic h => exact .mnemonic (hsub h)
  | missing => exact .missing
  | literal h => exact .literal (hsub h)
  | destination h => exact .destination (hsub h)

/-- Every fault with which a result fails has a property. -/
def OnlyFails {α : Type} (p : Fault → Prop) (x : Except Fault α) : Prop :=
  ∀ fault, x = .error fault → p fault

theorem OnlyFails.ok {α : Type} {p : Fault → Prop} (a : α) : OnlyFails p (.ok a) := by
  intro fault h
  cases h

theorem OnlyFails.error {α : Type} {p : Fault → Prop} {fault : Fault} (h : p fault) :
    OnlyFails p (.error fault : Except Fault α) := by
  rintro _ ⟨⟩
  exact h

theorem OnlyFails.bind {α β : Type} {p : Fault → Prop} {x : Except Fault α}
    {f : α → Except Fault β} (hx : OnlyFails p x) (hf : ∀ a, OnlyFails p (f a)) :
    OnlyFails p (x >>= f) := by
  cases x with
  | error fault => exact .error (hx fault rfl)
  | ok a => exact hf a

theorem Literal.onlyFails_exact (token : List Char) :
    OnlyFails (Fault.Quotes [token]) (exact token) := by
  unfold exact
  split
  · exact .ok _
  · exact .error (.literal (by simp))

namespace Encoding

theorem onlyFails_literal (token : List Char) :
    OnlyFails (Fault.Quotes [token]) (literal strictness token) := by
  unfold literal
  split_ifs
  · intro fault h
    cases hexact : Literal.exact token with
    | ok value => simp [hexact, Except.map] at h
    | error cause =>
      obtain rfl : cause = fault := by simpa [hexact, Except.map] using h
      exact Literal.onlyFails_exact token _ hexact
  · exact .ok _

variable (operands : List (List Char))

theorem onlyFails_operand (place : Nat) :
    OnlyFails (Fault.Quotes operands) (operand strictness operands[place]?) := by
  cases htoken : operands[place]? with
  | none => exact .error .missing
  | some token =>
    have hmem : token ∈ operands := List.mem_of_getElem? htoken
    intro fault h
    exact (onlyFails_literal token fault h).mono (by simpa using hmem)

theorem onlyFails_destination (place : Nat) :
    OnlyFails (Fault.Quotes operands) (destination strictness operands[place]?) := by
  cases htoken : operands[place]? with
  | none => exact .ok _
  | some token =>
    simp only [destination]
    split_ifs
    · exact .ok _
    · exact .ok _
    · exact .error (.destination (List.mem_of_getElem? htoken))
    · cases Literal.scan 10 (Text.upper (Literal.clean token)) <;> exact .ok _

end Encoding

open Encoding in
/-- **An encoding fails with a fault that quotes an operand**, or with a missing one. -/
theorem onlyFails_encode (format : Format) (operands : List (List Char)) :
    OnlyFails (Fault.Quotes operands) (encode strictness format operands) := by
  unfold encode
  cases format.category with
  | inherent => exact .ok _
  | target | literal => exact (onlyFails_operand operands 0).bind fun _ => .ok _
  | bitOriented =>
    exact (onlyFails_operand operands 0).bind fun _ =>
      (onlyFails_operand operands 1).bind fun _ => .ok _
  | byteOriented =>
    refine (onlyFails_operand operands 0).bind fun register => ?_
    dsimp only
    split_ifs
    · exact (onlyFails_destination operands 1).bind fun _ => .ok _
    · exact .ok _

theorem Head.eq_of_classify_unknown {name name' : List Char}
    (h : classify name = .unknown name') : name' = name := by
  unfold classify at h
  split_ifs at h
  split at h
  · cases h
  · simpa using h.symm

namespace Line

theorem exact_of_origin_failed {argument : List Char} {fault : Fault}
    (h : (origin strictness argument).outcome = .failed fault) :
    Literal.exact argument = .error fault := by
  unfold origin at h
  split_ifs at h
  · cases hexact : Literal.exact argument with
    | ok value => simp [hexact] at h
    | error cause => simpa [hexact] using h
  · cases hvalue : Literal.value? argument with
    | some value => simp [hvalue] at h
    | none => simp [hvalue] at h

theorem encode_of_instruction_failed {format : Format} {operands : List (List Char)}
    {fault : Fault} (h : (instruction strictness format operands).outcome = .failed fault) :
    encode strictness format operands = .error fault := by
  unfold instruction at h
  cases hencode : encode strictness format operands with
  | ok encoded => simp [hencode] at h
  | error cause => simpa [hencode] using h

/-- **A line fails with a fault that quotes one of its tokens**, or with a missing one. -/
theorem quotes_of_failed {line : List Char} {fault : Fault}
    (h : (assemble strictness line).outcome = .failed fault) : fault.Quotes (tokens line) := by
  unfold assemble at h
  cases htokens : tokens line with
  | nil => simp [htokens, assembleTokens] at h
  | cons first rest =>
    simp only [htokens, assembleTokens] at h
    cases hhead : Head.classify (Text.upper first) with
    | origin =>
      simp only [hhead] at h
      have hexact := exact_of_origin_failed h
      cases rest with
      | nil => cases hexact
      | cons argument rest =>
        exact (Literal.onlyFails_exact argument fault hexact).mono (by simp)
    | halt => simp [hhead] at h
    | instruction i =>
      simp only [hhead] at h
      exact (onlyFails_encode i.toFormat rest fault (encode_of_instruction_failed h)).mono
        (List.subset_cons_self first rest)
    | unknown name =>
      obtain rfl := Head.eq_of_classify_unknown hhead
      obtain rfl : .unknownMnemonic (Text.upper first) = fault := by simpa [hhead] using h
      exact .mnemonic List.mem_cons_self

/-! ## One line -/

theorem isSeparator_of_mem_tokens {line token : List Char} (h : token ∈ tokens line) {c : Char}
    (hc : c ∈ token) : isSeparator c = false :=
  Text.splitOnP_forall _ token (List.mem_filter.1 h).1 c hc

end Line

theorem Literal.mem_of_mem_clean {token : List Char} {c : Char} (h : c ∈ clean token) :
    c ∈ token := by
  have htrim : c ∈ Text.trim token := (List.mem_filter.1 h).1
  rw [Text.trim, List.mem_reverse] at htrim
  have hback := (List.dropWhile_sublist Text.isBlank).subset htrim
  rw [List.mem_reverse] at hback
  exact (List.dropWhile_sublist Text.isBlank).subset hback

theorem Fault.toList_quoting (what : String) (token : List Char) :
    (quoting what token).toList = what.toList ++ (' ' :: '"' :: (token ++ ['"'])) := by
  simp [quoting]

/-- The message of a fault holds no line feed, if the tokens that it may quote hold none. -/
theorem Fault.Quotes.not_mem_message {tokens : List (List Char)} {fault : Fault}
    (h : fault.Quotes tokens) (htokens : ∀ token ∈ tokens, '\n' ∉ token) :
    '\n' ∉ fault.message.toList := by
  have hupper : ∀ text : List Char, '\n' ∈ Text.upper text ↔ '\n' ∈ text :=
    fun text => Text.mem_upper_iff (by decide)
  cases h with
  | missing => decide
  | @mnemonic token h =>
    have htoken : '\n' ∉ Text.upper token := by
      rw [hupper]
      exact htokens token h
    simp [message, toList_quoting, htoken]
  | @literal token h =>
    have htoken : '\n' ∉ Literal.clean token := mt Literal.mem_of_mem_clean (htokens token h)
    simp [message, toList_quoting, htoken]
  | @destination token h =>
    have htoken : '\n' ∉ Text.upper (Literal.clean token) := by
      rw [hupper]
      exact mt Literal.mem_of_mem_clean (htokens token h)
    simp [message, toList_quoting, htoken]

theorem Diagnostic.toList_message (diagnostic : Diagnostic) :
    diagnostic.message.toList =
      "Línea ".toList ++ (Nat.toDigits 10 diagnostic.line ++
        (':' :: ' ' :: diagnostic.fault.message.toList)) := by
  simp [message]

/-- **The message of an error of a program is one line.** -/
theorem not_mem_message {source : String} {diagnostic : Diagnostic}
    (h : diagnostic ∈ (assemble strictness source).errors) :
    '\n' ∉ diagnostic.message.toList := by
  obtain ⟨line, -, hfailed⟩ := ClosedForm.lineAt_of_mem_errors h
  have hfault : '\n' ∉ diagnostic.fault.message.toList := by
    refine (Line.quotes_of_failed hfailed).not_mem_message fun token htoken hmem => ?_
    exact absurd (Line.isSeparator_of_mem_tokens htoken hmem) (by decide)
  have hnumber : '\n' ∉ Nat.toDigits 10 diagnostic.line :=
    (Literal.isNumeral_toDigits (by omega) (by omega) _).not_mem (by decide)
  simp [Diagnostic.toList_message, hfault, hnumber]

/-! ## Errors by their messages -/

theorem Fault.quoting_injective (what : String) : Function.Injective (quoting what) := by
  intro token token' h
  have htexts := congrArg String.toList h
  rw [toList_quoting, toList_quoting] at htexts
  simpa using htexts

/-- **Different faults have different messages.** -/
theorem Fault.message_injective : Function.Injective message := by
  intro fault fault' h
  -- The first letters of the four texts differ.
  have hhead := congrArg (fun text => text.toList.head?) h
  cases fault with
  | unknownMnemonic name =>
    cases fault' with
    | unknownMnemonic name' => exact congrArg _ (quoting_injective _ h)
    | missingOperand | invalidLiteral | invalidDestination =>
      simp [message, toList_quoting] at hhead
  | missingOperand =>
    cases fault' with
    | missingOperand => rfl
    | unknownMnemonic | invalidLiteral | invalidDestination =>
      simp [message, toList_quoting] at hhead
  | invalidLiteral token =>
    cases fault' with
    | invalidLiteral token' => exact congrArg _ (quoting_injective _ h)
    | unknownMnemonic | missingOperand | invalidDestination =>
      simp [message, toList_quoting] at hhead
  | invalidDestination token =>
    cases fault' with
    | invalidDestination token' => exact congrArg _ (quoting_injective _ h)
    | unknownMnemonic | missingOperand | invalidLiteral =>
      simp [message, toList_quoting] at hhead

/-- An error is known by its line and its message. -/
theorem Diagnostic.eq_of_message_eq {d d' : Diagnostic} (hline : d.line = d'.line)
    (hmessage : d.message = d'.message) : d = d' := by
  have htexts := congrArg String.toList hmessage
  rw [toList_message, toList_message, hline] at htexts
  have hfault : d.fault = d'.fault :=
    Fault.message_injective (String.ext (by simpa using htexts))
  cases d
  cases d'
  simp_all

end Midrange
