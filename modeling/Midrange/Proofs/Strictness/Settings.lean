import Midrange.Proofs.Json.Skip
import Midrange.Strictness.Reader

/-!
# The switches of a settings text

An object gives a switch by a member of its name. What the other members are called and hold, where
they stand and how the text is laid out does not matter.

* `Gives name members switch`: the members give the switch at most once, and as a boolean.
* `Completes given members final`: the invariant of the reader. The switches found so far and those
  that the remaining members give are the final ones. `exists_readMember` is the step over one
  member, `readMembers_eq` the run over all of them.
* `IsSettings given members text`: a text of an object that gives these switches. `ofJson_eq` says
  what is read from it, and `IsSettings.of_perm` that only the members of the switches count.
-/

namespace Midrange.Strictness

open Json

variable {given final : Given} {members members' : List (List Nat × Value)}

/-! ## What members give -/

/-- The values of the members with a name, in their order. -/
def valuesOf (name : List Char) (members : List (List Nat × Value)) : List Value :=
  (members.filter (·.1 = units name)).map Prod.snd

theorem valuesOf_cons_self (name : List Char) (value : Value) :
    valuesOf name ((units name, value) :: members) = value :: valuesOf name members := by
  simp [valuesOf]

theorem valuesOf_cons_of_ne {name other : List Char} (h : other ≠ name) (value : Value) :
    valuesOf name ((units other, value) :: members) = valuesOf name members := by
  simp [valuesOf, units_injective.ne h]

/-- The members give a switch at most once, and as a boolean; `none` is one that they do not
give. -/
def Gives (name : List Char) (members : List (List Nat × Value)) (switch : Option Bool) : Prop :=
  valuesOf name members = switch.toList.map .boolean

/-- What was found before and what the members give is the switch, once. -/
def Settles (name : List Char) (before : Option Bool) (members : List (List Nat × Value))
    (switch : Option Bool) : Prop :=
  before.toList.map .boolean ++ valuesOf name members = switch.toList.map .boolean

theorem Settles.eq_of_nil {name : List Char} {before switch : Option Bool}
    (h : Settles name before [] switch) : before = switch := by
  rw [Settles, valuesOf, List.filter_nil, List.map_nil, List.append_nil] at h
  rcases before with _ | on <;> rcases switch with _ | on' <;> simp_all

theorem Settles.cons_iff_of_ne {name other : List Char} {before switch : Option Bool}
    (hne : other ≠ name) (value : Value) :
    Settles name before ((units other, value) :: members) switch ↔
      Settles name before members switch := by
  rw [Settles, valuesOf_cons_of_ne hne, Settles]

/-- A switch that is given here was not found before, and it is not given again. -/
theorem Settles.of_cons_self {name : List Char} {before switch : Option Bool} {value : Value}
    (h : Settles name before ((units name, value) :: members) switch) :
    before = none ∧ ∃ on, value = .boolean on ∧ Settles name (some on) members switch := by
  rw [Settles, valuesOf_cons_self] at h
  rcases before with _ | on <;> rcases switch with _ | on'
  · simp at h
  · obtain ⟨rfl, hvalues⟩ : value = .boolean on' ∧ valuesOf name members = [] := by simpa using h
    exact ⟨rfl, on', rfl, by simp [Settles, hvalues]⟩
  · simp at h
  · simp at h

/-- What was found before and what the members give are the final switches. -/
structure Completes (given : Given) (members : List (List Nat × Value)) (final : Given) : Prop where
  literals : Settles literalsName given.literals members final.literals
  destination : Settles destinationName given.destination members final.destination

theorem Completes.eq_of_nil (h : Completes given [] final) : given = final := by
  cases given
  cases final
  exact congrArg₂ Given.mk h.literals.eq_of_nil h.destination.eq_of_nil

/-! ## Reading members -/

theorem readSwitch_space {space : List Char} (h : Spaces space) (text : List Char) :
    readSwitch (space ++ text) = readSwitch text := by
  rw [readSwitch, readSwitch, skipSpace_append h]

theorem exists_readSwitch {on : Bool} {text rest : List Char}
    (h : Writes (.element (.boolean on)) text) (hrest : Closes rest) :
    ∃ after, readSwitch (text ++ rest) = .ok (on, after) ∧ skipSpace after = rest := by
  cases h with
  | @element _ before text after hbefore h hafter =>
    have hclosed : skipSpace (after ++ rest) = rest := by
      rw [skipSpace_append hafter, hrest.skipSpace_eq]
    refine ⟨after ++ rest, ?_, hclosed⟩
    rw [List.append_assoc, List.append_assoc, readSwitch_space hbefore]
    cases h <;> simp [readSwitch, skipSpace_cons, isSpace, Json.readWord, Except.map]

theorem destinationName_ne : destinationName ≠ literalsName := by
  decide

/-- **One member.** The reader goes on behind it, and what it has found then is completed by the
members that are left. -/
theorem exists_readMember {name colon text rest : List Char} {value : Value}
    (hcolon : Spaces colon) (h : Writes (.element value) text) (hrest : Closes rest)
    (hfinal : Completes given ((units name, value) :: members) final) :
    ∃ given' after, readMember given name (colon ++ ':' :: (text ++ rest)) = .ok (given', after) ∧
      skipSpace after = rest ∧ Completes given' members final := by
  by_cases hliterals : name = literalsName
  · subst hliterals
    obtain ⟨hnone, on, rfl, hsettles⟩ := hfinal.literals.of_cons_self
    obtain ⟨after, hread, hafter⟩ := exists_readSwitch h hrest
    refine ⟨{ given with literals := some on }, after, ?_, hafter, hsettles, ?_⟩
    · simp [readMember, hnone, skipColon_eq hcolon, hread, bind, Except.bind, pure, Except.pure]
    · exact (Settles.cons_iff_of_ne destinationName_ne.symm _).1 hfinal.destination
  by_cases hdestination : name = destinationName
  · subst hdestination
    obtain ⟨hnone, on, rfl, hsettles⟩ := hfinal.destination.of_cons_self
    obtain ⟨after, hread, hafter⟩ := exists_readSwitch h hrest
    refine ⟨{ given with destination := some on }, after, ?_, hafter, ?_, hsettles⟩
    · simp [readMember, hliterals, hnone, skipColon_eq hcolon, hread, bind, Except.bind, pure,
        Except.pure]
    · exact (Settles.cons_iff_of_ne destinationName_ne _).1 hfinal.literals
  · obtain ⟨after, hskip, hafter⟩ := h.skip_eq hrest
    refine ⟨given, after, ?_, hafter, (Settles.cons_iff_of_ne hliterals _).1 hfinal.literals,
      (Settles.cons_iff_of_ne hdestination _).1 hfinal.destination⟩
    simp [readMember, hliterals, hdestination, skipColon_eq hcolon, hskip, bind, Except.bind, pure,
      Except.pure]

section AfterMember

variable (fuel : Nat) {before name text colon after rest : List Char} (hbefore : Spaces before)
  (hname : Characters (units name) text)

include hbefore hname

theorem readMembers_last (hread : readMember given name colon = .ok (final, after))
    (hafter : skipSpace after = '\x7d' :: rest) :
    readMembers (fuel + 1) given (before ++ '"' :: (text ++ '"' :: colon)) = .ok (final, rest) := by
  simp [readMembers, skipSpace_append_cons hbefore (c := '"') rfl, hname.readString_eq, hread, bind,
    Except.bind, hafter]

theorem readMembers_comma {given' : Given}
    (hread : readMember given name colon = .ok (given', after))
    (hafter : skipSpace after = ',' :: rest) :
    readMembers (fuel + 1) given (before ++ '"' :: (text ++ '"' :: colon)) =
      readMembers fuel given' rest := by
  simp [readMembers, skipSpace_append_cons hbefore (c := '"') rfl, hname.readString_eq, hread, bind,
    Except.bind, hafter]

end AfterMember

/-- **All members.** The reader ends behind the closing brace with the final switches. -/
theorem readMembers_eq {text : List Char} (h : Writes (.members members) text)
    (hnames : ∀ member ∈ members, ∃ name, member.1 = units name)
    (hfinal : Completes given members final) {fuel : Nat} (hfuel : text.length < fuel)
    (rest : List Char) : readMembers fuel given (text ++ '\x7d' :: rest) = .ok (final, rest) := by
  -- The invariant `Completes` is carried from member to member.
  induction members generalizing given text fuel with
  | nil => cases h
  | cons member members ih =>
    obtain ⟨us, value⟩ := member
    obtain ⟨⟨name, rfl⟩, hmembers⟩ := List.forall_mem_cons.1 hnames
    cases fuel with
    | zero => omega
    | succ fuel =>
      cases h with
      | @lastMember _ _ before nameText colon text hbefore hname hcolon h =>
        have hcloses : Closes ('\x7d' :: rest) := closes_cons (by simp) rest
        obtain ⟨given', after, hread, hafter, hcompletes⟩ :=
          exists_readMember hcolon h hcloses hfinal
        have hlast := readMembers_last fuel hbefore hname hread hafter
        rw [hcompletes.eq_of_nil] at hlast
        simpa using hlast
      | @member _ _ _ before nameText colon text rest' hbefore hname hcolon h hrest =>
        have hcloses : Closes (',' :: (rest' ++ '\x7d' :: rest)) := closes_cons (by simp) _
        obtain ⟨given', after, hread, hafter, hcompletes⟩ :=
          exists_readMember hcolon h hcloses hfinal
        have hshorter : rest'.length < fuel := by
          simp only [List.length_append, List.length_cons] at hfuel
          omega
        have hcomma := readMembers_comma fuel hbefore hname hread hafter
        rw [ih hrest hmembers hcompletes hshorter] at hcomma
        simpa using hcomma

/-! ## Reading texts -/

/-- A text of an object whose names are texts: no surrogate stands alone in them. -/
structure IsObject (members : List (List Nat × Value)) (text : List Char) : Prop where
  isText : IsText (.object members) text
  names : ∀ member ∈ members, ∃ name, member.1 = units name

/-- A text of an object that gives each switch at most once and as a boolean, among any other
members. -/
structure IsSettings (given : Given) (members : List (List Nat × Value)) (text : List Char) : Prop
    extends IsObject members text where
  literals : Gives literalsName members given.literals
  destination : Gives destinationName members given.destination

theorem IsSettings.completes {text : List Char} (h : IsSettings given members text) :
    Completes {} members given :=
  ⟨h.literals, h.destination⟩

theorem readGiven_space {space : List Char} (h : Spaces space) (text : List Char) :
    readGiven (space ++ text) = readGiven text := by
  rw [readGiven, readGiven, skipSpace_append h]

theorem readObject_of_members {text : List Char} (h : ∃ tail, skipSpace text = '"' :: tail) :
    readObject text = readMembers (text.length + 1) {} text := by
  obtain ⟨tail, hskip⟩ := h
  simp [readObject, hskip]

/-- The switches are read from the start of the text, up to the closing brace. -/
theorem readGiven_object {text : List Char} (h : Writes (.value (.object members)) text)
    (hnames : ∀ member ∈ members, ∃ name, member.1 = units name)
    (hfinal : Completes {} members final) (rest : List Char) :
    readGiven (text ++ rest) = .ok (final, rest) := by
  cases h with
  | @emptyObject space hspace =>
    have hskip : skipSpace (space ++ '\x7d' :: rest) = '\x7d' :: rest :=
      skipSpace_append_cons hspace rfl rest
    simp [readGiven, skipSpace_cons, isSpace, readObject, hskip, ← hfinal.eq_of_nil]
  | @object _ text h =>
    have hopen : readGiven ('\x7b' :: (text ++ '\x7d' :: rest)) =
        readObject (text ++ '\x7d' :: rest) := by
      simp [readGiven, skipSpace_cons, isSpace]
    rw [List.cons_append, List.append_assoc, List.singleton_append, hopen,
      readObject_of_members (h.skipSpace_members _)]
    have hfuel : text.length < (text ++ '\x7d' :: rest).length + 1 := by
      rw [List.length_append]
      omega
    exact readMembers_eq h hnames hfinal hfuel rest

/-- **What a settings text gives is read from it**, and a switch that it does not give is off. -/
theorem ofJson_eq {text : List Char} (h : IsSettings given members text) :
    ofJson text = .ok given.strictness := by
  have hnames := h.names
  have hcompletes := h.completes
  cases h.isText with
  | @element _ before text after hbefore hobject hafter =>
    have hblank : skipSpace after = [] := by
      simpa [skipSpace] using skipSpace_append hafter []
    have hread : readGiven (before ++ (text ++ after)) = .ok (given, after) := by
      rw [readGiven_space hbefore]
      exact readGiven_object hobject hnames hcompletes after
    simp [ofJson, hread, hblank, bind, Except.bind, pure, Except.pure]

/-! ## Members that do not count -/

/-- Whether a member has the name of a switch. -/
def isSwitch (member : List Nat × Value) : Bool :=
  member.1 = units literalsName || member.1 = units destinationName

theorem valuesOf_filter_isSwitch (members : List (List Nat × Value)) {name : List Char}
    (h : name = literalsName ∨ name = destinationName) :
    valuesOf name (members.filter isSwitch) = valuesOf name members := by
  rw [valuesOf, List.filter_filter]
  congr 1
  refine List.filter_congr fun member _ => ?_
  rcases h with rfl | rfl <;> simp +contextual [isSwitch]

/-- A list of at most one value has no other order. -/
theorem Gives.of_perm {name : List Char} {switch : Option Bool} (h : Gives name members switch)
    (hname : name = literalsName ∨ name = destinationName)
    (hperm : (members'.filter isSwitch).Perm (members.filter isSwitch)) :
    Gives name members' switch := by
  have hvalues : (valuesOf name members').Perm (switch.toList.map .boolean) := by
    rw [← h, ← valuesOf_filter_isSwitch members hname, ← valuesOf_filter_isSwitch members' hname]
    exact (hperm.filter _).map _
  cases switch with
  | none => exact hvalues.eq_nil
  | some on => exact List.perm_singleton.1 hvalues

/-- **Only the members of the switches count**, in any order. -/
theorem IsSettings.of_perm {text text' : List Char} (h : IsSettings given members text)
    (h' : IsObject members' text')
    (hperm : (members'.filter isSwitch).Perm (members.filter isSwitch)) :
    IsSettings given members' text' :=
  ⟨h', h.literals.of_perm (.inl rfl) hperm, h.destination.of_perm (.inr rfl) hperm⟩

end Midrange.Strictness
