import SpendRules.Proofs.Codec.VarInt

namespace SpendRules

variable {α : Type}

/-!
# Laws of formats

A format is lawful for a spelling when its read recognizes the spelling, its
encoder writes the shortest spelling of every value that can be written, and
only such values have a spelling at all.  Which values can be written is part
of the statement: a value may be too long to announce its length, or may not be
representable.

What a strict decoding accepts, which values survive being written and read
back, and what happens to a byte string that is decoded and written again then
follow for every format alike.
-/

/-- Read, encoder and spelling of a format fit together.  The last argument
tells which values can be written. -/
structure Format.Lawful (format : Format α) (spelling : Spelling α)
    (writable : α -> Prop) : Prop where
  recognizes : format.read.Recognizes spelling
  spelling_encode : forall {value}, writable value -> spelling value (format.encode value)
  writable_of_spelling : forall {value taken}, spelling value taken -> writable value
  shortens : forall {value taken}, spelling value taken ->
    Bytes.Shortens (format.encode value) taken

namespace Format.Lawful

variable {format : Format α} {spelling : Spelling α} {writable : α -> Prop}

/-- A strict decoding accepts exactly the spellings of a value. -/
theorem decode_eq_ok_iff (lawful : format.Lawful spelling writable) {data : Bytes} {value : α} :
    format.decode data true = .ok value ↔ spelling value data := by
  unfold Format.decode Cursor.ofBytes
  constructor
  · intro decoded
    cases result : format.read { position := 0, rest := data, valid := true } with
    | error failure cursor =>
        rw [result] at decoded
        cases decoded
    | ok found cursor =>
        rw [result] at decoded
        rcases (lawful.recognizes 0 data found cursor).mp result with
          ⟨taken, rest, spelled, rfl, rfl⟩
        cases rest with
        | nil =>
            cases decoded
            rwa [List.append_nil]
        | cons next rest => cases decoded
  · intro spelled
    rw [(lawful.recognizes 0 data value _).mpr
      ⟨data, [], spelled, (List.append_nil data).symm, rfl⟩]
    rfl

/-- Exactly the values that can be written are read back from what is written
for them. -/
theorem decode_encode_iff (lawful : format.Lawful spelling writable) {value : α} :
    format.decode (format.encode value) true = .ok value ↔ writable value :=
  lawful.decode_eq_ok_iff.trans ⟨lawful.writable_of_spelling, lawful.spelling_encode⟩

/-- Of two written values in front of the same bytes, neither goes on where the
other one ends. -/
theorem encode_append_inj (lawful : format.Lawful spelling writable) {value other : α}
    {rest otherRest : Bytes} (fits : writable value) (otherFits : writable other)
    (same : format.encode value ++ rest = format.encode other ++ otherRest) :
    value = other ∧ rest = otherRest :=
  lawful.recognizes.cancel (lawful.spelling_encode fits) (lawful.spelling_encode otherFits) same

/-- What is written for a decoded value is a spelling of it again. -/
theorem spelling_encode_of_spelling (lawful : format.Lawful spelling writable) {value : α}
    {taken : Bytes} (spelled : spelling value taken) : spelling value (format.encode value) :=
  lawful.spelling_encode (lawful.writable_of_spelling spelled)

end Format.Lawful

namespace Spelling

/-- Values one after another. -/
def sequence (spelling : Spelling α) : Spelling (List α)
  | [], taken => taken = []
  | value :: values, taken =>
    ∃ front back, spelling value front ∧ spelling.sequence values back ∧ taken = front ++ back

/-- Each of the values is spelled somewhere. -/
theorem exists_of_mem_sequence {spelling : Spelling α} {values : List α} {taken : Bytes}
    (spelled : spelling.sequence values taken) {value : α} (member : value ∈ values) :
    ∃ front middle back, spelling value middle ∧ taken = front ++ middle ++ back := by
  induction values generalizing taken with
  | nil => cases member
  | cons first values inductionHypothesis =>
      rcases spelled with ⟨front, back, spelled, others, rfl⟩
      rcases List.mem_cons.mp member with rfl | later
      · exact ⟨[], front, back, spelled, rfl⟩
      · rcases inductionHypothesis others later with ⟨before, middle, behind, found, rfl⟩
        exact ⟨front ++ before, middle, behind, found, by simp only [List.append_assoc]⟩

/-- Values one after another, behind a spelling of their number. -/
def list (spelling : Spelling α) : Spelling (List α) := fun values taken =>
  ∃ front back, VarInt.Spelled values.length front ∧ spelling.sequence values back ∧
    taken = front ++ back

end Spelling

namespace Format.Lawful

variable {format : Format α} {spelling : Spelling α} {writable : α -> Prop}

private theorem recognizes_readOnto (lawful : format.Lawful spelling writable) (count : Nat)
    (done : List α) :
    (format.readOnto count done).Recognizes (fun found taken =>
      ∃ values, values.length = count ∧ found = done.reverse ++ values ∧
        spelling.sequence values taken) := by
  induction count generalizing done with
  | zero =>
      refine (Read.recognizes_pure done.reverse).congr ?_
      intro found taken
      constructor
      · rintro ⟨rfl, rfl⟩
        exact ⟨[], rfl, (List.append_nil _).symm, rfl⟩
      · rintro ⟨values, none, rfl, spelled⟩
        rw [List.length_eq_zero_iff] at none
        subst none
        exact ⟨List.append_nil _, spelled⟩
  | succ count inductionHypothesis =>
      have sequenced := lawful.recognizes.bind (fun value => inductionHypothesis (value :: done))
      refine @Read.Recognizes.congr _ (format.readOnto (count + 1) done) _ _ sequenced ?_
      intro found taken
      constructor
      · rintro ⟨value, front, back, first, ⟨values, rfl, rfl, others⟩, rfl⟩
        refine ⟨value :: values, rfl, ?_, front, back, first, others, rfl⟩
        rw [List.reverse_cons, List.append_assoc, List.singleton_append]
      · rintro ⟨values, length_eq, rfl, spelled⟩
        cases values with
        | nil => cases length_eq
        | cons value values =>
            rcases spelled with ⟨front, back, first, others, rfl⟩
            refine ⟨value, front, back, first, ⟨values, Nat.succ.inj length_eq, ?_, others⟩, rfl⟩
            rw [List.reverse_cons, List.append_assoc, List.singleton_append]

private theorem sequence_encode (lawful : format.Lawful spelling writable) {values : List α}
    (all : forall value, value ∈ values -> writable value) :
    spelling.sequence values (values.flatMap format.encode) := by
  induction values with
  | nil => rfl
  | cons value values inductionHypothesis =>
      have first := lawful.spelling_encode (all value List.mem_cons_self)
      have others := inductionHypothesis
        (fun other member => all other (List.mem_cons_of_mem value member))
      exact ⟨_, _, first, others, List.flatMap_cons⟩

private theorem writable_of_sequence (lawful : format.Lawful spelling writable) {values : List α}
    {taken : Bytes} (spelled : spelling.sequence values taken) :
    forall value, value ∈ values -> writable value := by
  induction values generalizing taken with
  | nil =>
      intro value member
      cases member
  | cons first values inductionHypothesis =>
      rcases spelled with ⟨front, back, spelled, others, rfl⟩
      intro value member
      rcases List.mem_cons.mp member with rfl | later
      · exact lawful.writable_of_spelling spelled
      · exact inductionHypothesis others value later

private theorem shortens_sequence (lawful : format.Lawful spelling writable) {values : List α}
    {taken : Bytes} (spelled : spelling.sequence values taken) :
    Bytes.Shortens (values.flatMap format.encode) taken := by
  induction values generalizing taken with
  | nil => exact Bytes.Shortens.of_eq spelled.symm
  | cons value values inductionHypothesis =>
      rcases spelled with ⟨front, back, first, others, rfl⟩
      rw [List.flatMap_cons]
      exact (lawful.shortens first).append (inductionHypothesis others)

/-- The list form of a lawful format is lawful.  A list can be written when
its length can be announced and all its values can be written. -/
theorem list (lawful : format.Lawful spelling writable) :
    format.list.Lawful spelling.list
      (fun values => values.length < 2 ^ 64 ∧ forall value, value ∈ values -> writable value) where
  recognizes := by
    have sequenced := Read.recognizes_varint.bind (fun count => lawful.recognizes_readOnto count [])
    refine @Read.Recognizes.congr _ format.list.read _ _ sequenced ?_
    intro values taken
    constructor
    · rintro ⟨count, front, back, spelled, ⟨_, rfl, rfl, others⟩, rfl⟩
      exact ⟨front, back, spelled, others, rfl⟩
    · rintro ⟨front, back, spelled, others, rfl⟩
      exact ⟨values.length, front, back, spelled, ⟨values, rfl, rfl, others⟩, rfl⟩
  spelling_encode := by
    intro values fits
    exact ⟨_, _, VarInt.spelled_encode fits.1, lawful.sequence_encode fits.2, rfl⟩
  writable_of_spelling := by
    rintro values taken ⟨front, back, spelled, others, rfl⟩
    exact ⟨spelled.lt, lawful.writable_of_sequence others⟩
  shortens := by
    rintro values taken ⟨front, back, spelled, others, rfl⟩
    exact spelled.shortens.append (lawful.shortens_sequence others)

end Format.Lawful

/-! ## Values without a count -/

/-- What is written for a value is not empty, and it says where it ends: of two
written values in front of further bytes, neither goes on where the other one
ends.  The last argument tells which values are meant. -/
structure SelfDelimiting (encode : α -> Bytes) (writable : α -> Prop) : Prop where
  ne_nil : forall {value}, writable value -> encode value ≠ []
  cancel : forall {value other rest otherRest}, writable value -> writable other ->
    encode value ++ rest = encode other ++ otherRest -> value = other ∧ rest = otherRest

namespace SelfDelimiting

variable {encode : α -> Bytes} {writable : α -> Prop}

/-- Values one after another can be told apart without their number. -/
theorem flatMap_eq_iff (delimiting : SelfDelimiting encode writable) {values others : List α}
    (fits : forall value, value ∈ values -> writable value)
    (otherFits : forall other, other ∈ others -> writable other) :
    values.flatMap encode = others.flatMap encode ↔ values = others := by
  refine ⟨?_, congrArg _⟩
  intro same
  induction values generalizing others with
  | nil =>
      cases others with
      | nil => rfl
      | cons other others =>
          rw [List.flatMap_nil, List.flatMap_cons] at same
          have empty := (List.append_eq_nil_iff.mp same.symm).1
          exact (delimiting.ne_nil (otherFits other List.mem_cons_self) empty).elim
  | cons value values inductionHypothesis =>
      have first := fits value List.mem_cons_self
      cases others with
      | nil =>
          rw [List.flatMap_nil, List.flatMap_cons] at same
          exact (delimiting.ne_nil first (List.append_eq_nil_iff.mp same).1).elim
      | cons other others =>
          rw [List.flatMap_cons, List.flatMap_cons] at same
          rcases delimiting.cancel first (otherFits other List.mem_cons_self) same with ⟨rfl, rest⟩
          rw [inductionHypothesis
            (fun later member => fits later (List.mem_cons_of_mem value member))
            (fun later member => otherFits later (List.mem_cons_of_mem value member)) rest]

end SelfDelimiting

/-- A lawful format that writes at least one byte delimits its values. -/
theorem Format.Lawful.selfDelimiting {format : Format α} {spelling : Spelling α}
    {writable : α -> Prop} (lawful : format.Lawful spelling writable)
    (nonempty : forall value, 0 < (format.encode value).length) :
    SelfDelimiting format.encode writable where
  ne_nil _ := List.ne_nil_of_length_pos (nonempty _)
  cancel fits otherFits same := lawful.encode_append_inj fits otherFits same

end SpendRules
