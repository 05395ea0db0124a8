import SpendRules.Proofs.Codec.Field
import SpendRules.Proofs.Progress

namespace SpendRules

open Sequencing

/-!
# Reads one after another

A caller may go on reading after a failure, so what has to be known about reads is
known about every sequence of them.  The cursor only moves forward, over the bytes
that were taken, and never behind the data.  A read that fails spends the cursor, and
nothing is read from a spent cursor any more.

Most reads take everything or nothing.  A read that begins with a length takes the
length for itself: when more bytes are announced than are left, it fails behind the
length, and the cursor has moved.
-/

/-- Forward over some bytes, or nowhere. -/
def Cursor.movement : Progress Cursor where
  leads before after := ∃ taken, before.rest = taken ++ after.rest ∧
    after.position = before.position + taken.length
  refl _ := ⟨[], rfl, rfl⟩
  trans := by
    rintro first second third ⟨front, split, moved⟩ ⟨back, splitAgain, movedAgain⟩
    refine ⟨front ++ back, ?_, ?_⟩
    · rw [split, splitAgain, List.append_assoc]
    · rw [movedAgain, moved, List.length_append, Nat.add_assoc]

namespace Read

variable {α β : Type}

/-! ## Reads that take everything or nothing -/

/-- From a usable cursor, the read fails only for want of bytes, and where it began. -/
def IsAtomic (read : Read α) : Prop :=
  forall position data failure after,
    read { position := position, rest := data, valid := true } = .error failure after ->
      failure = .exhausted ∧ after = { position := position, rest := data, valid := false }

theorem IsAtomic.map {read : Read α} (atomic : read.IsAtomic) (function : α -> β) :
    IsAtomic (function <$> read) :=
  fun position data failure after failed =>
    atomic position data failure after (map_eq_error_iff.mp failed)

theorem isAtomic_bytes (count : Nat) : (bytes count).IsAtomic := by
  intro position data failure after failed
  rw [bytes, if_pos rfl] at failed
  split at failed
  · cases failed
  · cases failed
    exact ⟨rfl, rfl⟩

theorem isAtomic_varint : varint.IsAtomic := by
  intro position data failure after failed
  cases data with
  | nil =>
      cases failed
      exact ⟨rfl, rfl⟩
  | cons first rest =>
      rw [varint_cons] at failed
      split at failed
      · cases failed
      · split at failed
        · cases failed
        · cases failed
          exact ⟨rfl, rfl⟩

/-! ## Reads that begin with a length -/

theorem announcedLength_of_varint {cursor middle : Cursor} {count : Nat}
    (read : varint cursor = .ok count middle) :
    announcedLength cursor =
      if count ≤ middle.rest.length then .ok count middle
        else .error .exhausted { middle with valid := false } := by
  refine (bind_of_ok read _).trans ?_
  by_cases enough : count ≤ middle.rest.length
  · rw [if_pos enough]
    exact if_pos (Bytes.hasAtLeast_iff.mpr enough)
  · rw [if_neg enough]
    exact if_neg (mt Bytes.hasAtLeast_iff.mp enough)

/-- In front of some bytes, a length announces more than follows it.  The last argument is the
spelling of this length. -/
def Overreaches (data front : Bytes) : Prop :=
  ∃ count rest, VarInt.Spelled count front ∧ data = front ++ rest ∧ rest.length < count

/-- From a usable cursor, the read fails for want of bytes, either where it began, or behind a
length that announces too much.  It does not get past such a length. -/
structure BeginsWithLength (read : Read α) : Prop where
  stops : forall position data failure after,
    read { position := position, rest := data, valid := true } = .error failure after ->
      failure = .exhausted ∧ (after = { position := position, rest := data, valid := false } ∨
        ∃ front rest, Overreaches data front ∧ data = front ++ rest ∧
          after = { position := position + front.length, rest := rest, valid := false })
  overreaches : forall position data front, Overreaches data front ->
    ∃ rest, data = front ++ rest ∧ read { position := position, rest := data, valid := true } =
      .error .exhausted { position := position + front.length, rest := rest, valid := false }

theorem BeginsWithLength.map {read : Read α} (begins : read.BeginsWithLength) (function : α -> β) :
    BeginsWithLength (function <$> read) where
  stops position data failure after failed :=
    begins.stops position data failure after (map_eq_error_iff.mp failed)
  overreaches := by
    intro position data front overreaches
    rcases begins.overreaches position data front overreaches with ⟨rest, split, failed⟩
    exact ⟨rest, split, map_eq_error_iff.mpr failed⟩

theorem beginsWithLength_announcedLength : announcedLength.BeginsWithLength where
  stops := by
    intro position data failure after failed
    cases result : varint { position := position, rest := data, valid := true } with
    | error found middle =>
        cases (bind_of_error result _).symm.trans failed
        rcases isAtomic_varint _ _ _ _ result with ⟨rfl, rfl⟩
        exact ⟨rfl, Or.inl rfl⟩
    | ok count middle =>
        rcases (recognizes_varint _ _ _ _).mp result with ⟨front, rest, spelled, rfl, rfl⟩
        rw [announcedLength_of_varint result] at failed
        by_cases enough : count ≤ rest.length
        · rw [if_pos enough] at failed
          cases failed
        · rw [if_neg enough] at failed
          cases failed
          exact ⟨rfl, Or.inr
            ⟨front, rest, ⟨count, rest, spelled, rfl, Nat.lt_of_not_le enough⟩, rfl, rfl⟩⟩
  overreaches := by
    rintro position data front ⟨count, rest, spelled, rfl, short⟩
    have read := (recognizes_varint position _ count _).mpr ⟨front, rest, spelled, rfl, rfl⟩
    refine ⟨rest, rfl, ?_⟩
    rw [announcedLength_of_varint read, if_neg (Nat.not_le_of_lt short)]

/-- Behind a length that was announced there are enough bytes, so nothing but the length
can fail to be read. -/
theorem beginsWithLength_prefixedBytes : prefixedBytes.BeginsWithLength where
  stops := by
    intro position data failure after failed
    cases result : announcedLength { position := position, rest := data, valid := true } with
    | error found middle =>
        cases (bind_of_error result _).symm.trans failed
        exact beginsWithLength_announcedLength.stops _ _ _ _ result
    | ok count middle =>
        rcases announcedLength_eq_ok_iff.mp result with ⟨read, enough⟩
        rcases (recognizes_varint _ _ _ _).mp read with ⟨front, rest, spelled, rfl, rfl⟩
        have split : rest = rest.take count ++ rest.drop count :=
          (List.take_append_drop count rest).symm
        have taken := (recognizes_bytes count (position + front.length) rest
          (rest.take count) _).mpr
          ⟨_, _, ⟨rfl, List.length_take_of_le enough⟩, split, rfl⟩
        cases taken.symm.trans ((bind_of_ok result _).symm.trans failed)
  overreaches := by
    intro position data front overreaches
    rcases beginsWithLength_announcedLength.overreaches position data front overreaches with
      ⟨rest, split, failed⟩
    exact ⟨rest, split, bind_of_error failed _⟩

/-! ## Reads as a caller chooses them -/

/-- A read that a caller can choose. -/
inductive Operation where
  /-- A word, a variable-width integer, a number of bytes, or bytes behind their length. -/
  | field (shape : Field.Shape)
  | hash256
  | announcedLength

namespace Operation

/-- What the read gives. -/
def Answer : Operation -> Type
  | .field _ => Field
  | .hash256 => Hash256
  | .announcedLength => Nat

def read : (operation : Operation) -> Read operation.Answer
  | .field shape => Field.read shape
  | .hash256 => Read.hash256
  | .announcedLength => Read.announcedLength

/-- The bytes that the read consumes for an answer. -/
def Consumes : (operation : Operation) -> Spelling operation.Answer
  | .field shape => fun field taken => field.shape = shape ∧ field.Spelled taken
  | .hash256 => fun hash taken => taken = hash.bytes
  | .announcedLength => VarInt.Spelled

/-- The read begins with a length. -/
def isAnnouncing : Operation -> Bool
  | .field .lengthPrefixed | .announcedLength => true
  | .field _ | .hash256 => false

/-- Nothing is read from a spent cursor. -/
theorem read_of_spent (operation : Operation) {cursor : Cursor} (spent : cursor.valid = false) :
    operation.read cursor = .error .invalidCursor cursor := by
  rcases cursor with ⟨position, rest, valid⟩
  cases spent
  cases operation with
  | field shape => cases shape with | _ => rfl
  | hash256 => rfl
  | announcedLength => rfl

theorem exists_consumed_of_read (operation : Operation) {position : Nat} {data : Bytes}
    {value : operation.Answer} {after : Cursor}
    (read : operation.read { position := position, rest := data, valid := true } =
      .ok value after) :
    ∃ taken rest, operation.Consumes value taken ∧ data = taken ++ rest ∧
      after = { position := position + taken.length, rest := rest, valid := true } := by
  cases operation with
  | field shape => exact (Field.recognizes_read shape _ _ _ _).mp read
  | hash256 => exact (recognizes_hash256 _ _ _ _).mp read
  | announcedLength => exact (recognizes_varint _ _ _ _).mp (announcedLength_eq_ok_iff.mp read).1

theorem isAtomic_read {operation : Operation} (whole : operation.isAnnouncing = false) :
    operation.read.IsAtomic := by
  cases operation with
  | hash256 => exact (isAtomic_bytes 32).map _
  | announcedLength => cases whole
  | field shape =>
      cases shape with
      | word order width => exact ((isAtomic_bytes width).map (Bytes.toNat order)).map _
      | varint => exact isAtomic_varint.map _
      | raw count => exact (isAtomic_bytes count).map _
      | lengthPrefixed => cases whole

theorem beginsWithLength_read {operation : Operation} (announcing : operation.isAnnouncing = true) :
    operation.read.BeginsWithLength := by
  cases operation with
  | hash256 => cases announcing
  | announcedLength => exact beginsWithLength_announcedLength
  | field shape =>
      cases shape with
      | lengthPrefixed => exact beginsWithLength_prefixedBytes.map _
      | _ => cases announcing

end Operation

end Read

/-! ## Sequences of reads -/

/-- The cursor after reads one after another, those that failed included. -/
def Cursor.afterReads (cursor : Cursor) (operations : List Read.Operation) : Cursor :=
  operations.foldl (fun cursor operation => finalState operation.read cursor) cursor

namespace Read.Operation

/-- Whether it succeeds or fails, a read moves the cursor over bytes that stand there. -/
theorem moves (operation : Operation) (cursor : Cursor) :
    Cursor.movement.Along operation.read cursor := by
  rcases cursor with ⟨position, data, valid⟩
  cases valid with
  | false =>
      rw [Progress.Along, finalState_of_error (operation.read_of_spent rfl)]
      exact Cursor.movement.refl _
  | true =>
      unfold Progress.Along
      cases result : operation.read { position := position, rest := data, valid := true } with
      | ok value after =>
          rcases operation.exists_consumed_of_read result with ⟨taken, rest, _, rfl, rfl⟩
          rw [finalState_of_ok result]
          exact ⟨taken, rfl, rfl⟩
      | error failure after =>
          rw [finalState_of_error result]
          -- Where a failed read moved, it moved over the length that it begins with.
          cases announcing : operation.isAnnouncing with
          | false =>
              rw [(isAtomic_read announcing _ _ _ _ result).2]
              exact ⟨[], rfl, rfl⟩
          | true =>
              have stopped := ((beginsWithLength_read announcing).stops _ _ _ _ result).2
              rcases stopped with rfl | ⟨front, rest, _, rfl, rfl⟩
              · exact ⟨[], rfl, rfl⟩
              · exact ⟨front, rfl, rfl⟩

end Read.Operation

namespace Cursor

theorem movement_afterReads (cursor : Cursor) (operations : List Read.Operation) :
    movement.leads cursor (cursor.afterReads operations) := by
  induction operations generalizing cursor with
  | nil => exact movement.refl cursor
  | cons operation operations inductionHypothesis =>
      exact movement.trans _ _ _ (operation.moves cursor) (inductionHypothesis _)

/-- Bytes that were taken from the data stand in front of the position. -/
theorem within_of_movement {data : Bytes} {cursor : Cursor}
    (moved : movement.leads (ofBytes data) cursor) :
    cursor.position ≤ data.length ∧ cursor.rest = data.drop cursor.position := by
  rcases moved with ⟨taken, split, position_eq⟩
  change data = taken ++ cursor.rest at split
  change cursor.position = 0 + taken.length at position_eq
  rw [Nat.zero_add] at position_eq
  rw [position_eq, split, List.length_append]
  exact ⟨Nat.le_add_right _ _, List.drop_left.symm⟩

/-- A spent cursor stays as it is. -/
theorem afterReads_of_spent {cursor : Cursor} (spent : cursor.valid = false)
    (operations : List Read.Operation) :
    cursor.afterReads operations = cursor := by
  induction operations with
  | nil => rfl
  | cons operation operations inductionHypothesis =>
      have stays := finalState_of_error (operation.read_of_spent spent)
      rw [afterReads, List.foldl_cons, stays]
      exact inductionHypothesis

end Cursor

namespace Read.Operation

/-- What a read of some data does from a cursor. -/
structure IsOrderly (operation : Operation) (data : Bytes) (cursor : Cursor) : Prop where
  within : cursor.position ≤ data.length ∧ cursor.rest = data.drop cursor.position
  /-- A success advances by exactly the bytes that were consumed. -/
  advances : forall value after, operation.read cursor = .ok value after ->
    ∃ taken, operation.Consumes value taken ∧ cursor.rest = taken ++ after.rest ∧
      after.position = cursor.position + taken.length ∧ after.valid = true
  /-- A failure leaves nothing but further failures. -/
  spends : forall failure after, operation.read cursor = .error failure after ->
    failure = (if cursor.valid then .exhausted else .invalidCursor) ∧ after.valid = false ∧
      forall later next, read next (after.afterReads later) = .error .invalidCursor after
  /-- A failure moves nothing, unless it is found behind a length. -/
  stays : forall failure after, operation.read cursor = .error failure after ->
    (operation.isAnnouncing = true -> cursor.valid = true ->
        forall front, ¬ Overreaches cursor.rest front) ->
      after.position = cursor.position
  /-- A length that announces too much is left behind. -/
  overreaches : operation.isAnnouncing = true -> cursor.valid = true ->
    forall front, Overreaches cursor.rest front ->
    ∃ after, operation.read cursor = .error .exhausted after ∧
      after.position = cursor.position + front.length

private theorem reads_fail_after {after : Cursor} (spent : after.valid = false)
    (later : List Operation) (next : Operation) :
    read next (after.afterReads later) = .error .invalidCursor after := by
  rw [Cursor.afterReads_of_spent spent]
  exact next.read_of_spent spent

section

variable (operation : Operation) {data : Bytes}

private theorem isOrderly_of_spent {cursor : Cursor} (spent : cursor.valid = false)
    (within : cursor.position ≤ data.length ∧ cursor.rest = data.drop cursor.position) :
    operation.IsOrderly data cursor := by
  have refused := operation.read_of_spent spent
  refine ⟨within, ?_, ?_, ?_, ?_⟩
  · intro value after success
    cases refused.symm.trans success
  · intro failure after failed
    cases refused.symm.trans failed
    rw [spent]
    exact ⟨rfl, rfl, reads_fail_after spent⟩
  · intro failure after failed _
    cases refused.symm.trans failed
    rfl
  · intro _ usable
    cases spent.symm.trans usable

private theorem isOrderly_of_usable {position : Nat} {rest : Bytes}
    (within : position ≤ data.length ∧ rest = data.drop position) :
    operation.IsOrderly data { position := position, rest := rest, valid := true } := by
  refine ⟨within, ?_, ?_, ?_, ?_⟩
  · intro value after success
    rcases operation.exists_consumed_of_read success with ⟨taken, left, consumed, split, rfl⟩
    exact ⟨taken, consumed, split, rfl, rfl⟩
  · intro failure after failed
    have stopped : failure = .exhausted ∧ after.valid = false := by
      cases announcing : operation.isAnnouncing with
      | false =>
          rcases isAtomic_read announcing _ _ _ _ failed with ⟨rfl, rfl⟩
          exact ⟨rfl, rfl⟩
      | true =>
          rcases (beginsWithLength_read announcing).stops _ _ _ _ failed with
            ⟨rfl, rfl | ⟨_, _, _, _, rfl⟩⟩
          · exact ⟨rfl, rfl⟩
          · exact ⟨rfl, rfl⟩
    exact ⟨stopped.1, stopped.2, reads_fail_after stopped.2⟩
  · intro failure after failed short
    cases announcing : operation.isAnnouncing with
    | false => rw [(isAtomic_read announcing _ _ _ _ failed).2]
    | true =>
        rcases ((beginsWithLength_read announcing).stops _ _ _ _ failed).2 with
          rfl | ⟨front, _, overreaches, _⟩
        · rfl
        · exact (short announcing rfl front overreaches).elim
  · intro announcing _ front overreaches
    rcases (beginsWithLength_read announcing).overreaches position rest front overreaches with
      ⟨_, _, failed⟩
    exact ⟨_, failed, rfl⟩

end

/-- Reads in any sequence, with failures among them, are orderly. -/
theorem isOrderly_afterReads (data : Bytes) (earlier : List Operation) (operation : Operation) :
    operation.IsOrderly data ((Cursor.ofBytes data).afterReads earlier) := by
  have within := Cursor.within_of_movement ((Cursor.ofBytes data).movement_afterReads earlier)
  cases reached : (Cursor.ofBytes data).afterReads earlier with
  | mk position rest valid =>
      rw [reached] at within
      cases valid with
      | false => exact operation.isOrderly_of_spent rfl within
      | true => exact operation.isOrderly_of_usable within

/-- A length that announces five bytes in front of two is taken, although the read of the
length fails, and so does the read of the bytes behind it. -/
theorem exists_failure_that_moves :
    ¬ forall (data : Bytes) (operation : Operation) (failure : CodecError) (after : Cursor),
      operation.read (Cursor.ofBytes data) = .error failure after ->
      after.position = (Cursor.ofBytes data).position := by
  intro stays
  have moved := stays [5, 1, 2] .announcedLength .exhausted
    { position := 1, rest := [1, 2], valid := false } rfl
  exact absurd moved (by decide)

end Read.Operation

end SpendRules
