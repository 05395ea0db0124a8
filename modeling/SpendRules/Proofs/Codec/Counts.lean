import SpendRules.Proofs.Codec.Lawful
import SpendRules.Proofs.Codec.Operation

namespace SpendRules

open Sequencing

/-!
# Announced counts and the bytes behind them

The count in front of a list can be any machine word, whatever bytes follow it.  What
keeps reading from being led astray is that every item takes a least number of bytes.
So there cannot be more items than this number allows, and the first item for which
there are no bytes ends the list.

How much work that is stands in the account beside the cursor.  Nothing depends on the
account, so without it the read is that of the format itself.  Space is never set aside for
more than there can be, whatever comes of the list.
-/

variable {α β : Type}

namespace Read

/-! ## Reads that run short -/

/-- From a usable cursor, the read fails only for want of bytes. -/
def OnlyRunsShort (read : Read α) : Prop :=
  forall position data failure after,
    read { position := position, rest := data, valid := true } = .error failure after ->
      failure = .exhausted

theorem IsAtomic.onlyRunsShort {read : Read α} (atomic : read.IsAtomic) : read.OnlyRunsShort :=
  fun position data failure after failed => (atomic position data failure after failed).1

theorem BeginsWithLength.onlyRunsShort {read : Read α} (begins : read.BeginsWithLength) :
    read.OnlyRunsShort :=
  fun position data failure after failed => (begins.stops position data failure after failed).1

namespace OnlyRunsShort

theorem pure (value : α) : OnlyRunsShort (Pure.pure value : Read α) := by
  intro position data failure after failed
  cases failed

/-- A read that recognizes something leaves a usable cursor for the next one. -/
theorem bind {read : Read α} {next : α -> Read β} {spelling : Spelling α}
    (short : read.OnlyRunsShort) (recognizes : read.Recognizes spelling)
    (nextShort : forall value, (next value).OnlyRunsShort) :
    OnlyRunsShort (read >>= next) := by
  intro position data failure after failed
  cases result : read { position := position, rest := data, valid := true } with
  | error found middle =>
      rw [bind_of_error result] at failed
      cases failed
      exact short _ _ _ _ result
  | ok value middle =>
      rw [bind_of_ok result] at failed
      rcases (recognizes _ _ _ _).mp result with ⟨taken, rest, _, _, rfl⟩
      exact nextShort value _ _ _ _ failed

end OnlyRunsShort

end Read

/-! ## Lists with an account -/

namespace AccountedRead

/-- The result without the account. -/
def withoutAccount : EStateM.Result CodecError ListAccount α -> EStateM.Result CodecError Cursor α
  | .ok value account => .ok value account.cursor
  | .error failure account => .error failure account.cursor

/-- Without its account, the one read is the other. -/
def Tracks (accounted : AccountedRead α) (read : Read α) : Prop :=
  forall account, withoutAccount (accounted account) = read account.cursor

theorem tracks_accounted (read : Read α) : Tracks read.accounted read := by
  intro account
  rw [Read.accounted]
  cases read account.cursor <;> rfl

/-- A change of the account alone is not seen. -/
theorem Tracks.after_change {accounted : AccountedRead α} {read : Read α}
    (tracks : Tracks accounted read) {change : ListAccount -> ListAccount}
    (unmoved : forall account, (change account).cursor = account.cursor) :
    Tracks (modify change >>= fun _ => accounted) read := by
  intro account
  rw [modify_bind, tracks, unmoved]

theorem Tracks.bind {accounted : AccountedRead α} {read : Read α} {next : α -> AccountedRead β}
    {nextRead : α -> Read β} (tracks : Tracks accounted read)
    (nextTracks : forall value, Tracks (next value) (nextRead value)) :
    Tracks (accounted >>= next) (read >>= nextRead) := by
  intro account
  have same := tracks account
  cases result : accounted account with
  | ok value after =>
      rw [result] at same
      rw [bind_of_ok result, bind_of_ok same.symm]
      exact nextTracks value after
  | error failure after =>
      rw [result] at same
      rw [bind_of_error result, bind_of_error same.symm]
      rfl

end AccountedRead

namespace Format

variable (format : Format α)

private theorem tracks_readOnto (count : Nat) (done : List α) :
    AccountedRead.Tracks (format.readOntoAccounted count done) (format.readOnto count done) := by
  induction count generalizing done with
  | zero => exact fun _ => rfl
  | succ count inductionHypothesis =>
      refine AccountedRead.Tracks.after_change ?_ fun _ => rfl
      exact (AccountedRead.tracks_accounted format.read).bind fun value =>
        inductionHypothesis (value :: done)

/-- The account changes nothing about the list that is read. -/
theorem tracks_readList (least : Nat) :
    AccountedRead.Tracks (format.readListAccounted least) format.list.read :=
  (AccountedRead.tracks_accounted Read.varint).bind fun count =>
    (format.tracks_readOnto count []).after_change fun _ => rfl

variable {format}

/-- From a usable cursor, the read of an item takes at least so many bytes, and leaves a
usable cursor. -/
def TakesAtLeast (format : Format α) (least : Nat) : Prop :=
  forall cursor value after, cursor.valid = true -> format.read cursor = .ok value after ->
    after.valid = true ∧ after.remaining + least ≤ cursor.remaining

/-- No spelling of a value is shorter than what is written for it. -/
theorem Lawful.takesAtLeast {spelling : Spelling α} {writable : α -> Prop}
    (lawful : format.Lawful spelling writable) {least : Nat}
    (written : forall value, least ≤ (format.encode value).length) : format.TakesAtLeast least := by
  rintro ⟨position, data, valid⟩ value after usable read
  cases usable
  rcases (lawful.recognizes _ _ _ _).mp read with ⟨taken, rest, spelled, rfl, rfl⟩
  refine ⟨rfl, ?_⟩
  have enough := Nat.le_trans (written value) (lawful.shortens spelled).length_le
  simp only [Cursor.remaining, List.length_append]
  omega

/-- Space is set aside once, before the first item. -/
private theorem readOnto_reserved (count : Nat) (done : List α) (account : ListAccount) :
    (finalState (format.readOntoAccounted count done) account).reserved = account.reserved := by
  induction count generalizing done account with
  | zero => rfl
  | succ count inductionHypothesis =>
      rw [finalState, readOntoAccounted, modify_bind]
      cases result : format.read account.cursor with
      | error failure cursor => rw [bind_of_error (by rw [Read.accounted, result])]
      | ok value cursor =>
          rw [bind_of_ok (by rw [Read.accounted, result]), ← finalState]
          exact inductionHypothesis (value :: done) _

section

variable {least : Nat} (takes : format.TakesAtLeast least)

include takes

/-- Every item but the last one that is begun has taken its bytes. -/
private theorem readOnto_begins (count : Nat) (done : List α) (account : ListAccount)
    (usable : account.cursor.valid = true) :
    (finalState (format.readOntoAccounted count done) account).begun * least ≤
      (account.begun + 1) * least + account.cursor.remaining := by
  induction count generalizing done account with
  | zero =>
      refine Nat.le_add_right_of_le ?_
      exact Nat.mul_le_mul_right least (Nat.le_succ account.begun)
  | succ count inductionHypothesis =>
      rw [finalState, readOntoAccounted, modify_bind]
      cases result : format.read account.cursor with
      | error failure cursor =>
          rw [bind_of_error (by rw [Read.accounted, result])]
          exact Nat.le_add_right _ _
      | ok value cursor =>
          rcases takes _ _ _ usable result with ⟨stillUsable, taken⟩
          rw [bind_of_ok (by rw [Read.accounted, result]), ← finalState]
          have later := inductionHypothesis (value :: done)
            { account with cursor := cursor, begun := account.begun + 1 } stillUsable
          rw [Nat.succ_mul (account.begun + 1)] at later
          dsimp only at later ⊢
          omega

/-- A list that is read to its end has all its items, and each of them has taken its
bytes. -/
private theorem readOnto_succeeds {count : Nat} {done items : List α} {account after : ListAccount}
    (usable : account.cursor.valid = true)
    (read : format.readOntoAccounted count done account = .ok items after) :
    items.length = done.length + count ∧ count * least ≤ account.cursor.remaining := by
  induction count generalizing done account with
  | zero =>
      cases read
      exact ⟨List.length_reverse, by omega⟩
  | succ count inductionHypothesis =>
      rw [readOntoAccounted, modify_bind] at read
      cases result : format.read account.cursor with
      | error failure cursor =>
          rw [bind_of_error (by rw [Read.accounted, result])] at read
          cases read
      | ok value cursor =>
          rcases takes _ _ _ usable result with ⟨stillUsable, taken⟩
          rw [bind_of_ok (by rw [Read.accounted, result])] at read
          rcases inductionHypothesis stillUsable read with ⟨length_eq, enough⟩
          rw [List.length_cons] at length_eq
          rw [Nat.succ_mul]
          dsimp only at enough
          exact ⟨by omega, by omega⟩

end

/-- What becomes of a list that announces a number of items in front of some bytes, when
each item is known to take a least number of them. -/
structure StaysWithin (format : Format α) (least count : Nat) (cursor behind : Cursor) : Prop where
  /-- The account is one of the read of the list. -/
  tracks : AccountedRead.withoutAccount (format.readListAccounted least { cursor := cursor }) =
    format.list.read cursor
  /-- Whatever comes of the list, space is set aside for no more items than are announced, and
  for no more than there are bytes for. -/
  reserved_le : (finalState (format.readListAccounted least) { cursor := cursor }).reserved ≤
    min count (behind.remaining / least)
  /-- At most one item is begun for which there are no bytes. -/
  begun_le : (finalState (format.readListAccounted least) { cursor := cursor }).begun ≤
    behind.remaining / least + 1
  /-- A list is read only if there are bytes for all the items that it announces.  The space set
  aside is then just what they need. -/
  succeeds : forall items after,
    format.readListAccounted least { cursor := cursor } = .ok items after ->
      count ≤ behind.remaining / least ∧ items.length = count ∧ after.reserved = items.length

/-- Where every item takes its bytes, no count leads a list beyond them. -/
theorem TakesAtLeast.staysWithin {least count : Nat} (takes : format.TakesAtLeast least)
    (positive : 0 < least) {cursor behind : Cursor}
    (announced : Read.varint cursor = .ok count behind) :
    format.StaysWithin least count cursor behind := by
  have usable : behind.valid = true := by
    rcases cursor with ⟨position, data, valid⟩
    cases valid with
    | false => cases announced
    | true =>
        rcases (Read.recognizes_varint _ _ _ _).mp announced with ⟨_, _, _, _, rfl⟩
        rfl
  -- Behind the count, no item has been begun.
  let opened : ListAccount := { cursor := behind, reserved := min count (behind.remaining / least) }
  have started : format.readListAccounted least { cursor := cursor } =
      format.readOntoAccounted count [] opened := by
    rw [readListAccounted, bind_of_ok (by rw [Read.accounted, announced])]
    rfl
  have reserved_eq : (finalState (format.readOntoAccounted count []) opened).reserved =
      opened.reserved := readOnto_reserved count [] opened
  refine ⟨format.tracks_readList least _, ?_, ?_, ?_⟩
  · rw [finalState, started, ← finalState]
    exact Nat.le_of_eq reserved_eq
  · have bounded := readOnto_begins takes count [] opened usable
    rw [finalState, started, ← finalState]
    have opened_begun : opened.begun = 0 := rfl
    have opened_left : opened.cursor.remaining = behind.remaining := rfl
    rw [opened_begun, opened_left] at bounded
    rw [← Nat.add_div_right behind.remaining positive, Nat.le_div_iff_mul_le positive]
    omega
  · intro items after read
    rw [started] at read
    rcases readOnto_succeeds takes usable read with ⟨length_eq, enough⟩
    rw [finalState, read] at reserved_eq
    have fits : count ≤ behind.remaining / least := (Nat.le_div_iff_mul_le positive).mpr enough
    rw [List.length_nil, Nat.zero_add] at length_eq
    refine ⟨fits, length_eq, ?_⟩
    rw [length_eq]
    exact Eq.trans reserved_eq (Nat.min_eq_left fits)

/-- Where reading an item only fails for want of bytes, reading a list does. -/
theorem onlyRunsShort_list {spelling : Spelling α} (short : format.read.OnlyRunsShort)
    (recognizes : format.read.Recognizes spelling) : format.list.read.OnlyRunsShort := by
  have items (count : Nat) (done : List α) : (format.readOnto count done).OnlyRunsShort := by
    induction count generalizing done with
    | zero => exact .pure done.reverse
    | succ count inductionHypothesis =>
        exact short.bind recognizes fun value => inductionHypothesis (value :: done)
  exact Read.isAtomic_varint.onlyRunsShort.bind Read.recognizes_varint fun count => items count []

end Format

end SpendRules
