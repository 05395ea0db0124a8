import SpendRules.Proofs.Codec.Lawful

namespace SpendRules

/-- The cursor with further bytes behind those that are left. -/
def Cursor.followedBy (cursor : Cursor) (more : Bytes) : Cursor :=
  { cursor with rest := cursor.rest ++ more }

/-!
# Reads with more and with fewer bytes

A read takes bytes from the front and looks at nothing behind them.  So with
further bytes it goes on in the same way, unless it has run out of bytes before.
This is said without regard to what the read recognizes, and it holds of all
reads that are put together from the basic ones.

Together with what the read recognizes it settles the fate of a byte string that
was cut off.  If the read stopped there for any other reason than a lack of
bytes, or if it even succeeded, then it would do the same on the whole byte
string, and take no more bytes of it.
-/

namespace Read

variable {α β : Type}

/-- What a read leaves, with further bytes behind it. -/
def resultFollowedBy (result : EStateM.Result CodecError Cursor α) (more : Bytes) :
    EStateM.Result CodecError Cursor α :=
  match result with
  | .ok value after => .ok value (after.followedBy more)
  | .error failure after => .error failure (after.followedBy more)

/-- From every cursor the read runs out of bytes, or further bytes make no
difference to it. -/
def IsSteady (read : Read α) : Prop :=
  forall cursor more, (exists after, read cursor = .error .exhausted after) ∨
    read (cursor.followedBy more) = resultFollowedBy (read cursor) more

namespace IsSteady

theorem pure (value : α) : IsSteady (Pure.pure value : Read α) :=
  fun _ _ => Or.inr rfl

theorem throw (failure : CodecError) : IsSteady (MonadExcept.throw failure : Read α) :=
  fun _ _ => Or.inr rfl

theorem bind {read : Read α} {next : α -> Read β} (steady : read.IsSteady)
    (nextSteady : forall value, (next value).IsSteady) : IsSteady (read >>= next) := by
  intro cursor more
  change (exists after, EStateM.bind read next cursor = .error .exhausted after) ∨
    EStateM.bind read next (cursor.followedBy more) =
      resultFollowedBy (EStateM.bind read next cursor) more
  unfold EStateM.bind
  rcases steady cursor more with ⟨after, spent⟩ | same
  · rw [spent]
    exact Or.inl ⟨after, rfl⟩
  · rw [same]
    cases read cursor with
    | ok value middle => exact nextSteady value middle more
    | error failure after => exact Or.inr rfl

theorem map {read : Read α} (function : α -> β) (steady : read.IsSteady) :
    IsSteady (function <$> read) :=
  steady.bind fun value => .pure (function value)

end IsSteady

/-- A split of a byte string is a split of every longer one. -/
private theorem splitExactly_append {count : Nat} {whole front rest : Bytes} (more : Bytes)
    (split : Bytes.splitExactly? count whole = some (front, rest)) :
    Bytes.splitExactly? count (whole ++ more) = some (front, rest ++ more) := by
  rcases Bytes.splitExactly_eq_some_iff.mp split with ⟨rfl, length_eq⟩
  exact Bytes.splitExactly_eq_some_iff.mpr ⟨List.append_assoc front rest more, length_eq⟩

/-- The read of a number of bytes, from a usable cursor. -/
private theorem bytes_eq (count position : Nat) (data : Bytes) :
    bytes count { position := position, rest := data, valid := true } =
      match Bytes.splitExactly? count data with
      | some (front, rest) =>
          .ok front { position := position + count, rest := rest, valid := true }
      | none => exhausted { position := position, rest := data, valid := true } := rfl

theorem isSteady_bytes (count : Nat) : (bytes count).IsSteady := by
  rintro ⟨position, data, valid⟩ more
  cases valid with
  | false => exact Or.inr rfl
  | true =>
      rw [bytes_eq, Cursor.followedBy, bytes_eq]
      cases split : Bytes.splitExactly? count data with
      | none => exact Or.inl ⟨_, rfl⟩
      | some parts =>
          right
          dsimp only
          rw [splitExactly_append more split]
          rfl

theorem isSteady_varint : varint.IsSteady := by
  rintro ⟨position, data, valid⟩ more
  cases valid with
  | false => exact Or.inr rfl
  | true =>
      cases data with
      | nil => exact Or.inl ⟨_, rfl⟩
      | cons first rest =>
          change (exists after,
              varint { position := position, rest := first :: rest, valid := true } = _) ∨
            varint { position := position, rest := first :: (rest ++ more), valid := true } = _
          rw [varint_cons, varint_cons]
          cases VarInt.payloadWidth? first with
          | none => exact Or.inr rfl
          | some width =>
              dsimp only
              cases split : Bytes.splitExactly? width rest with
              | none => exact Or.inl ⟨_, rfl⟩
              | some parts =>
                  right
                  rw [splitExactly_append more split]
                  rfl

/-- A length is announced in front of enough bytes, or there are too few. -/
theorem isSteady_announcedLength : announcedLength.IsSteady := by
  refine isSteady_varint.bind fun count cursor more => ?_
  by_cases enough : cursor.rest.hasAtLeast count = true
  · right
    have stillEnough : (cursor.followedBy more).rest.hasAtLeast count = true := by
      rw [Bytes.hasAtLeast_iff] at enough ⊢
      rw [Cursor.followedBy, List.length_append]
      exact Nat.le_add_right_of_le enough
    rw [if_pos enough, if_pos stillEnough]
    rfl
  · rw [if_neg enough]
    exact Or.inl ⟨_, rfl⟩

theorem isSteady_prefixedBytes : prefixedBytes.IsSteady :=
  isSteady_announcedLength.bind isSteady_bytes

theorem isSteady_word32 : word32.IsSteady :=
  ((isSteady_bytes 4).map _).map _

theorem isSteady_word64 : word64.IsSteady :=
  ((isSteady_bytes 8).map _).map _

theorem isSteady_hash256 : hash256.IsSteady :=
  (isSteady_bytes 32).map _

end Read

namespace Format

variable {α : Type} {format : Format α}

private theorem isSteady_readOnto (steady : format.read.IsSteady) (count : Nat) (done : List α) :
    (format.readOnto count done).IsSteady := by
  induction count generalizing done with
  | zero => exact .pure done.reverse
  | succ count inductionHypothesis =>
      exact steady.bind fun value => inductionHypothesis (value :: done)

/-- A list of values is read steadily if each of them is. -/
theorem isSteady_list (steady : format.read.IsSteady) : format.list.read.IsSteady :=
  Read.isSteady_varint.bind fun count => isSteady_readOnto steady count []

end Format

/-- What a decoding returns was read. -/
theorem Format.exists_read_of_decode {α : Type} {format : Format α} {data : Bytes} {strict : Bool}
    {value : α} (decoded : format.decode data strict = .ok value) :
    ∃ after, format.read (Cursor.ofBytes data) = .ok value after := by
  unfold Format.decode at decoded
  cases result : format.read (Cursor.ofBytes data) with
  | error failure after =>
      rw [result] at decoded
      cases decoded
  | ok found after =>
      rw [result] at decoded
      rcases Sequencing.refuse_eq_ok_iff.mp decoded with ⟨_, same⟩
      cases same
      exact ⟨after, rfl⟩

/-- What a decoding returns stands in front of the data. -/
theorem Format.exists_spelling_of_decode {α : Type} {format : Format α} {spelling : Spelling α}
    {data : Bytes} {strict : Bool} {value : α} (recognizes : format.read.Recognizes spelling)
    (decoded : format.decode data strict = .ok value) :
    ∃ taken rest, spelling value taken ∧ data = taken ++ rest := by
  rcases exists_read_of_decode decoded with ⟨after, read⟩
  rcases (recognizes 0 data value after).mp read with ⟨taken, rest, spelled, same, _⟩
  exact ⟨taken, rest, spelled, same⟩

namespace Format.Lawful

variable {α : Type} {format : Format α} {spelling : Spelling α} {writable : α -> Prop}
  {data : Bytes} {value : α}
  {after : Cursor}

/-- A read moves the cursor behind the bytes that it took. -/
theorem position_le (lawful : format.Lawful spelling writable)
    (read : format.read (Cursor.ofBytes data) = .ok value after) :
    after.position ≤ data.length := by
  rcases (lawful.recognizes 0 data value after).mp read with ⟨taken, rest, _, rfl, rfl⟩
  rw [List.length_append, Nat.zero_add]
  exact Nat.le_add_right _ _

/-- What was read from some data is read from every byte string with the same
bytes in front.  What stands behind them is only counted. -/
theorem decode_of_front (lawful : format.Lawful spelling writable)
    (read : format.read (Cursor.ofBytes data) = .ok value after) {other : Bytes}
    (front : data.take after.position <+: other) :
    format.decode other false = .ok value ∧
      format.decode other true = if other.length = after.position then .ok value
        else .error (.trailingBytes (other.length - after.position)) := by
  rcases (lawful.recognizes 0 data value after).mp read with ⟨taken, rest, spelled, rfl, rfl⟩
  rw [Nat.zero_add, List.take_left] at front
  rcases front with ⟨otherRest, rfl⟩
  have otherRead := (lawful.recognizes 0 (taken ++ otherRest) value _).mpr
    ⟨taken, otherRest, spelled, rfl, rfl⟩
  unfold Format.decode Cursor.ofBytes
  rw [otherRead]
  refine ⟨rfl, ?_⟩
  cases otherRest with
  | nil =>
      rw [List.append_nil, if_pos (Nat.zero_add _).symm]
      rfl
  | cons next otherRest =>
      have left : (taken ++ next :: otherRest).length - (0 + taken.length) =
          (next :: otherRest).length := by
        rw [List.length_append, Nat.zero_add, Nat.add_sub_cancel_left]
      have longer : (taken ++ next :: otherRest).length ≠ 0 + taken.length := by
        rw [List.length_append, List.length_cons]
        omega
      rw [if_neg longer, left]
      rfl

/-- Nothing is read from a part of the bytes that were taken, and the only
complaint is that they end. -/
theorem decode_of_short (lawful : format.Lawful spelling writable) (steady : format.read.IsSteady)
    (read : format.read (Cursor.ofBytes data) = .ok value after) {short : Bytes}
    (front : short <+: data) (shorter : short.length < after.position) (strict : Bool) :
    format.decode short strict = .error .exhausted := by
  rcases front with ⟨more, rfl⟩
  have whole : (Cursor.ofBytes short).followedBy more = Cursor.ofBytes (short ++ more) := rfl
  unfold Format.decode
  rcases steady (Cursor.ofBytes short) more with ⟨_, spent⟩ | same
  · rw [spent]
  · rw [whole, read] at same
    cases result : format.read (Cursor.ofBytes short) with
    | error failure _ =>
        rw [result] at same
        cases same
    | ok found left =>
        -- The same read on all of the data would take no more than there is here.
        rw [result] at same
        cases same
        exact (Nat.not_lt_of_le (lawful.position_le result) shorter).elim

end Format.Lawful

end SpendRules
