import SpendRules.Codec.VarInt
import SpendRules.Proofs.Codec.Spelling

namespace SpendRules

/-!
# The spellings of variable-width integers

A number has one spelling for every width that holds it.  The encoder writes
the narrowest one, and every other spelling is longer.  A byte string behind
its length inherits both facts, also when the byte string itself is replaced
with a shorter one, whose length is then a smaller number.
-/

namespace VarInt

/-- The spellings of a number: a byte below all markers, or a marker followed
by as many bytes as it announces. -/
inductive Spelled : Nat -> Bytes -> Prop where
  | one (first : UInt8) (small : first.toNat < 0xfd) : Spelled first.toNat [first]
  | two (payload : Bytes) (width : payload.length = 2) : Spelled payload.toNatLE (0xfd :: payload)
  | four (payload : Bytes) (width : payload.length = 4) : Spelled payload.toNatLE (0xfe :: payload)
  | eight (payload : Bytes) (width : payload.length = 8) : Spelled payload.toNatLE (0xff :: payload)

/-- No spelling stands for a number beyond a 64-bit word. -/
theorem Spelled.lt {value : Nat} {taken : Bytes} (spelled : Spelled value taken) :
    value < 2 ^ 64 := by
  cases spelled with
  | one first small => omega
  | two payload width | four payload width | eight payload width =>
      have bound := payload.toNatLE_lt
      rw [width] at bound
      omega

/-- The narrowest form of a number is one of its spellings. -/
theorem spelled_encode {value : Nat} (fits : value < 2 ^ 64) : Spelled value (encode value) := by
  unfold encode
  split
  · next small =>
      have number : (UInt8.ofNat value).toNat = value := by
        rw [UInt8.toNat_ofNat']
        omega
      have spelled := Spelled.one (UInt8.ofNat value) (number.symm ▸ small)
      rwa [number] at spelled
  split
  · next small =>
      have spelled := Spelled.two (Bytes.ofNatLE 2 value) (Bytes.length_ofNatLE 2 value)
      rwa [Bytes.toNatLE_ofNatLE (by omega)] at spelled
  split
  · next small =>
      have spelled := Spelled.four (Bytes.ofNatLE 4 value) (Bytes.length_ofNatLE 4 value)
      rwa [Bytes.toNatLE_ofNatLE (by omega)] at spelled
  · have spelled := Spelled.eight (Bytes.ofNatLE 8 value) (Bytes.length_ofNatLE 8 value)
    rwa [Bytes.toNatLE_ofNatLE (by omega)] at spelled

/-- A marker with a payload of its width is no shorter than the narrowest form
of the number, and only as long when it is that form. -/
private theorem shortens_marked {marker : UInt8} {payload : Bytes}
    (narrow : size payload.toNatLE ≤ 1 + payload.length)
    (only : size payload.toNatLE = 1 + payload.length ->
      encode payload.toNatLE = marker :: Bytes.ofNatLE payload.length payload.toNatLE) :
    Bytes.Shortens (encode payload.toNatLE) (marker :: payload) where
  length_le := by
    rw [length_encode, List.length_cons, Nat.add_comm payload.length]
    exact narrow
  eq_of_length_eq := by
    intro same
    rw [length_encode, List.length_cons, Nat.add_comm payload.length] at same
    rw [only same, Bytes.ofNatLE_toNatLE]

/-- Every spelling of a number is at least as long as its narrowest form, and
only that form is as short. -/
theorem Spelled.shortens {value : Nat} {taken : Bytes} (spelled : Spelled value taken) :
    Bytes.Shortens (encode value) taken := by
  cases spelled with
  | one first small =>
      apply Bytes.Shortens.of_eq
      rw [encode, if_pos small, UInt8.ofNat_toNat]
  | two payload width | four payload width | eight payload width =>
      have bound := payload.toNatLE_lt
      rw [width] at bound
      apply shortens_marked
      · unfold size
        rw [width]
        grind
      · unfold size encode
        rw [width]
        grind

theorem size_mono {smaller larger : Nat} (le : smaller ≤ larger) : size smaller ≤ size larger := by
  unfold size
  grind

/-- A byte is a marker with one of three widths or stands for itself. -/
private theorem payloadWidth_cases (first : UInt8) :
    (first = 0xfd ∧ payloadWidth? first = some 2) ∨ (first = 0xfe ∧ payloadWidth? first = some 4) ∨
      (first = 0xff ∧ payloadWidth? first = some 8) ∨
      (first.toNat < 0xfd ∧ payloadWidth? first = none) := by
  by_cases two : first = 0xfd
  · exact Or.inl ⟨two, two ▸ rfl⟩
  by_cases four : first = 0xfe
  · exact Or.inr (Or.inl ⟨four, four ▸ rfl⟩)
  by_cases eight : first = 0xff
  · exact Or.inr (Or.inr (Or.inl ⟨eight, eight ▸ rfl⟩))
  refine Or.inr (Or.inr (Or.inr ⟨?_, ?_⟩))
  · have byte := first.toNat_lt
    rw [← UInt8.toNat_inj] at two four eight
    change first.toNat ≠ 0xfd at two
    change first.toNat ≠ 0xfe at four
    change first.toNat ≠ 0xff at eight
    omega
  · rw [payloadWidth?, if_neg two, if_neg four, if_neg eight]

/-- A byte stands for itself exactly when it is below all markers. -/
private theorem payloadWidth_eq_none_iff (first : UInt8) :
    payloadWidth? first = none ↔ first.toNat < 0xfd := by
  rcases payloadWidth_cases first with ⟨rfl, width⟩ | ⟨rfl, width⟩ | ⟨rfl, width⟩ | ⟨small, width⟩
  · simp only [width, reduceCtorEq, false_iff]
    decide
  · simp only [width, reduceCtorEq, false_iff]
    decide
  · simp only [width, reduceCtorEq, false_iff]
    decide
  · exact iff_of_true width small

private theorem spelled_of_announced {marker : UInt8} {payload : Bytes}
    (announced : payloadWidth? marker = some payload.length) :
    Spelled payload.toNatLE (marker :: payload) := by
  rcases payloadWidth_cases marker with ⟨rfl, width⟩ | ⟨rfl, width⟩ | ⟨rfl, width⟩ | ⟨_, width⟩ <;>
    rw [width] at announced
  · exact .two payload (Option.some.inj announced).symm
  · exact .four payload (Option.some.inj announced).symm
  · exact .eight payload (Option.some.inj announced).symm
  · cases announced

end VarInt

namespace Read

/-- The read of a variable-width integer, by its first byte. -/
theorem varint_cons (position : Nat) (first : UInt8) (rest : Bytes) :
    varint { position := position, rest := first :: rest, valid := true } =
      match VarInt.payloadWidth? first with
      | none => .ok first.toNat { position := position + 1, rest := rest, valid := true }
      | some width =>
        match Bytes.splitExactly? width rest with
        | some (payload, rest) =>
          .ok payload.toNatLE { position := position + (1 + width), rest := rest, valid := true }
        | none => exhausted { position := position, rest := first :: rest, valid := true } := rfl

/-- Behind a marker, the integer is the number of the announced bytes. -/
private theorem varint_marked {position : Nat} {marker : UInt8} {rest : Bytes} {width value : Nat}
    {after : Cursor} (announced : VarInt.payloadWidth? marker = some width) :
    varint { position := position, rest := marker :: rest, valid := true } = .ok value after ↔
      ∃ payload back, payload.length = width ∧ rest = payload ++ back ∧ value = payload.toNatLE ∧
        after = { position := position + (1 + width), rest := back, valid := true } := by
  rw [varint_cons, announced]
  dsimp only
  constructor
  · intro equal
    split at equal
    · next payload back taken =>
        rcases Bytes.splitExactly_eq_some_iff.mp taken with ⟨joined, length_eq⟩
        cases equal
        exact ⟨payload, back, length_eq, joined, rfl, rfl⟩
    · cases equal
  · rintro ⟨payload, back, length_eq, joined, rfl, rfl⟩
    rw [Bytes.splitExactly_eq_some_iff.mpr ⟨joined, length_eq⟩]

/-- A variable-width integer is read in every width. -/
theorem recognizes_varint : varint.Recognizes VarInt.Spelled := by
  intro position data value after
  constructor
  · intro equal
    cases data with
    | nil => cases equal
    | cons first rest =>
        cases announced : VarInt.payloadWidth? first with
        | none =>
            rw [varint_cons, announced] at equal
            cases equal
            exact ⟨[first], rest,
              .one first ((VarInt.payloadWidth_eq_none_iff first).mp announced), rfl, rfl⟩
        | some width =>
            rcases (varint_marked announced).mp equal with ⟨payload, back, rfl, rfl, rfl, rfl⟩
            refine ⟨first :: payload, back, VarInt.spelled_of_announced announced, rfl, ?_⟩
            rw [List.length_cons, Nat.add_comm 1]
  · rintro ⟨taken, rest, spelled, rfl, rfl⟩
    cases spelled with
    | one first small =>
        rw [List.singleton_append, varint_cons, (VarInt.payloadWidth_eq_none_iff first).mpr small]
        rfl
    | two payload width | four payload width | eight payload width =>
        refine (varint_marked rfl).mpr ⟨payload, rest, width, rfl, rfl, ?_⟩
        rw [List.length_cons, width, Nat.add_comm 1]

/-- A length that is announced is read like any other integer, provided that so
many bytes follow. -/
theorem announcedLength_eq_ok_iff {cursor after : Cursor} {count : Nat} :
    announcedLength cursor = .ok count after ↔
      varint cursor = .ok count after ∧ count ≤ after.rest.length := by
  refine Sequencing.bind_eq_ok_iff.trans ?_
  constructor
  · rintro ⟨found, middle, read, checked⟩
    split at checked
    · next enough =>
        cases checked
        exact ⟨read, Bytes.hasAtLeast_iff.mp enough⟩
    · cases checked
  · rintro ⟨read, enough⟩
    exact ⟨count, after, read, if_pos (Bytes.hasAtLeast_iff.mpr enough)⟩

/-- A byte string behind its length is read whatever the width of the length. -/
theorem recognizes_prefixedBytes :
    prefixedBytes.Recognizes (fun value taken =>
      ∃ front, VarInt.Spelled value.length front ∧ taken = front ++ value) := by
  intro position data value after
  unfold prefixedBytes
  rw [Sequencing.bind_eq_ok_iff]
  constructor
  · rintro ⟨count, middle, announced, taken⟩
    rcases (recognizes_varint position data count middle).mp
      (announcedLength_eq_ok_iff.mp announced).1 with
      ⟨front, back, spelled, rfl, rfl⟩
    rcases (recognizes_bytes count _ back value after).mp taken with
      ⟨content, rest, ⟨rfl, rfl⟩, rfl, rfl⟩
    refine ⟨front ++ content, rest, ⟨front, spelled, rfl⟩, ?_, ?_⟩
    · rw [List.append_assoc]
    · rw [List.length_append, Nat.add_assoc]
  · rintro ⟨_, rest, ⟨front, spelled, rfl⟩, rfl, rfl⟩
    refine ⟨value.length,
      { position := position + front.length, rest := value ++ rest, valid := true }, ?_, ?_⟩
    · refine announcedLength_eq_ok_iff.mpr ⟨?_, ?_⟩
      · apply (recognizes_varint position _ _ _).mpr
        exact ⟨front, value ++ rest, spelled, List.append_assoc front value rest, rfl⟩
      · rw [List.length_append]
        exact Nat.le_add_right _ _
    · apply (recognizes_bytes value.length _ _ value _).mpr
      exact ⟨value, rest, ⟨rfl, rfl⟩, rfl, by rw [List.length_append, Nat.add_assoc]⟩

end Read

/-- Behind its narrowest length a byte string is spelled, unless it is too long
to have a length. -/
theorem Bytes.lengthPrefixed_spelled {bytes : Bytes} (fits : bytes.length < 2 ^ 64) :
    ∃ front, VarInt.Spelled bytes.length front ∧ bytes.lengthPrefixed = front ++ bytes :=
  ⟨VarInt.encode bytes.length, VarInt.spelled_encode fits, rfl⟩

/-- Replacing a byte string with a shorter one also shortens its length. -/
theorem Bytes.Shortens.lengthPrefixed {canonical taken front : Bytes}
    (shortens : Bytes.Shortens canonical taken) (spelled : VarInt.Spelled taken.length front) :
    Bytes.Shortens canonical.lengthPrefixed (front ++ taken) := by
  have narrower := VarInt.size_mono shortens.length_le
  have front_le := spelled.shortens.length_le
  rw [VarInt.length_encode] at front_le
  constructor
  · have content_le := shortens.length_le
    rw [Bytes.lengthPrefixed, List.length_append, List.length_append, VarInt.length_encode]
    omega
  · intro same
    have content_le := shortens.length_le
    rw [Bytes.lengthPrefixed, List.length_append, List.length_append, VarInt.length_encode] at same
    -- No length is lost in either part, so the content stays and its length is in the
    -- narrowest form.
    have content := shortens.eq_of_length_eq (by omega)
    subst content
    have narrowest := spelled.shortens.eq_of_length_eq (by rw [VarInt.length_encode]; omega)
    rw [Bytes.lengthPrefixed, narrowest]

end SpendRules
