import SpendRules.Proofs.Codec.Extension
import SpendRules.Proofs.Transaction

namespace SpendRules

/-!
# Transactions in front of other bytes, and cut off

The bytes that a transaction is decoded from decide on it alone.  Whatever
follows them, the same transaction is decoded, and a strict decoding reports how
much follows.  Where the bytes are cut off, the decoder runs out of them.  This
also holds for a cut within a script field that carries a token: such a field is
taken as a whole before its content is looked at.
-/

theorem OutPoint.isSteady_read : format.read.IsSteady :=
  Read.isSteady_hash256.bind fun _ => Read.isSteady_word32.bind fun _ => .pure _

theorem Script.isSteady_read : format.read.IsSteady :=
  Read.isSteady_prefixedBytes.map Script.mk

theorem Input.isSteady_read : format.read.IsSteady :=
  OutPoint.isSteady_read.bind fun _ => Script.isSteady_read.bind fun _ =>
    Read.isSteady_word32.bind fun _ => .pure _

/-- The content of a script field is read after the field has been taken. -/
theorem Output.isSteady_read : format.read.IsSteady := by
  refine Read.isSteady_word64.bind fun value => Read.isSteady_prefixedBytes.bind fun field => ?_
  cases ofScriptField value field with
  | ok output => exact .pure output
  | error failure => exact .throw failure

namespace Transaction

theorem isSteady_read : format.read.IsSteady :=
  Read.isSteady_word32.bind fun _ => (Format.isSteady_list Input.isSteady_read).bind fun _ =>
    (Format.isSteady_list Output.isSteady_read).bind fun _ =>
      Read.isSteady_word32.bind fun _ => .pure _

/-- A tolerant decoding takes a number of bytes from the front of the data.
These bytes make the decoder return the same transaction wherever they stand in
front, and a strict decoding counts the bytes that follow them.  No part of them
is decoded as anything: the decoder then runs out of bytes. -/
theorem decode_determined_by_front {data : Bytes} {tx : Transaction}
    (decoded : format.decode data false = .ok tx) :
    ∃ after, format.read (Cursor.ofBytes data) = .ok tx after ∧ after.position ≤ data.length ∧
      (forall other, data.take after.position <+: other ->
        format.decode other false = .ok tx ∧
          format.decode other true = if other.length = after.position then .ok tx
            else .error (.trailingBytes (other.length - after.position))) ∧
      (forall short, short <+: data.take after.position -> short ≠ data.take after.position ->
        forall strict,
        format.decode short strict = .error .exhausted) := by
  rcases Format.exists_read_of_decode decoded with ⟨after, read⟩
  have within := format_lawful.position_le read
  refine ⟨after, read, within, fun other front => format_lawful.decode_of_front read front, ?_⟩
  intro short front proper strict
  have shorter : short.length < after.position := by
    have bound := front.length_le
    have different := mt front.eq_of_length proper
    rw [List.length_take, Nat.min_eq_left within] at bound different
    omega
  exact format_lawful.decode_of_short isSteady_read read (front.trans (List.take_prefix _ data))
    shorter strict

/-- A transaction that only creates a token. -/
private def tokenIssue : Transaction where
  version := 2
  inputs := []
  outputs := [{ value := 1000, script := { bytes := [0x51] }
                token := some { category := Hash256.zero, amount := some 300, nft := none } }]
  lockTime := 0

/-- With two bytes behind the transaction, a strict decoding counts them.  A cut
inside the amount of the token leaves nothing to decode. -/
theorem decode_determined_by_front_tokenIssue :
    format.decode (format.encode tokenIssue ++ [0xab, 0xcd]) false = .ok tokenIssue ∧
      format.decode (format.encode tokenIssue ++ [0xab, 0xcd]) true = .error (.trailingBytes 2) ∧
      forall strict, format.decode ((format.encode tokenIssue).take 50) strict =
        .error .exhausted := by
  have decoded : format.decode (format.encode tokenIssue) false = .ok tokenIssue := rfl
  have length : (format.encode tokenIssue).length = 57 := by decide
  rcases decode_determined_by_front decoded with ⟨after, read, _, longer, shorter⟩
  have position : after.position = 57 := by
    have taken : format.read (Cursor.ofBytes (format.encode tokenIssue)) =
        .ok tokenIssue { position := 57, rest := [], valid := true } := rfl
    rw [taken] at read
    cases read
    rfl
  rw [position, List.take_of_length_le (Nat.le_of_eq length)] at longer shorter
  rcases longer (format.encode tokenIssue ++ [0xab, 0xcd]) (List.prefix_append _ _) with
    ⟨tolerant, strict⟩
  rw [List.length_append, length] at strict
  refine ⟨tolerant, strict, shorter _ (List.take_prefix _ _) ?_⟩
  decide

end Transaction
end SpendRules
