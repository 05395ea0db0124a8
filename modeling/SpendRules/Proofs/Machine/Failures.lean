import SpendRules.Machine.Arithmetic
import SpendRules.Machine.SignatureChecks

namespace SpendRules

/-!
# What scripts stop with

Some failures are found only around scripts: between the scripts of a
verification, after the last of them, or when bytes are decoded.  Within a
script, the computations that a machine relies on fail in other ways, and never
for the number of operations, of which they do not know.
-/

/-- Some script stops with the failure.  The others are found before, between
and after the scripts of a verification, or when bytes are decoded. -/
def ScriptError.stopsScripts : ScriptError -> Bool
  | .exhausted | .tokenEncodingInvalid | .evalFalse | .sigPushOnly | .cleanStack | .inputSigChecks
  | .p2shRecursion => false
  | _ => true

/-- Some step of a script stops with the failure for what it finds.  It is not the
step that is to blame when operations are too many. -/
def ScriptError.stopsSteps : ScriptError -> Bool
  | .opCount => false
  | failure => failure.stopsScripts

namespace ScriptError

variable {failure : ScriptError} (stops : failure.stopsSteps = true)

include stops

theorem stopsScripts_of_stopsSteps : failure.stopsScripts = true := by
  cases failure with
  | opCount => rfl
  | _ => exact stops

theorem ne_opCount_of_stopsSteps : failure ≠ .opCount := by
  rintro rfl
  cases stops

end ScriptError

/-- A computation fails, if at all, with what steps stop with. -/
def StopsSteps {α : Type} (result : Except ScriptError α) : Prop :=
  forall failure, result = .error failure -> failure.stopsSteps = true

namespace StopsSteps

variable {α β : Type}

theorem ok (value : α) : StopsSteps (.ok value) :=
  fun _ impossible => nomatch impossible

theorem error {failure : ScriptError} (stops : failure.stopsSteps = true) :
    StopsSteps (.error failure : Except ScriptError α) := by
  intro found same
  cases same
  exact stops

theorem ite {condition : Prop} [Decidable condition] {taken passed : Except ScriptError α}
    (takenStops : StopsSteps taken) (passedStops : StopsSteps passed) :
    StopsSteps (if condition then taken else passed) := by
  by_cases holds : condition
  · rwa [if_pos holds]
  · rwa [if_neg holds]

theorem bind {first : Except ScriptError α} {next : α -> Except ScriptError β}
    (firstStops : StopsSteps first) (nextStops : forall value, StopsSteps (next value)) :
    StopsSteps (first >>= next) := by
  cases first with
  | ok value => exact nextStops value
  | error failure => exact error (firstStops failure rfl)

end StopsSteps

theorem ScriptNumber.stopsSteps_decode (element : Bytes) (requireMinimal : Bool) (maxLength : Nat) :
    StopsSteps (decode element requireMinimal maxLength) :=
  .ite (.error rfl) (.ite (.error rfl) (.ok _))

theorem ScriptNumber.stopsSteps_checkResult (resultSize : Option Nat) (number : Int) :
    StopsSteps (checkResult resultSize number) := by
  cases resultSize with
  | none => exact .ok number
  | some size => exact .ite (.error rfl) (.ok number)

theorem SpendingContext.stopsSteps_spentBy (context : SpendingContext) (index : Nat) :
    StopsSteps (context.spentBy index) := by
  unfold spentBy
  refine .ite (.error rfl) (.ite (.ok _) ?_)
  cases context.allSpent with
  | none => exact .error rfl
  | some outputs =>
      dsimp only
      cases outputs[index]? with
      | none => exact .error rfl
      | some output => exact .ok output

namespace Signature

variable (signature : Bytes) (rules : RuleSet)

private theorem stopsSteps_isLow : StopsSteps (isLow signature) := by
  refine .ite ?_ (.error rfl)
  cases Secp256k1.EcdsaSignature.read? signature with
  | none => exact .error rfl
  | some read => exact .ok _

private theorem stopsSteps_checkRaw : StopsSteps (checkRaw signature rules) := by
  refine .ite (.ok ()) (.ite (.error rfl) (.ite ?_ (.ok ())))
  exact (stopsSteps_isLow signature).bind fun _ => .ite (.ok ()) (.error rfl)

private theorem stopsSteps_checkHashType : StopsSteps (checkHashType signature rules) := by
  refine .ite ?_ (.ok ())
  cases SigHashType.ofSignature? signature with
  | none => exact .error rfl
  | some hashType =>
      exact .ite (.error rfl) (.ite (.error rfl) (.ite (.error rfl) (.ite (.error rfl) (.ok ()))))

theorem stopsSteps_checkData : StopsSteps (checkData signature rules) :=
  .ite (.ok ()) (stopsSteps_checkRaw signature rules)

theorem stopsSteps_checkTransaction : StopsSteps (checkTransaction signature rules) :=
  .ite (.ok ()) ((stopsSteps_checkRaw signature.dropLast rules).bind fun _ =>
    stopsSteps_checkHashType signature rules)

theorem stopsSteps_checkTransactionEcdsa : StopsSteps (checkTransactionEcdsa signature rules) :=
  .ite (.ok ()) (.ite (.error rfl) (stopsSteps_checkTransaction signature rules))

theorem stopsSteps_checkTransactionSchnorr : StopsSteps (checkTransactionSchnorr signature rules) :=
  .ite (.error rfl) (stopsSteps_checkTransaction signature rules)

theorem stopsSteps_checkKey (key : Bytes) : StopsSteps (checkKey key rules) :=
  .ite (.error rfl) (.ok ())

end Signature

theorem SigHash.stopsSteps_digest (context : SpendingContext) (code : Script)
    (hashType : SigHashType) (rules : RuleSet) :
    StopsSteps (digest context code hashType rules) := by
  have utxos : StopsSteps (committedUtxos context hashType rules) := by
    refine .ite (.ite (.error rfl) ?_) (.ok [])
    cases context.allSpent with
    | none => exact .error rfl
    | some outputs => exact .ok _
  refine .ite ?_ (.ok _)
  unfold forkIdDigest forkIdMessage
  rw [map_eq_pure_bind]
  exact (utxos.bind fun _ => .ok _).bind fun _ => .ok _

namespace Interpreter

theorem stopsSteps_binaryResult (operation : BinaryOperation) (a b : Int) :
    StopsSteps (binaryResult operation a b) := by
  cases operation with
  | div =>
      unfold binaryResult
      cases ScriptNumber.quotient? a b with
      | none => exact .error rfl
      | some quotient => exact .ok quotient
  | rem =>
      unfold binaryResult
      cases ScriptNumber.remainder? a b with
      | none => exact .error rfl
      | some remainder => exact .ok remainder
  | _ => exact .ok _

theorem stopsSteps_bitfieldOf (element : Bytes) (keyCount : Nat) :
    StopsSteps (bitfieldOf element keyCount) := by
  unfold bitfieldOf
  exact .ite (.error rfl) (.ite (.error rfl) (.ok _))

end Interpreter

end SpendRules
