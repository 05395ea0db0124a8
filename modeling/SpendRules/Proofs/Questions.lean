import SpendRules.Proofs.Machine.Questions
import SpendRules.Verification

namespace SpendRules
namespace Interpreter

/-!
# The questions of a run

A verification evaluates up to three scripts on one record of questions, and
between them it only looks at the stack.  So whatever can be said of the record
for every evaluation can be said for the verification, wherever it stops.
-/

section

variable {vm : Interpreter} {progress : Progress CheckRecord}

private theorem demandTrue_along (session : Session) :
    (progress.on Session.checkRecord).Along demandTrue session := by
  refine .look ?_
  cases session.stack with
  | nil => exact .throw _
  | cons top rest => exact .ite (fun _ => .pure ()) fun _ => .throw _

private theorem demandCleanEnd_along (scriptSig : Script) (session : Session) :
    (progress.on Session.checkRecord).Along (vm.demandCleanEnd scriptSig) session := by
  simp only [demandCleanEnd, Sequencing.throw_bind]
  refine .look (.ite (fun _ => .throw _) fun _ => .ite (fun _ => .throw _) fun _ => .pure ())

variable (evaluates : forall script session,
  (progress.on Session.checkRecord).Along (vm.evaluate script) session)

include evaluates

private theorem evaluateRedeemScript_along (depth : Nat) (session : Session) :
    (progress.on Session.checkRecord).Along (vm.evaluateRedeemScript depth) session := by
  simp only [evaluateRedeemScript, Sequencing.throw_bind]
  refine .ite (fun _ => .throw _) fun _ => .look ?_
  cases session.stack with
  | nil => exact .throw _
  | cons serialized rest =>
      refine Progress.Along.bind (.modify (progress.refl _)) fun _ _ _ => ?_
      exact Progress.Along.bind (evaluates _ _) fun _ after _ => demandTrue_along after

/-- The record of signature checks changes only in the evaluation of scripts. -/
theorem verifyScript_along (scriptSig scriptPubkey : Script) (session : Session) :
    (progress.on Session.checkRecord).Along (vm.verifyScript scriptSig scriptPubkey) session := by
  simp only [verifyScript, verifyScriptWith, Sequencing.throw_bind]
  refine .ite (fun _ => .throw _) fun _ =>
    Progress.Along.bind (evaluates _ _) fun _ unlocked _ => .look ?_
  refine Progress.Along.bind (evaluates _ _) fun _ locked _ => ?_
  refine Progress.Along.bind (demandTrue_along locked) fun _ after _ =>
    .ite (fun _ => ?_) fun _ => ?_
  · refine .ite (fun _ => .throw _) fun _ => Progress.Along.bind (.modify (progress.refl _))
      fun _ replaced _ => ?_
    refine .ite (fun _ => .pure ()) fun _ => ?_
    exact Progress.Along.bind (evaluateRedeemScript_along evaluates 1 replaced) fun _ redeemed _ =>
      demandCleanEnd_along scriptSig redeemed
  · exact demandCleanEnd_along scriptSig after

end

/-- A verification hands on the questions of its last state in their order. -/
theorem calls_verify (vm : Interpreter) (scriptSig scriptPubkey : Script) :
    (vm.verify scriptSig scriptPubkey).calls =
      (Sequencing.finalState (vm.verifyScript scriptSig scriptPubkey) {}).calls.reverse := by
  unfold verify Sequencing.finalState
  cases vm.verifyScript scriptSig scriptPubkey {} with
  | ok | error => rfl

/-- Under strict encoding, only well-formed keys and signatures reach the
verifier, and only over the prescribed digest.

Every question of a verification and every question that the evaluation of a
script adds, whether it succeeds or fails, is well-formed, and an operation put
it.  A question that an operation puts on any machine is one of the check that
it finds on the stack: the older way of a multiple signature asks under the
older scheme only and the newer way under the newer one only, and for all checks
but those of data, the digest is composed as the rules prescribe. -/
theorem questions_wellFormed (vm : Interpreter) (strict : vm.enables .strictEncoding = true) :
    (forall scriptSig scriptPubkey call, call ∈ (vm.verify scriptSig scriptPubkey).calls ->
      call.query.IsWellFormed ∧ ∃ operation machine, vm.Asks operation machine call) ∧
    (forall script session, ∃ calls,
      (Sequencing.finalState (vm.evaluate script) session).calls = calls ++ session.calls ∧
        forall call, call ∈ calls ->
          call.query.IsWellFormed ∧ ∃ operation machine, vm.Asks operation machine call) ∧
    forall operation machine call, vm.Asks operation machine call ->
      ∃ check rest, vm.Finds operation machine.stack check rest ∧
        vm.Poses (vm.signedCode machine check) check call.query := by
  refine ⟨fun scriptSig scriptPubkey call member => ?_, evaluate_asks strict, fun _ _ _ asks => ?_⟩
  · rcases verifyScript_along (evaluate_asks strict) scriptSig scriptPubkey {} with
      ⟨calls, added, admitted⟩
    have all : (Sequencing.finalState (vm.verifyScript scriptSig scriptPubkey) {}).calls =
        calls ++ [] := added
    rw [calls_verify, List.mem_reverse, all, List.append_nil] at member
    exact admitted call member
  · exact (poses_of_asks strict asks).2

/-- An interpreter with strict encoding, whose verifier accepts every signature. -/
private def strictInterpreter : Interpreter :=
  Configuration.interpreter {} Rule.strictEncoding.publicMask (fun _ => .ok true) none

/-- A signature of sixty-four bytes, a message and a compressed key. -/
private def dataSigOperands : Script where
  bytes := 0x40 :: List.replicate 64 7 ++ 0x51 :: 0x21 :: 0x02 :: List.replicate 32 9

/-- The verifier is asked about the signature of the message. -/
theorem questions_wellFormed_oneData :
    ∃ call, call ∈ (strictInterpreter.verify dataSigOperands { bytes := [0xba] }).calls ∧
      call.query.IsWellFormed := by
  have asked : (strictInterpreter.verify dataSigOperands { bytes := [0xba] }).calls.isEmpty =
      false := by
    decide +kernel
  cases calls : (strictInterpreter.verify dataSigOperands { bytes := [0xba] }).calls with
  | nil =>
      rw [calls] at asked
      cases asked
  | cons call calls' =>
      have member : call ∈
          (strictInterpreter.verify dataSigOperands { bytes := [0xba] }).calls := by
        rw [calls]
        exact List.mem_cons_self
      exact ⟨call, List.mem_cons_self,
        ((questions_wellFormed strictInterpreter (by decide)).1 _ _ call member).1⟩

end Interpreter
end SpendRules
