import SpendRules.Proofs.Machine.Steps
import SpendRules.Proofs.Script.Layout

namespace SpendRules

/-- No branch is open, and the main stack is the given one. -/
structure Machine.Shows (machine : Machine) (stack : List Bytes) : Prop where
  stack_eq : machine.stack = stack
  branches_eq : machine.branches = []

namespace Interpreter

/-!
# Evaluating a script that compares a hash

The script hashes the top element, pushes the hash that it holds and compares
the two.  On a machine without open branches each of its instructions is
carried out, under all rules and limits, so that every success of the script
goes through the same stacks.
-/

variable {vm : Interpreter} {machine after : Machine} {stack : List Bytes}

private theorem shows_of_push {element : Bytes} (shows : machine.Shows stack)
    (pushed : vm.push element machine = .ok () after) : after.Shows (element :: stack) := by
  rw [← push_eq_ok_iff.mp pushed]
  exact ⟨congrArg (element :: ·) shows.stack_eq, shows.branches_eq⟩

section

variable {instruction : Instruction} {next : Nat} (shows : machine.Shows stack)
  (stepped : vm.step instruction next machine = .ok () after)

include shows stepped

/-- An instruction is carried out on what is shown. -/
private theorem carryOut_of_step :
    ∃ permitted : Machine, permitted.Shows stack ∧ permitted.isExecuting = true ∧
      vm.carryOut instruction next permitted = .ok () after := by
  rcases step_eq_ok_iff.mp stepped with ⟨permitted, permits, carried, _⟩
  have stillShows : permitted.Shows stack := by
    rw [← eq_of_permit permits]
    exact ⟨shows.stack_eq, shows.branches_eq⟩
  refine ⟨permitted, stillShows, ?_, carried⟩
  rw [Machine.isExecuting, stillShows.branches_eq]
  rfl

private theorem shows_of_pushData (named : Opcode.operation instruction.opcode = .pushData) :
    after.Shows (instruction.data.getD [] :: stack) := by
  rcases carryOut_of_step shows stepped with ⟨permitted, stillShows, executing, carried⟩
  rw [carryOut, Sequencing.get_bind, executing, named] at carried
  have pushed : vm.pushInstructionData instruction permitted = .ok () after := carried
  simp only [pushInstructionData, Sequencing.throw_bind] at pushed
  exact shows_of_push stillShows (Sequencing.unless_eq_ok_iff.mp pushed).2

private theorem perform_of_step {operation : Operation}
    (named : Opcode.operation instruction.opcode = operation)
    (other : (operation == .pushData) = false) :
    ∃ permitted : Machine, permitted.Shows stack ∧
      vm.perform operation true next permitted = .ok () after := by
  rcases carryOut_of_step shows stepped with ⟨permitted, stillShows, executing, carried⟩
  rw [carryOut, Sequencing.get_bind, executing, named, other] at carried
  exact ⟨permitted, stillShows, carried⟩

end

private theorem shows_of_hash {algorithm : Hash.Algorithm} (shows : machine.Shows stack)
    (hashed : vm.hash algorithm machine = .ok () after) :
    ∃ message rest, stack = message :: rest ∧
      after.Shows (vm.hashes algorithm message :: rest) := by
  rcases Sequencing.bind_eq_ok_iff.mp hashed with ⟨message, popped, pops, hashed⟩
  rcases Sequencing.bind_eq_ok_iff.mp hashed with ⟨_, charged, charges, pushed⟩
  rcases Step.pop_eq_ok_iff.mp pops with ⟨rest, found, rfl⟩
  refine ⟨message, rest, shows.stack_eq.symm.trans found, shows_of_push ?_ pushed⟩
  rw [← (chargeHash_eq_ok_iff.mp charges).1]
  exact ⟨rfl, shows.branches_eq⟩

private theorem shows_of_equal {a b : Bytes} (shows : machine.Shows (b :: a :: stack))
    (compared : vm.equal false machine = .ok () after) :
    after.Shows ((if a == b then [1] else []) :: stack) := by
  rw [equal, Step.stack_bind, shows.stack_eq] at compared
  dsimp only at compared
  rcases Sequencing.bind_eq_ok_iff.mp compared with ⟨_, popped, pops, compared⟩
  rcases Sequencing.bind_eq_ok_iff.mp compared with ⟨_, pushed, pushes, returned⟩
  rw [← Step.setStack_eq_ok_iff.mp pops] at pushes
  rw [← (Sequencing.pure_eq_ok_iff.mp returned).2]
  have showsRest : Machine.Shows { machine with stack := stack } stack := ⟨rfl, shows.branches_eq⟩
  exact shows_of_push showsRest pushes

/-- A script that compares a hash replaces the top element by whether it has
this hash. -/
theorem evaluate_hashComparison {hashOpcode : UInt8} {algorithm : Hash.Algorithm} {hash : Bytes}
    {session ended : Session} (indirect : ¬ hashOpcode ≤ Opcode.pushBytesMax)
    (unannounced : Instruction.lengthWidth? hashOpcode = none)
    (hashes : Opcode.operation hashOpcode = .hash algorithm) (short : hash.length ≤ 75)
    (evaluated : vm.evaluate { bytes := hashOpcode :: UInt8.ofNat hash.length ::
      (hash ++ [Opcode.equal]) } session = .ok () ended) :
    ∃ message rest, session.stack = message :: rest ∧
      ended.stack = (if vm.hashes algorithm message == hash then [1] else []) :: rest := by
  rcases evaluate_eq_ok_iff.mp evaluated with ⟨_, machine, ran, rfl⟩
  rcases run_eq_ok_iff.mp ran with ⟨ran, _, _⟩
  rw [Script.instructions_hashComparison indirect unannounced short] at ran
  rcases Sequencing.bind_eq_ok_iff.mp ran with ⟨_, hashed, hashStep, ran⟩
  rcases Sequencing.bind_eq_ok_iff.mp ran with ⟨_, pushed, pushStep, ran⟩
  rcases Sequencing.bind_eq_ok_iff.mp ran with ⟨_, compared, compareStep, ended⟩
  rcases perform_of_step ⟨rfl, rfl⟩ hashStep hashes rfl with ⟨_, showsPermitted, performed⟩
  rcases shows_of_hash showsPermitted performed with ⟨message, rest, found, showsHashed⟩
  have pushes := Opcode.operation_of_direct (Opcode.ofNat_le_pushBytesMax short)
  have showsPushed := shows_of_pushData showsHashed pushStep pushes
  rcases perform_of_step showsPushed compareStep rfl rfl with ⟨_, showsPermitted, performed⟩
  have showsCompared := shows_of_equal showsPermitted performed
  rw [← (Sequencing.pure_eq_ok_iff.mp ended).2]
  exact ⟨message, rest, found, showsCompared.stack_eq⟩

end Interpreter
end SpendRules
