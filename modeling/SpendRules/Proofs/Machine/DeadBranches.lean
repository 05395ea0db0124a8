import SpendRules.Proofs.Machine.StaticRules

namespace SpendRules
namespace Interpreter

/-!
# Branches that are not taken

While some open branch is not taken, instructions are passed over.  Those that
concern branches are carried out nevertheless: they open, switch and close branches
inside the one that is not taken.  Which of these are taken changes all the time,
and makes no difference as long as no instruction concerns the outer branch itself.
So it is enough to know how many branches are open inside.
-/

variable {vm : Interpreter} {instruction : Instruction} {next : Nat} {machine after : Machine}

/-- Within a branch, in which `depth` other branches are open, the instructions
neither switch nor close the branch itself. -/
def staysInside : Nat -> List Instruction -> Bool
  | _, [] => true
  | depth, instruction :: rest =>
    if Opcode.opensBranch instruction.opcode then staysInside (depth + 1) rest
    else if Opcode.closesBranch instruction.opcode then
      decide (0 < depth) && staysInside (depth - 1) rest
    else if Opcode.switchesBranch instruction.opcode then
      decide (0 < depth) && staysInside depth rest
    else staysInside depth rest

private theorem staysInside_cons (depth : Nat) (instruction : Instruction)
    (rest : List Instruction) :
    staysInside depth (instruction :: rest) =
      match Opcode.operation instruction.opcode with
      | .openBranch _ => staysInside (depth + 1) rest
      | .closeBranch => decide (0 < depth) && staysInside (depth - 1) rest
      | .elseBranch => decide (0 < depth) && staysInside depth rest
      | _ => staysInside depth rest := by
  rw [staysInside]
  by_cases opens : Opcode.opensBranch instruction.opcode = true
  · rcases Opcode.opensBranch_iff.mp opens with ⟨negated, operation⟩
    rw [if_pos opens, operation]
  by_cases closes : Opcode.closesBranch instruction.opcode = true
  · rw [if_neg opens, if_pos closes, Opcode.closesBranch_iff.mp closes]
  by_cases switches : Opcode.switchesBranch instruction.opcode = true
  · rw [if_neg opens, if_neg closes, if_pos switches, Opcode.switchesBranch_iff.mp switches]
  rw [if_neg opens, if_neg closes, if_neg switches]
  cases operation : Opcode.operation instruction.opcode with
  | openBranch negated => exact absurd (Opcode.opensBranch_iff.mpr ⟨negated, operation⟩) opens
  | closeBranch => exact absurd (Opcode.closesBranch_iff.mpr operation) closes
  | elseBranch => exact absurd (Opcode.switchesBranch_iff.mpr operation) switches
  | _ => rfl

/-- Only operations on branches are carried out, and only the branches inside
change. -/
private theorem carryOut_of_dead {inner outer : List Bool} {rest : List Instruction}
    (dead : machine.branches = inner ++ false :: outer)
    (inside : staysInside inner.length (instruction :: rest) = true)
    (carried : vm.carryOut instruction next machine = .ok () after) :
    ∃ inner', after = { machine with branches := inner' ++ false :: outer } ∧
      staysInside inner'.length rest = true := by
  have idle : machine.isExecuting = false := by
    rw [Machine.isExecuting, dead, List.all_append, List.all_cons]
    simp only [id_eq, Bool.false_and, Bool.and_false]
  rw [staysInside_cons] at inside
  cases operation : Opcode.operation instruction.opcode with
  | openBranch negated =>
      rw [operation] at inside
      rw [carryOut_of_concernsBranches (by rw [operation]; rfl), idle, operation] at carried
      have opened : vm.openBranch negated false machine = .ok () after := carried
      rcases eq_of_openBranch opened with ⟨⟨taken, rfl, _⟩, _⟩
      refine ⟨taken :: inner, ?_, inside⟩
      rw [dead]
      rfl
  | elseBranch =>
      rw [operation, Bool.and_eq_true] at inside
      rw [carryOut_of_concernsBranches (by rw [operation]; rfl), operation] at carried
      rcases eq_of_elseBranch carried with ⟨taken, others, open', rfl⟩
      cases inner with
      | nil => cases inside.1
      | cons innermost inner =>
          rw [dead, List.cons_append, List.cons.injEq] at open'
          refine ⟨(!taken) :: inner, ?_, inside.2⟩
          rw [← open'.2]
          rfl
  | closeBranch =>
      rw [operation, Bool.and_eq_true] at inside
      rw [carryOut_of_concernsBranches (by rw [operation]; rfl), operation] at carried
      rcases eq_of_closeBranch carried with ⟨taken, others, open', rfl⟩
      cases inner with
      | nil => cases inside.1
      | cons innermost inner =>
          rw [dead, List.cons_append, List.cons.injEq] at open'
          refine ⟨inner, ?_, inside.2⟩
          rw [← open'.2]
  | reservedBranch =>
      rw [carryOut_of_concernsBranches (by rw [operation]; rfl), operation] at carried
      exact (Sequencing.throw_ne_ok carried).elim
  | _ =>
      rw [operation] at inside
      unfold carryOut at carried
      rw [Sequencing.get_bind, idle, operation] at carried
      rw [← (Sequencing.pure_eq_ok_iff.mp carried).2]
      exact ⟨inner, by rw [← dead], inside⟩

/-- While some open branch is neither taken nor switched nor closed, instructions
change nothing but the branches inside it, the charge for each instruction and the
number of operations. -/
theorem runFrom_passesOver {start : Nat} {instructions : List Instruction} {inner outer : List Bool}
    (dead : machine.branches = inner ++ false :: outer)
    (inside : staysInside inner.length instructions = true)
    (ran : vm.runFrom start instructions machine = .ok () after) :
    ∃ inner', after = { machine with
      branches := inner' ++ false :: outer
      metrics.opCost := machine.metrics.opCost +
        if vm.isMetered then 100 * instructions.length else 0
      opCount := machine.opCount + countedOperations instructions } := by
  induction instructions generalizing start machine inner with
  | nil =>
      rw [← (Sequencing.pure_eq_ok_iff.mp ran).2]
      refine ⟨inner, ?_⟩
      rw [← dead, List.length_nil, Nat.mul_zero, ite_self]
      rfl
  | cons first rest inductionHypothesis =>
      rcases Sequencing.bind_eq_ok_iff.mp ran with ⟨_, middle, stepped, remaining⟩
      rcases step_eq_ok_iff.mp stepped with ⟨permitted, permits, carried, _⟩
      -- Permitting an instruction leaves the branches alone, and carrying it out leaves
      -- everything else alone.
      have counted := eq_of_permit permits
      have permitted_dead : permitted.branches = inner ++ false :: outer := by
        rw [← counted]
        exact dead
      rcases carryOut_of_dead permitted_dead inside carried with ⟨inner', rfl, inside'⟩
      rcases inductionHypothesis rfl inside' remaining with ⟨inner'', rfl⟩
      refine ⟨inner'', ?_⟩
      have charged :
          ((if vm.isMetered then 100 else 0) + if vm.isMetered then 100 * rest.length else 0) =
            if vm.isMetered then 100 * (first :: rest).length else 0 := by
        rw [List.length_cons]
        split
        · omega
        · rfl
      rw [← charged, countedOperations_cons, countedOperations_singleton, ← Nat.add_assoc,
        ← Nat.add_assoc, ← counted]

/-- An interpreter that charges for instructions that are passed over. -/
private def passingInterpreter : Interpreter where
  rules := .ofFlags Rule.may2025.publicMask
  verifier _ := .ok false

/-- Inside a branch that is not taken, the machine is in another one. -/
private def deadMachine : Machine where
  stack := [[7]]
  script := { bytes := [] }
  branches := [false, false, true]

/-- OP_ELSE, OP_RETURN, a push and OP_ENDIF, and then OP_IF, OP_ELSE, OP_CHECKSIG and
OP_ENDIF. -/
private def passedOver : List Instruction :=
  [⟨0x67, [], none⟩, ⟨0x6a, [], none⟩, ⟨0x01, [], some [0xaa]⟩, ⟨0x68, [], none⟩,
    ⟨0x63, [], none⟩, ⟨0x67, [], none⟩, ⟨0xac, [], none⟩, ⟨0x68, [], none⟩]

/-- The inner branch is switched and closed, and another one is opened, switched and
closed. -/
theorem runFrom_passesOver_nested :
    ∃ after, passingInterpreter.runFrom 0 passedOver deadMachine = .ok () after ∧
      ∃ inner', after = { deadMachine with
        branches := inner' ++ [false, true]
        metrics.opCost := 800
        opCount := 7 } :=
  have ran : passingInterpreter.runFrom 0 passedOver deadMachine =
      .ok ()
        { deadMachine with branches := [false, true], metrics.opCost := 800, opCount := 7 } := rfl
  have dead : deadMachine.branches = [false] ++ false :: [true] := rfl
  ⟨_, ran, runFrom_passesOver dead (by decide) ran⟩

end Interpreter
end SpendRules
