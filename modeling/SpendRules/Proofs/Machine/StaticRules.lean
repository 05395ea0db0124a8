import SpendRules.Proofs.Machine.Branches
import SpendRules.Proofs.Script.Layout

namespace SpendRules

/-!
# Rules for every branch

Some rules are for all instructions of a script, whether or not they are carried
out: pushes are complete and short, some opcodes do not occur, and branches are
nested.  A machine finds them broken at different moments, some before it looks at
the open branches and some by the operations that change these.  What it finds
depends on the script only, so a script that is evaluated obeys all of them.
-/

namespace Operation

/-- The number of branches that the operation opens. -/
private def opened : Operation -> Nat
  | .openBranch _ => 1
  | _ => 0

/-- The number of branches that the operation closes. -/
private def closed : Operation -> Nat
  | .closeBranch => 1
  | _ => 0

end Operation

namespace Opcode

/-- The opcode is OP_IF or OP_NOTIF. -/
def opensBranch (opcode : UInt8) : Bool :=
  opcode == 0x63 || opcode == 0x64

/-- The opcode is OP_ELSE. -/
def switchesBranch (opcode : UInt8) : Bool :=
  opcode == 0x67

/-- The opcode is OP_ENDIF. -/
def closesBranch (opcode : UInt8) : Bool :=
  opcode == 0x68

/-- The opcode is OP_VERIF or OP_VERNOTIF. -/
def isReserved (opcode : UInt8) : Bool :=
  opcode == 0x65 || opcode == 0x66

/-- The opcode is OP_INVERT, OP_2MUL, OP_2DIV, OP_LSHIFT or OP_RSHIFT. -/
def isRetired (opcode : UInt8) : Bool :=
  [0x83, 0x8d, 0x8e, 0x98, 0x99].contains opcode

/-- The opcode is OP_MUL. -/
def multiplies (opcode : UInt8) : Bool :=
  opcode == 0x95

variable {opcode : UInt8}

-- Evaluating the operations of all opcodes goes through the table once for each of them, so
-- the table is looked at instead.
private theorem branching_of_operation {op : Operation} (same : operation opcode = op) :
    (forall negated, op = .openBranch negated -> opensBranch opcode = true) ∧
      (op = .elseBranch -> switchesBranch opcode = true) ∧
      (op = .closeBranch -> closesBranch opcode = true) := by
  have rows : table.all (fun row =>
      match row.operation with
      | .openBranch _ => opensBranch row.code
      | .elseBranch => switchesBranch row.code
      | .closeBranch => closesBranch row.code
      | _ => true) = true := by decide
  refine ⟨?_, ?_, ?_⟩
  · rintro negated rfl
    rcases exists_entry_of_operation same nofun nofun with ⟨row, member, rfl, operation⟩
    have opens := List.all_eq_true.mp rows row member
    rwa [operation] at opens
  · rintro rfl
    rcases exists_entry_of_operation same nofun nofun with ⟨row, member, rfl, operation⟩
    have switches := List.all_eq_true.mp rows row member
    rwa [operation] at switches
  · rintro rfl
    rcases exists_entry_of_operation same nofun nofun with ⟨row, member, rfl, operation⟩
    have closes := List.all_eq_true.mp rows row member
    rwa [operation] at closes

theorem opensBranch_iff :
    opensBranch opcode = true ↔ ∃ negated, operation opcode = .openBranch negated := by
  constructor
  · intro opens
    rcases Bool.or_eq_true_iff.mp opens with same | same
    · exact ⟨false, by rw [eq_of_beq same]; decide⟩
    · exact ⟨true, by rw [eq_of_beq same]; decide⟩
  · rintro ⟨negated, same⟩
    exact (branching_of_operation same).1 negated rfl

theorem switchesBranch_iff : switchesBranch opcode = true ↔ operation opcode = .elseBranch := by
  constructor
  · intro switches
    rw [eq_of_beq switches]
    decide
  · intro same
    exact (branching_of_operation same).2.1 rfl

theorem closesBranch_iff : closesBranch opcode = true ↔ operation opcode = .closeBranch := by
  constructor
  · intro closes
    rw [eq_of_beq closes]
    decide
  · intro same
    exact (branching_of_operation same).2.2 rfl

private theorem operation_of_isReserved (reserved : isReserved opcode = true) :
    operation opcode = .reservedBranch := by
  rcases Bool.or_eq_true_iff.mp reserved with same | same
  · rw [eq_of_beq same]
    decide
  · rw [eq_of_beq same]
    decide

private theorem operation_of_multiplies (multiplies : multiplies opcode = true) :
    operation opcode = .binary .mul := by
  rw [eq_of_beq multiplies]
  decide

private theorem operation_of_isRetired (retired : isRetired opcode = true) :
    operation opcode = .disabled := by
  have retirees : [0x83, 0x8d, 0x8e, 0x98, 0x99].all (fun opcode => operation opcode == .disabled) =
      true := by decide
  exact eq_of_beq (List.all_eq_true.mp retirees opcode (List.contains_iff_mem.mp retired))

end Opcode

namespace Interpreter

/-! ## The number of open branches -/

/-- The number of instructions that open a branch. -/
def openings (instructions : List Instruction) : Nat :=
  instructions.countP fun instruction => Opcode.opensBranch instruction.opcode

/-- The number of instructions that close a branch. -/
def closings (instructions : List Instruction) : Nat :=
  instructions.countP fun instruction => Opcode.closesBranch instruction.opcode

variable {vm : Interpreter} {instruction : Instruction} {next : Nat} {machine after : Machine}

/-- What instructions do to open branches: their number is counted, and metered work
keeps it within its limit. -/
structure CountsBranches (vm : Interpreter) (instructions : List Instruction)
    (machine after : Machine) : Prop where
  count : after.branches.length + closings instructions = machine.branches.length +
    openings instructions
  few : vm.isMetered = true -> machine.branches.length ≤ vm.limits.maxConditionalDepth.toNat ->
    after.branches.length ≤ vm.limits.maxConditionalDepth.toNat

theorem CountsBranches.append {front rest : List Instruction} {middle : Machine}
    (first : vm.CountsBranches front machine middle)
    (second : vm.CountsBranches rest middle after) :
    vm.CountsBranches (front ++ rest) machine after := by
  refine ⟨?_, fun metered start => second.few metered (first.few metered start)⟩
  have firstCount := first.count
  have secondCount := second.count
  rw [openings, closings, List.countP_append, List.countP_append, ← openings, ← openings,
    ← closings, ← closings]
  omega

private theorem openings_singleton :
    openings [instruction] = (Opcode.operation instruction.opcode).opened := by
  rw [openings, List.countP_singleton]
  by_cases opens : Opcode.opensBranch instruction.opcode = true
  · rcases Opcode.opensBranch_iff.mp opens with ⟨negated, operation⟩
    rw [if_pos opens, operation]
    rfl
  · rw [if_neg opens]
    cases operation : Opcode.operation instruction.opcode with
    | openBranch negated => exact absurd (Opcode.opensBranch_iff.mpr ⟨negated, operation⟩) opens
    | _ => rfl

private theorem closings_singleton :
    closings [instruction] = (Opcode.operation instruction.opcode).closed := by
  rw [closings, List.countP_singleton]
  by_cases closes : Opcode.closesBranch instruction.opcode = true
  · rw [if_pos closes, Opcode.closesBranch_iff.mp closes]
    rfl
  · rw [if_neg closes]
    cases operation : Opcode.operation instruction.opcode with
    | closeBranch => exact absurd (Opcode.closesBranch_iff.mpr operation) closes
    | _ => rfl

/-- An instruction opens a branch, closes one, or leaves their number. -/
private theorem countsBranches_of_carryOut
    (carried : vm.carryOut instruction next machine = .ok () after) :
    vm.CountsBranches [instruction] machine after := by
  cases concerns : (Opcode.operation instruction.opcode).concernsBranches with
  | false =>
      have same := branches_of_carryOut concerns carried
      refine ⟨?_, fun _ few => same ▸ few⟩
      rw [openings_singleton, closings_singleton, same]
      cases operation : Opcode.operation instruction.opcode with
      | openBranch | elseBranch | closeBranch | reservedBranch =>
          rw [operation] at concerns
          cases concerns
      | _ => rfl
  | true =>
      rw [carryOut_of_concernsBranches concerns] at carried
      cases operation : Opcode.operation instruction.opcode with
      | openBranch negated =>
          rw [operation] at carried
          rcases eq_of_openBranch carried with ⟨⟨taken, rfl, _⟩, few⟩
          refine ⟨?_, fun metered _ => few metered⟩
          rw [openings_singleton, closings_singleton, operation]
          rfl
      | elseBranch =>
          rw [operation] at carried
          rcases eq_of_elseBranch carried with ⟨taken, rest, before, rfl⟩
          have same : ((!taken) :: rest).length = machine.branches.length := by
            rw [before, List.length_cons, List.length_cons]
          refine ⟨?_, fun _ few => same ▸ few⟩
          rw [openings_singleton, closings_singleton, operation, same]
          rfl
      | closeBranch =>
          rw [operation] at carried
          rcases eq_of_closeBranch carried with ⟨taken, rest, before, rfl⟩
          refine ⟨?_, fun _ few => Nat.le_of_succ_le ?_⟩
          · rw [openings_singleton, closings_singleton, operation, before]
            rfl
          · rwa [before, List.length_cons] at few
      | reservedBranch =>
          rw [operation] at carried
          exact (Sequencing.throw_ne_ok carried).elim
      | _ =>
          rw [operation] at concerns
          cases concerns

private theorem countsBranches_of_runFrom {start : Nat} {instructions : List Instruction}
    (ran : vm.runFrom start instructions machine = .ok () after) :
    vm.CountsBranches instructions machine after := by
  induction instructions generalizing start machine with
  | nil =>
      rw [← (Sequencing.pure_eq_ok_iff.mp ran).2]
      exact ⟨rfl, fun _ few => few⟩
  | cons first rest inductionHypothesis =>
      rcases Sequencing.bind_eq_ok_iff.mp ran with ⟨_, middle, stepped, remaining⟩
      rcases step_eq_ok_iff.mp stepped with ⟨permitted, permits, carried, _⟩
      rw [← eq_of_permit permits] at carried
      have counts := countsBranches_of_carryOut carried
      have counted : vm.CountsBranches [first] machine middle := ⟨counts.count, counts.few⟩
      exact counted.append (inductionHypothesis remaining)

/-! ## The rules -/

/-- A script obeys the rules that hold in every branch. -/
structure ObeysStaticRules (vm : Interpreter) (script : Script) : Prop where
  complete : script.layout.tail = []
  short : forall instruction, instruction ∈ script.instructions ->
    forall data, instruction.data = some data ->
    data.length ≤ vm.maxElementSize
  unretired : forall instruction, instruction ∈ script.instructions ->
    Opcode.isRetired instruction.opcode = false
  multiplies : forall instruction, instruction ∈ script.instructions ->
    Opcode.multiplies instruction.opcode = true ->
    vm.enables .integers64 = true ∨ vm.enables .may2025 = true
  unreserved : forall instruction, instruction ∈ script.instructions ->
    Opcode.isReserved instruction.opcode = false
  /-- No branch is closed that has not been opened. -/
  opened : forall front rest, script.instructions = front ++ rest -> closings front ≤ openings front
  /-- No branch is left open. -/
  closed : closings script.instructions = openings script.instructions
  /-- Only an open branch is switched. -/
  switched : forall front switch rest, script.instructions = front ++ switch :: rest ->
    Opcode.switchesBranch switch.opcode = true -> closings front < openings front
  /-- Branches are not nested too deeply. -/
  nested : vm.enables .may2025 = true -> forall front rest, script.instructions = front ++ rest ->
    openings front ≤ closings front + vm.limits.maxConditionalDepth.toNat

private theorem isRetired_of_permit (permits : vm.permit instruction machine = .ok () after) :
    Opcode.isRetired instruction.opcode = false := by
  have enabled := enabled_of_permit permits
  rw [← Bool.not_eq_true]
  intro retired
  rw [isDisabled, Opcode.isDisabled, Opcode.operation_of_isRetired retired] at enabled
  cases enabled

private theorem enables_of_permit (permits : vm.permit instruction machine = .ok () after)
    (multiplies : Opcode.multiplies instruction.opcode = true) :
    vm.enables .integers64 = true ∨ vm.enables .may2025 = true := by
  have enabled := enabled_of_permit permits
  rw [isDisabled, Opcode.isDisabled, Opcode.operation_of_multiplies multiplies,
    isMetered] at enabled
  cases wide : vm.enables .integers64 with
  | true => exact Or.inl rfl
  | false =>
      rw [wide] at enabled
      cases metered : vm.enables .may2025 with
      | true => exact Or.inr rfl
      | false =>
          rw [metered] at enabled
          cases enabled

private theorem isReserved_of_carryOut
    (carried : vm.carryOut instruction next machine = .ok () after) :
    Opcode.isReserved instruction.opcode = false := by
  rw [← Bool.not_eq_true]
  intro reserved
  have operation := Opcode.operation_of_isReserved reserved
  rw [carryOut_of_concernsBranches (by rw [operation]; rfl), operation] at carried
  exact Sequencing.throw_ne_ok carried

private theorem branches_of_switchesBranch
    (carried : vm.carryOut instruction next machine = .ok () after)
    (switches : Opcode.switchesBranch instruction.opcode = true) : 0 < machine.branches.length := by
  have operation := Opcode.switchesBranch_iff.mp switches
  rw [carryOut_of_concernsBranches (by rw [operation]; rfl), operation] at carried
  rcases eq_of_elseBranch carried with ⟨taken, rest, before, _⟩
  rw [before]
  exact Nat.succ_pos rest.length

/-- Every instruction of a run was permitted and carried out, on the branches that
were open behind the instructions before it. -/
private theorem exists_carryOut_of_runFrom {start : Nat} {front rest : List Instruction}
    (ran : vm.runFrom start (front ++ instruction :: rest) machine = .ok () after) :
    ∃ before permitted offset carried, vm.CountsBranches front machine before ∧
      vm.permit instruction before = .ok () permitted ∧ permitted.branches = before.branches ∧
        vm.carryOut instruction offset permitted = .ok () carried := by
  rcases exists_of_runFrom_append ran with ⟨offset, before, ranFront, ranRest⟩
  rcases Sequencing.bind_eq_ok_iff.mp ranRest with ⟨_, stepped, steps, _⟩
  rcases step_eq_ok_iff.mp steps with ⟨permitted, permits, carried, _⟩
  refine ⟨before, permitted, _, stepped, countsBranches_of_runFrom ranFront, permits, ?_, carried⟩
  rw [← eq_of_permit permits]

private theorem obeysStaticRules_of_run {script : Script} (fresh : machine.branches = [])
    (ran : vm.run script machine = .ok () after) : vm.ObeysStaticRules script := by
  rcases run_eq_ok_iff.mp ran with ⟨ran, wellFormed, closed⟩
  have carriedOut (instruction : Instruction) (member : instruction ∈ script.instructions) :
      ∃ before permitted offset carried, vm.permit instruction before = .ok () permitted ∧
        vm.carryOut instruction offset permitted = .ok () carried := by
    rcases List.append_of_mem member with ⟨front, rest, split⟩
    rw [split] at ran
    rcases exists_carryOut_of_runFrom ran with
      ⟨before, permitted, offset, carried, _, permits, _, carries⟩
    exact ⟨before, permitted, offset, carried, permits, carries⟩
  have counts (front rest : List Instruction) (split : script.instructions = front ++ rest) :
      ∃ middle, vm.CountsBranches front machine middle := by
    rw [split] at ran
    rcases exists_of_runFrom_append ran with ⟨_, middle, ranFront, _⟩
    exact ⟨middle, countsBranches_of_runFrom ranFront⟩
  have none : machine.branches.length = 0 := by rw [fresh, List.length_nil]
  refine ⟨List.isEmpty_iff.mp wellFormed, ?short, ?unretired, ?multiplies, ?unreserved, ?opened,
    ?closed, ?switched, ?nested⟩
  case short =>
    intro instruction member data same
    rcases carriedOut instruction member with ⟨_, _, _, _, permits, _⟩
    have length := length_le_of_permit permits
    rwa [same] at length
  case unretired =>
    intro instruction member
    rcases carriedOut instruction member with ⟨_, _, _, _, permits, _⟩
    exact isRetired_of_permit permits
  case multiplies =>
    intro instruction member multiplies
    rcases carriedOut instruction member with ⟨_, _, _, _, permits, _⟩
    exact enables_of_permit permits multiplies
  case unreserved =>
    intro instruction member
    rcases carriedOut instruction member with ⟨_, _, _, _, _, carried⟩
    exact isReserved_of_carryOut carried
  case opened =>
    intro front rest split
    rcases counts front rest split with ⟨middle, counted⟩
    have count := counted.count
    omega
  case closed =>
    have count := (countsBranches_of_runFrom ran).count
    rw [closed, List.length_nil] at count
    omega
  case switched =>
    intro front switch rest split switches
    rw [split] at ran
    rcases exists_carryOut_of_runFrom ran with ⟨before, permitted, _, _, counted, _, same, carried⟩
    have count := counted.count
    have open' := branches_of_switchesBranch carried switches
    rw [same] at open'
    omega
  case nested =>
    intro metered front rest split
    rcases counts front rest split with ⟨middle, counted⟩
    have count := counted.count
    have few := counted.few metered (none ▸ Nat.zero_le _)
    omega

/-- A script that is evaluated obeys the rules for every branch, also where its
instructions are not carried out.  Wherever the run of a script has come to, the
instructions that it has gone through tell how many branches are open. -/
theorem evaluate_obeysStaticRules (vm : Interpreter) (script : Script) (session : Session) :
    (forall after, vm.evaluate script session = .ok () after -> vm.ObeysStaticRules script) ∧
    forall count machine,
      vm.runFrom 0 (script.instructions.take count) { toSession := session, script := script } =
          .ok () machine ->
        machine.branches.length + closings (script.instructions.take count) =
          openings (script.instructions.take count) := by
  constructor
  · intro after evaluated
    rcases evaluate_eq_ok_iff.mp evaluated with ⟨_, machine, ran, _⟩
    exact obeysStaticRules_of_run rfl ran
  · intro count machine ran
    have counted := (countsBranches_of_runFrom ran).count
    rwa [List.length_nil, Nat.zero_add] at counted

/-- An interpreter for metered work, which limits how deeply branches are nested. -/
private def branchingInterpreter : Interpreter where
  rules := .ofFlags Rule.may2025.publicMask
  verifier _ := .ok false

/-- A script that passes over a branch with a failure. -/
private def skipReturn : Script where
  bytes := [0x00, 0x63, 0x6a, 0x67, 0x51, 0x68]

/-- The rules hold in the branch that is passed over, in which one branch is open. -/
theorem evaluate_obeysStaticRules_skipReturn :
    branchingInterpreter.evaluate skipReturn {} =
        .ok () { stack := [[1]], metrics := { opCost := 601 } } ∧
      branchingInterpreter.ObeysStaticRules skipReturn ∧
      ∃ machine,
        branchingInterpreter.runFrom 0 (skipReturn.instructions.take 3) { script := skipReturn } =
          .ok () machine ∧ machine.branches.length + 0 = 1 := by
  have instructions : skipReturn.instructions =
      [⟨0x00, [], some []⟩, ⟨0x63, [], none⟩, ⟨0x6a, [], none⟩, ⟨0x67, [], none⟩, ⟨0x51, [], none⟩,
        ⟨0x68, [], none⟩] := by decide +kernel
  have evaluated : branchingInterpreter.evaluate skipReturn {} =
      .ok () { stack := [[1]], metrics := { opCost := 601 } } := by
    have ran : branchingInterpreter.runFrom 0 skipReturn.instructions { script := skipReturn } =
        .ok ()
          { stack := [[1]], metrics := { opCost := 601 }, script := skipReturn, opCount := 4 } := by
      rw [instructions]
      rfl
    exact evaluate_eq_ok_iff.mpr
      ⟨by decide, _, run_eq_ok_iff.mpr ⟨ran, by decide +kernel, rfl⟩, rfl⟩
  have ran :
      branchingInterpreter.runFrom 0 (skipReturn.instructions.take 3) { script := skipReturn } =
        .ok ()
          { branches := [false]
            metrics := { opCost := 300 }
            script := skipReturn
            opCount := 2 } := by
    rw [instructions]
    rfl
  rcases evaluate_obeysStaticRules branchingInterpreter skipReturn {} with ⟨obeys, counted⟩
  have count := counted 3 _ ran
  rw [instructions] at count
  exact ⟨evaluated, obeys _ evaluated, _, ran, count⟩

end Interpreter

end SpendRules
