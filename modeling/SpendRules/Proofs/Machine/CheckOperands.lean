import SpendRules.Proofs.Machine.Progress
import SpendRules.Proofs.Machine.SignatureChecks
import SpendRules.Proofs.Machine.Steps

namespace SpendRules

/-!
# What a signature check finds on the stack

The operations that check signatures differ in what they take from the stack and
in what they ask about it, and agree in the rest: the elements that they took are
replaced by a truth value, which may be required.  The two ways of a multiple
signature are different checks here, and which one is made is seen on the stack.

An operation either fails before it has asked or counted anything, or it finds a
check and goes on with its verdict.  Before that, the keys of a multiple signature
are counted as operations, and may be too many.
-/

/-- A check of signatures, with everything it is about but the script code. -/
inductive SignatureCheck where
  /-- One signature of the transaction. -/
  | single (signature key : Bytes)
  /-- One signature of a message. -/
  | data (signature message key : Bytes)
  /-- Signatures of the transaction, which are matched with keys. -/
  | matching (signatures keys : List Bytes)
  /-- Signatures of the transaction, for keys that a bitfield selects. -/
  | selection (bitfield : Bytes) (signatures keys : List Bytes)

namespace SignatureCheck

def signatures : SignatureCheck -> List Bytes
  | single signature _ | data signature _ _ => [signature]
  | matching signatures _ | selection _ signatures _ => signatures

/-- The check may be one of no signatures. -/
def isMultiple : SignatureCheck -> Bool
  | single _ _ | data _ _ _ => false
  | matching _ _ | selection _ _ _ => true

end SignatureCheck

namespace Interpreter

variable (vm : Interpreter)

/-- The element is read as a count. -/
def ReadsCount (element : Bytes) (count : Nat) : Prop :=
  ∃ number, ScriptNumber.decode element (vm.enables .minimalData) vm.numberBounds.operandSize =
      .ok number ∧
    ScriptNumber.clamp number = count

/-- The element below all signatures decides how they are checked. -/
def multipleCheck (bitfield : Bytes) (signatures keys : List Bytes) : SignatureCheck :=
  if vm.enables .schnorrMultisig && !bitfield.isEmpty then .selection bitfield signatures keys
  else .matching signatures keys

/-- An operation finds a check on top of the rest of the stack. -/
inductive Finds : Operation -> List Bytes -> SignatureCheck -> List Bytes -> Prop where
  | single {required : Bool} {key signature : Bytes} {rest : List Bytes} :
    Finds (.checkSig required) (key :: signature :: rest) (.single signature key) rest
  | data {required : Bool} {key message signature : Bytes} {rest : List Bytes} :
    Finds (.checkDataSig required) (key :: message :: signature :: rest)
      (.data signature message key) rest
  | multiple {required : Bool} {keyCount sigCount bitfield : Bytes}
    {keys signatures rest : List Bytes}
    (keysCounted : vm.ReadsCount keyCount keys.length)
    (sigsCounted : vm.ReadsCount sigCount signatures.length) :
    Finds (.checkMultiSig required)
      (keyCount :: (keys ++ sigCount :: (signatures ++ bitfield :: rest)))
      (vm.multipleCheck bitfield signatures keys) rest

/-- The script code that signatures of a check sign: that of the machine without
them. -/
def signedCode (machine : Machine) (check : SignatureCheck) : Script :=
  check.signatures.foldl vm.withoutSignature machine.scriptCode

/-- Make a check of signatures for a script code. -/
def verdict (code : Script) : SignatureCheck -> Step Bool
  | .single signature key => do
    Step.ofExcept (Signature.checkTransaction signature vm.rules)
    Step.ofExcept (Signature.checkKey key vm.rules)
    let valid <- vm.checkSignature signature key code
    vm.demandEmpty valid [signature]
    if !signature.isEmpty then vm.countSigChecks 1
    return valid
  | .data signature message key => do
    Step.ofExcept (Signature.checkData signature vm.rules)
    Step.ofExcept (Signature.checkKey key vm.rules)
    let valid <- vm.checkDataSignature signature message key
    vm.demandEmpty valid [signature]
    return valid
  | .matching signatures keys => vm.checkMultiSigByMatching code signatures keys
  | .selection bitfield signatures keys => vm.checkMultiSigBySelection code bitfield signatures keys

/-- Verdicts compare where the steps compare that check signatures. -/
theorem ChecksAlike.verdict {c : Comparison} {vm vm' : Interpreter} (alike : ChecksAlike c vm vm')
    (code : Script) (check : SignatureCheck) :
    c.holds (vm.verdict code check) (vm'.verdict code check) := by
  cases check with
  | single signature key =>
      refine c.sequence (alike.checkTransaction signature) fun _ admitted =>
        c.bind (alike.checkKey key) fun _ => ?_
      refine c.bind (alike.checkSignature signature key code (Step.yields_ofExcept_iff.mp admitted))
        fun valid => ?_
      refine c.bind (alike.demandEmpty valid [signature]) fun _ => c.ite ?_ (c.pure valid)
      exact c.bind (alike.countSigChecks 1) fun _ => c.pure valid
  | data signature message key =>
      refine c.bind (alike.checkData signature) fun _ => c.bind (alike.checkKey key) fun _ => ?_
      refine c.bind (alike.checkDataSignature alike.chargeHash signature message key)
        fun valid => ?_
      exact c.bind (alike.demandEmpty valid [signature]) fun _ => c.pure valid
  | matching signatures keys => exact alike.checkMultiSigByMatching code signatures keys
  | selection bitfield signatures keys =>
      exact alike.checkMultiSigBySelection code bitfield signatures keys

/-- Leave a truth value on the rest of the stack, or demand that it is true. -/
def conclude (required : Bool) (failure : ScriptError) (rest : List Bytes) (valid : Bool) :
    Step Unit := do
  Step.setStack rest
  vm.pushBool valid
  Step.verifyTopIf required failure

/-- The number of keys that an operation finds announced on top of the stack. -/
def announcedKeys : Operation -> List Bytes -> Nat
  | .checkMultiSig _, element :: _ =>
    match ScriptNumber.decode element (vm.enables .minimalData) vm.numberBounds.operandSize with
    | .ok number => (ScriptNumber.clamp number).toNat
    | .error _ => 0
  | _, _ => 0

/-- What the number of operations becomes when the announced keys are counted. -/
structure CountsKeys (operation : Operation) (machine : Machine) (opCount : Nat) : Prop where
  count : opCount = machine.opCount + vm.announcedKeys operation machine.stack
  few : machine.opCount ≤ vm.limits.maxOps.toNat -> opCount ≤ vm.limits.maxOps.toNat

variable {vm}

/-! ## At most one check is found -/

theorem ReadsCount.unique {element : Bytes} {count other : Nat}
    (first : vm.ReadsCount element count) (second : vm.ReadsCount element other) :
    count = other := by
  rcases first with ⟨number, decoded, same⟩
  rcases second with ⟨number', decoded', same'⟩
  have numbers : number = number' := Except.ok.inj (decoded.symm.trans decoded')
  rw [numbers, same'] at same
  exact Int.ofNat.inj same.symm

/-- At most one check is found on a stack. -/
theorem Finds.unique {operation : Operation} {stack rest rest' : List Bytes}
    {check check' : SignatureCheck} (first : vm.Finds operation stack check rest)
    (second : vm.Finds operation stack check' rest') :
    check = check' ∧ rest = rest' := by
  -- The counts fix where the lists end.
  have parts {element element' : Bytes} {list list' tail tail' : List Bytes}
      (counted : vm.ReadsCount element list.length) (counted' : vm.ReadsCount element' list'.length)
      (same : element :: (list ++ tail) = element' :: (list' ++ tail')) : list = list' ∧
        tail = tail' := by
    injection same with element same
    rw [element] at counted
    exact List.append_inj same (counted.unique counted')
  generalize given : stack = found at second
  cases first with
  | single =>
      cases second
      cases given
      exact ⟨rfl, rfl⟩
  | data =>
      cases second
      cases given
      exact ⟨rfl, rfl⟩
  | multiple keysCounted sigsCounted =>
      cases second with
      | multiple keysCounted' sigsCounted' =>
          rcases parts keysCounted keysCounted' given with ⟨rfl, below⟩
          rcases parts sigsCounted sigsCounted' below with ⟨rfl, last⟩
          cases last
          exact ⟨rfl, rfl⟩

/-! ## Operations find checks -/

/-- The result of carrying out an operation that checks signatures. -/
inductive Carries (vm : Interpreter) (operation : Operation) (machine : Machine) :
    EStateM.Result ScriptError Machine Unit -> Prop where
  /-- Nothing was asked or counted as a check yet. -/
  | refused {failure : ScriptError} (stops : failure.stopsSteps = true) (opCount : Nat) :
    Carries vm operation machine (.error failure { machine with opCount := opCount })
  /-- There are too many keys. -/
  | exceeded
    (many : vm.limits.maxOps.toNat < machine.opCount + vm.announcedKeys operation machine.stack)
    (opCount : Nat) :
    Carries vm operation machine (.error .opCount { machine with opCount := opCount })
  | judged {check : SignatureCheck} {rest : List Bytes}
    (found : vm.Finds operation machine.stack check rest)
    (required : Bool) {failure : ScriptError} (stops : failure.stopsSteps = true) (opCount : Nat)
    (counts : vm.isMetered = false -> vm.CountsKeys operation machine opCount) :
    Carries vm operation machine
      ((vm.verdict (vm.signedCode machine check) check >>= vm.conclude required failure rest)
        { machine with opCount := opCount })

private theorem Carries.of_eq {operation : Operation} {machine : Machine} {check : SignatureCheck}
    {rest : List Bytes} {result : EStateM.Result ScriptError Machine Unit}
    (found : vm.Finds operation machine.stack check rest) (required : Bool) {failure : ScriptError}
    (stops : failure.stopsSteps = true) {opCount : Nat}
    (counts : vm.isMetered = false -> vm.CountsKeys operation machine opCount)
    (same : result = (vm.verdict (vm.signedCode machine check) check >>=
      vm.conclude required failure rest) { machine with opCount := opCount }) :
    Carries vm operation machine result :=
  same ▸ .judged found required stops opCount counts

private theorem carries_checkSig (required : Bool) (machine : Machine) :
    Carries vm (.checkSig required) machine (vm.checkSig required machine) := by
  rw [checkSig, Step.stack_bind]
  rcases stack : machine.stack with _ | ⟨key, _ | ⟨signature, rest⟩⟩
  · exact .refused rfl machine.opCount
  · exact .refused rfl machine.opCount
  have found : vm.Finds (.checkSig required) machine.stack (.single signature key) rest :=
    stack ▸ .single
  refine .of_eq found required (rfl : ScriptError.checkSigVerify.stopsSteps = true)
    (fun _ => ⟨rfl, id⟩) ?_
  simp only [verdict, Step.ofExcept_bind_get, Sequencing.get_bind, bind_assoc]
  cases signature.isEmpty with
  | true => simp only [Bool.not_true, Bool.false_eq_true, if_false, pure_bind]; rfl
  | false => simp only [Bool.not_false, if_true, bind_assoc, pure_bind]; rfl

private theorem carries_checkDataSig (required : Bool) (machine : Machine) :
    Carries vm (.checkDataSig required) machine (vm.checkDataSig required machine) := by
  rw [checkDataSig, Step.stack_bind]
  rcases stack : machine.stack with _ | ⟨key, _ | ⟨message, _ | ⟨signature, rest⟩⟩⟩
  · exact .refused rfl machine.opCount
  · exact .refused rfl machine.opCount
  · exact .refused rfl machine.opCount
  have found : vm.Finds (.checkDataSig required) machine.stack (.data signature message key) rest :=
    stack ▸ .data
  refine .of_eq found required (rfl : ScriptError.checkDataSigVerify.stopsSteps = true)
    (fun _ => ⟨rfl, id⟩) ?_
  simp only [verdict, bind_assoc, pure_bind]
  rfl

/-- A count is read off an element, or nothing happens. -/
private theorem countAt_cases (index bound : Nat) {failure : ScriptError}
    (stops : failure.stopsSteps = true) (machine : Machine) :
    (∃ other, other.stopsSteps = true ∧
        vm.countAt index bound failure machine = .error other machine) ∨
      ∃ element count, machine.stack[index]? = some element ∧ vm.ReadsCount element count ∧
        vm.countAt index bound failure machine = .ok count machine := by
  simp only [countAt, Sequencing.throw_bind]
  cases found : machine.stack[index]? with
  | none =>
      left
      have missing : Step.elementAt index machine = .error .invalidStackOperation machine := by
        rw [Step.elementAt, Step.stack_bind, found]
        rfl
      exact ⟨_, rfl, Sequencing.bind_of_error missing _⟩
  | some element =>
      rw [Sequencing.bind_of_ok (Step.elementAt_eq_ok_iff.mpr ⟨found, rfl⟩)]
      cases decoded : ScriptNumber.decode element (vm.enables .minimalData)
        vm.numberBounds.operandSize with
      | error other =>
          left
          refine ⟨other, ScriptNumber.stopsSteps_decode _ _ _ other decoded,
            Sequencing.bind_of_error ?_ _⟩
          rw [operand, decoded]
          rfl
      | ok number =>
          have read : vm.operand element machine = .ok number machine := by
            rw [operand, decoded]
            rfl
          rw [Sequencing.bind_of_ok read]
          by_cases outside : ScriptNumber.clamp number < 0 ∨ ScriptNumber.clamp number > bound
          · rw [if_pos outside]
            exact Or.inl ⟨failure, stops, rfl⟩
          · rw [if_neg outside]
            have count : ScriptNumber.clamp number = (ScriptNumber.clamp number).toNat := by omega
            exact Or.inr ⟨element, _, rfl, ⟨number, decoded, count⟩, rfl⟩

/-- Counting keys changes the number of operations only, unless there are too many
of them. -/
private theorem countKeys_cases (keyCount : Nat) (machine : Machine) :
    ∃ opCount,
      (vm.limits.maxOps.toNat < machine.opCount + keyCount ∧
        vm.countKeys keyCount machine = .error .opCount { machine with opCount := opCount }) ∨
      ((vm.isMetered = false -> opCount = machine.opCount + keyCount ∧
          opCount ≤ vm.limits.maxOps.toNat) ∧
        vm.countKeys keyCount machine = .ok () { machine with opCount := opCount }) := by
  unfold countKeys
  cases vm.isMetered with
  | true => exact ⟨machine.opCount, Or.inr ⟨nofun, rfl⟩⟩
  | false =>
      refine ⟨machine.opCount + keyCount, ?_⟩
      rw [Bool.not_false, if_pos rfl, Sequencing.modify_bind, Sequencing.get_bind]
      by_cases many : machine.opCount + keyCount > vm.limits.maxOps.toNat
      · rw [if_pos many]
        exact Or.inl ⟨many, rfl⟩
      · rw [if_neg many]
        exact Or.inr ⟨fun _ => ⟨rfl, Nat.le_of_not_lt many⟩, rfl⟩

private theorem announcedKeys_of_readsCount {stack : List Bytes} {element : Bytes} {count : Nat}
    (required : Bool) (onTop : stack[0]? = some element) (reads : vm.ReadsCount element count) :
    vm.announcedKeys (.checkMultiSig required) stack = count := by
  rcases reads with ⟨number, decoded, same⟩
  cases stack with
  | nil => cases onTop
  | cons top rest =>
      cases onTop
      unfold announcedKeys
      dsimp only
      rw [decoded]
      dsimp only
      rw [same, Int.toNat_natCast]

/-- A list from a position on, split before a later element. -/
private theorem drop_eq_of_getElem? {list : List Bytes} {start count : Nat} {element : Bytes}
    (found : list[start + count]? = some element) :
    list.drop start = (list.drop start).take count ++ element :: list.drop (start + count + 1) ∧
      ((list.drop start).take count).length = count := by
  rcases List.getElem?_eq_some_iff.mp found with ⟨within, same⟩
  constructor
  · have rest : (list.drop start).drop count = element :: list.drop (start + count + 1) := by
      rw [List.drop_drop, List.drop_eq_getElem_cons within, same]
    rw [← rest, List.take_append_drop]
  · rw [List.length_take, List.length_drop]
    omega

/-- Where the counts and the bitfield are found, the check lies between them. -/
private theorem finds_multipleCheck {stack : List Bytes}
    {keyCountElement sigCountElement bitfield : Bytes} {keyCount sigCount : Nat} (required : Bool)
    (readsKeyCount : vm.ReadsCount keyCountElement keyCount)
    (readsSigCount : vm.ReadsCount sigCountElement sigCount)
    (foundKeyCount : stack[0]? = some keyCountElement)
    (foundSigCount : stack[1 + keyCount]? = some sigCountElement)
    (foundBitfield : stack[2 + keyCount + sigCount]? = some bitfield) :
    vm.Finds (.checkMultiSig required) stack
      (vm.multipleCheck bitfield ((stack.drop (2 + keyCount)).take sigCount)
        ((stack.drop 1).take keyCount))
      (stack.drop (3 + keyCount + sigCount)) := by
  rcases drop_eq_of_getElem? (Nat.zero_add 0 ▸ foundKeyCount) with ⟨whole, _⟩
  rcases drop_eq_of_getElem? foundSigCount with ⟨belowKeyCount, keysLength⟩
  rcases drop_eq_of_getElem? foundBitfield with ⟨belowSigCount, signaturesLength⟩
  have positions : 1 + keyCount + 1 = 2 + keyCount ∧
      2 + keyCount + sigCount + 1 = 3 + keyCount + sigCount := by omega
  rw [positions.1, belowSigCount, positions.2] at belowKeyCount
  rw [List.drop_zero, List.take_zero, List.nil_append, Nat.zero_add, belowKeyCount] at whole
  rw [← keysLength] at readsKeyCount
  rw [← signaturesLength] at readsSigCount
  have found : vm.Finds (.checkMultiSig required) _ (vm.multipleCheck bitfield _ _)
      (stack.drop (3 + keyCount + sigCount)) := .multiple readsKeyCount readsSigCount
  rwa [← whole] at found

private theorem signatures_multipleCheck (bitfield : Bytes) (signatures keys : List Bytes) :
    (vm.multipleCheck bitfield signatures keys).signatures = signatures := by
  unfold multipleCheck
  split
  · rfl
  · rfl

private theorem verdict_multipleCheck (code : Script) (bitfield : Bytes)
    (signatures keys : List Bytes) :
    vm.verdict code (vm.multipleCheck bitfield signatures keys) =
      if vm.enables .schnorrMultisig && !bitfield.isEmpty then
        vm.checkMultiSigBySelection code bitfield signatures keys
      else vm.checkMultiSigByMatching code signatures keys := by
  unfold multipleCheck
  split
  · rfl
  · rfl

private theorem carries_checkMultiSig (required : Bool) (machine : Machine) :
    Carries vm (.checkMultiSig required) machine (vm.checkMultiSig required machine) := by
  unfold checkMultiSig
  rcases countAt_cases 0 vm.limits.maxPubkeysPerMultisig.toNat
    (rfl : ScriptError.pubkeyCount.stopsSteps = true) machine with
    ⟨failure, stops, failed⟩ | ⟨keyCountElement, keyCount, foundKeyCount, readsKeyCount, counted⟩
  · rw [Sequencing.bind_of_error failed]
    exact .refused stops machine.opCount
  rw [Sequencing.bind_of_ok counted]
  have announced : vm.announcedKeys (.checkMultiSig required) machine.stack = keyCount :=
    announcedKeys_of_readsCount required foundKeyCount readsKeyCount
  rcases countKeys_cases keyCount machine with ⟨opCount, ⟨many, failed⟩ | ⟨counts, counted⟩⟩
  · rw [Sequencing.bind_of_error failed]
    exact .exceeded (announced.symm ▸ many) opCount
  rw [Sequencing.bind_of_ok counted]
  rcases countAt_cases (1 + keyCount) keyCount (rfl : ScriptError.sigCount.stopsSteps = true)
    { machine with opCount := opCount } with
    ⟨failure, stops, failed⟩ | ⟨sigCountElement, sigCount, foundSigCount, readsSigCount, counted⟩
  · rw [Sequencing.bind_of_error failed]
    exact .refused stops opCount
  rw [Sequencing.bind_of_ok counted, Step.require_bind_get, Sequencing.get_bind]
  by_cases short : machine.stack.length < 3 + keyCount + sigCount
  · rw [if_pos short]
    exact .refused rfl opCount
  rw [if_neg short]
  have foundBitfield : machine.stack[2 + keyCount + sigCount]? =
      some machine.stack[2 + keyCount + sigCount] :=
    List.getElem?_eq_getElem (by omega)
  have taken : Step.elementAt (2 + keyCount + sigCount) { machine with opCount := opCount } =
      .ok machine.stack[2 + keyCount + sigCount] { machine with opCount := opCount } :=
    Step.elementAt_eq_ok_iff.mpr ⟨foundBitfield, rfl⟩
  dsimp only
  rw [Sequencing.bind_of_ok taken]
  have found := finds_multipleCheck required readsKeyCount readsSigCount foundKeyCount foundSigCount
    foundBitfield
  have keysCounted (unmetered : vm.isMetered = false) :
      vm.CountsKeys (.checkMultiSig required) machine opCount :=
    ⟨by rw [announced, (counts unmetered).1], fun _ => (counts unmetered).2⟩
  refine .of_eq found required (rfl : ScriptError.checkMultiSigVerify.stopsSteps = true)
    keysCounted ?_
  rw [verdict_multipleCheck, signedCode, signatures_multipleCheck]
  split
  · rfl
  · rfl

/-- Carrying out an operation that checks signatures is refused, or its keys are
too many, or a check is found and its verdict concludes. -/
theorem carries_perform {operation : Operation} (checks : operation.checksSignature = true)
    (executing : Bool) (next : Nat) (machine : Machine) :
    Carries vm operation machine (vm.perform operation executing next machine) := by
  cases operation with
  | checkSig required => exact carries_checkSig required machine
  | checkMultiSig required => exact carries_checkMultiSig required machine
  | checkDataSig required => exact carries_checkDataSig required machine
  | _ => cases checks

/-- A success has found a check, come to a verdict and concluded. -/
theorem exists_finds_of_perform {operation : Operation} (checks : operation.checksSignature = true)
    {executing : Bool} {next : Nat} {machine after : Machine}
    (performed : vm.perform operation executing next machine = .ok () after) :
    ∃ check rest required failure opCount valid middle,
        vm.Finds operation machine.stack check rest ∧
      failure.stopsSteps = true ∧
      vm.verdict (vm.signedCode machine check) check { machine with opCount := opCount } =
        .ok valid middle ∧
      vm.conclude required failure rest valid middle = .ok () after := by
  have carries : vm.Carries operation machine _ := carries_perform checks executing next machine
  generalize vm.perform operation executing next machine = result at carries performed
  cases carries with
  | refused _ _ => cases performed
  | exceeded _ _ => cases performed
  | judged found required stops opCount _ =>
      rcases Sequencing.bind_eq_ok_iff.mp performed with ⟨valid, middle, judged, concluded⟩
      exact ⟨_, _, _, _, opCount, valid, middle, found, stops, judged, concluded⟩

/-- The record of signature checks only changes in the verdict. -/
theorem perform_along {progress : Progress CheckRecord} {operation : Operation}
    (checks : operation.checksSignature = true) (executing : Bool) (next : Nat) {machine : Machine}
    (verdicts : forall check rest opCount, vm.Finds operation machine.stack check rest ->
      (progress.on Machine.checkRecord).Along (vm.verdict (vm.signedCode machine check) check)
        { machine with opCount := opCount }) :
    (progress.on Machine.checkRecord).Along (vm.perform operation executing next) machine := by
  have carries : vm.Carries operation machine _ := carries_perform checks executing next machine
  unfold Progress.Along Sequencing.finalState
  generalize vm.perform operation executing next machine = result at carries ⊢
  cases carries with
  | refused _ _ => exact progress.refl _
  | exceeded _ _ => exact progress.refl _
  | judged found required stops opCount _ =>
      have concludes := (corresponds_along vm progress).toWorksAlike.conclude
      exact Progress.Along.bind (verdicts _ _ opCount found) fun valid middle _ =>
        concludes _ valid required _ stops middle

/-! ## Whole instructions -/

/-- While all open branches are taken, an instruction that checks signatures is
carried out. -/
theorem carryOut_of_checksSignature {instruction : Instruction} {machine : Machine}
    (checks : (Opcode.operation instruction.opcode).checksSignature = true)
    (executing : machine.isExecuting = true) (next : Nat) :
    vm.carryOut instruction next machine =
      vm.perform (Opcode.operation instruction.opcode) true next machine := by
  rw [carryOut, Sequencing.get_bind, executing]
  cases operation : Opcode.operation instruction.opcode with
  | checkSig | checkMultiSig | checkDataSig => rfl
  | _ =>
      rw [operation] at checks
      cases checks

/-- The record of signature checks changes only in what an instruction carries
out. -/
theorem step_along {progress : Progress CheckRecord} {instruction : Instruction} {next : Nat}
    {machine : Machine}
    (carries : forall permitted, vm.permit instruction machine = .ok () permitted ->
      (progress.on Machine.checkRecord).Along (vm.carryOut instruction next) permitted) :
    (progress.on Machine.checkRecord).Along (vm.step instruction next) machine := by
  have corresponds := corresponds_along vm progress
  refine Progress.Along.bind (corresponds.permit corresponds.allChanges.toAdmitsCounting instruction
    machine) fun _ permitted permits => ?_
  refine Progress.Along.bind (carries permitted permits) fun _ carried _ => ?_
  exact corresponds.toWorksAlike.checkLimits rfl carried

end Interpreter
end SpendRules
