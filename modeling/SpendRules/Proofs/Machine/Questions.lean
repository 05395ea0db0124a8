import SpendRules.Proofs.Machine.CheckOperands

namespace SpendRules

/-!
# What the verifier is asked

Under strict encoding, the forms of a signature and of its key are checked before
the verifier is asked about them.  Each way of checking signatures does this on
its own, and for transaction signatures the forms are those of the signature
with its hash type, while the question is about the signature without it.

So every question is about a canonical key, and about a signature that has the
form of the scheme under which it is asked about.  The hash type has been
checked as well, so the digest is the one of the composition that the rules
prescribe.
-/

/-- The question is about a canonical key, and about a signature in the form of
the scheme: sixty-four bytes for the newer scheme, and a canonical sequence of
another length for the older one. -/
structure SignatureQuery.IsWellFormed (query : SignatureQuery) : Prop where
  key : Signature.isCanonicalKey query.key = true
  scheme : query.scheme = .schnorr ↔ query.signature.length = 64
  signature : query.signature.length ≠ 64 -> Signature.isCanonical query.signature = true

/-- A number of a chain does not change whether a signature asks for the chain. -/
theorem SigHashType.hasForkId_withForkValue (hashType : SigHashType) (forkValue : UInt32) :
    (hashType.withForkValue forkValue).hasForkId = hashType.hasForkId := by
  have same : (forkValue <<< 8 ||| hashType.raw &&& 0xff) &&& 0x40 = hashType.raw &&& 0x40 := by
    apply UInt32.toBitVec_inj.mp
    apply BitVec.eq_of_getLsbD_eq
    intro bit within
    have single : (0x40#32).getLsbD bit = decide (bit = 6) := by
      revert bit
      decide
    have low : (0xff#32).getLsbD bit = decide (bit < 8) := by
      revert bit
      decide
    simp only [UInt32.toBitVec_and, UInt32.toBitVec_or, UInt32.toBitVec_shiftLeft,
      UInt32.toBitVec_ofNat, BitVec.getLsbD_and, BitVec.getLsbD_or, single, low]
    by_cases sixth : bit = 6
    · subst sixth
      simp
    · simp [sixth]
  unfold hasForkId hasBit withForkValue forkIdBit
  rw [same]

/-- Questions were put to the verifier, and all of them are admitted. -/
def Progress.asking (admitted : VerifierCall -> Prop) : Progress CheckRecord where
  leads before after := ∃ calls, after.calls = calls ++ before.calls ∧ forall call, call ∈ calls ->
    admitted call
  refl _ := ⟨[], rfl, nofun⟩
  trans := by
    rintro first second third ⟨calls, same, admits⟩ ⟨later, same', admits'⟩
    refine ⟨later ++ calls, by rw [same', same, List.append_assoc], fun call member => ?_⟩
    exact (List.mem_append.mp member).elim (admits' call) (admits call)

namespace Interpreter

variable (vm : Interpreter)

/-- The question is about a signature of the transaction, for a script code: the
signature is that of the question and a hash type, and the digest is composed as
the rules prescribe. -/
def SignsTransaction (code : Script) (signature : Bytes) (query : SignatureQuery) : Prop :=
  ∃ context hashByte, vm.context = some context ∧ signature = query.signature ++ [hashByte] ∧
    if vm.enables .forkId then
      SigHash.forkIdDigest context code (vm.hashTypeOf hashByte) vm.rules = .ok query.digest
    else query.digest = SigHash.legacyDigest context.tx context.index code (vm.hashTypeOf hashByte)

/-- The question is one that a check puts for a script code. -/
def Poses (code : Script) : SignatureCheck -> SignatureQuery -> Prop
  | .single signature key, query => query.key = key ∧ vm.SignsTransaction code signature query
  | .data signature message key, query =>
    query.key = key ∧ query.signature = signature ∧ query.digest = Hash.sha256 message
  | .matching signatures keys, query =>
    query.scheme = .ecdsa ∧ query.key ∈ keys ∧ ∃ signature, signature ∈ signatures ∧
      vm.SignsTransaction code signature query
  | .selection _ signatures keys, query =>
    query.scheme = .schnorr ∧ query.key ∈ keys ∧ ∃ signature, signature ∈ signatures ∧
      vm.SignsTransaction code signature query

/-- From every machine, the step puts only questions with a property. -/
def AsksOnly {α : Type} (property : SignatureQuery -> Prop) (step : Step α) : Prop :=
  forall machine, ((Progress.asking fun call => property call.query).on Machine.checkRecord).Along
    step machine

/-- Carrying out the operation on the machine puts the question. -/
def Asks (operation : Operation) (machine : Machine) (call : VerifierCall) : Prop :=
  ∃ executing next calls,
    (Sequencing.finalState (vm.perform operation executing next) machine).calls =
    calls ++ machine.calls ∧ call ∈ calls

variable {vm} {α β : Type} {property : SignatureQuery -> Prop}

/-- Operations that check no signature ask nothing. -/
private theorem checksSignature_of_asks {operation : Operation} {machine : Machine}
    {call : VerifierCall} (asks : vm.Asks operation machine call) :
    operation.checksSignature = true := by
  rcases asks with ⟨executing, next, calls, added, member⟩
  cases checks : operation.checksSignature with
  | true => rfl
  | false =>
      have kept := (corresponds_along vm .still).perform operation executing next (Or.inl rfl)
        (fun impossible => nomatch checks.symm.trans impossible) machine
      have same : (Sequencing.finalState (vm.perform operation executing next) machine).calls =
          machine.calls :=
        congrArg CheckRecord.calls kept
      rw [List.self_eq_append_left.mp (same.symm.trans added)] at member
      cases member

namespace AsksOnly

theorem pure (value : α) : AsksOnly property (Pure.pure value : Step α) :=
  fun _ => .pure value

theorem throw (failure : ScriptError) : AsksOnly property (MonadExcept.throw failure : Step α) :=
  fun _ => .throw failure

theorem bind {step : Step α} {next : α -> Step β} (first : AsksOnly property step)
    (rest : forall value, AsksOnly property (next value)) : AsksOnly property (step >>= next) :=
  fun machine => (first machine).bind fun value middle _ => rest value middle

/-- What comes after a check may rely on its result. -/
theorem check {result : Except ScriptError α} {next : α -> Step β}
    (rest : forall value, result = .ok value -> AsksOnly property (next value)) :
    AsksOnly property (Step.ofExcept result >>= next) :=
  fun machine => .check fun value checked => rest value checked machine

theorem ite {condition : Prop} [Decidable condition] {step other : Step α}
    (taken : AsksOnly property step) (passed : AsksOnly property other) :
    AsksOnly property (if condition then step else other) :=
  fun machine => .ite (fun _ => taken machine) fun _ => passed machine

end AsksOnly

/-! ## Single questions -/

private theorem ask_asksOnly {query : SignatureQuery} (holds : property query) :
    AsksOnly property (vm.ask query) := by
  intro machine
  refine Progress.Along.bind (.modify ⟨[_], rfl, fun call member => ?_⟩) fun _ _ _ => ?_
  · rw [List.mem_singleton.mp member]
    exact holds
  · cases vm.verifier query with
    | ok valid => exact .pure valid
    | error failure => exact .pure false

private theorem countSigChecks_asksOnly (count : Nat) :
    AsksOnly property (vm.countSigChecks count) := by
  intro machine
  refine Progress.Along.bind (.modify ⟨[], rfl, nofun⟩) fun _ middle _ => ?_
  exact (corresponds_along vm _).charge _ middle

private theorem chargeHash_asksOnly (length : Nat) (twofold : Bool) :
    AsksOnly property (vm.chargeHash length twofold) :=
  (corresponds_along vm (Progress.asking fun call => property call.query)).chargeHash length twofold

private theorem demandEmpty_asksOnly (valid : Bool) (signatures : List Bytes) :
    AsksOnly property (vm.demandEmpty valid signatures) :=
  .ite (.throw _) (.pure ())

/-- The digest is the one of the newer composition where signatures can commit to
the chain, and else the older one. -/
private theorem signsTransaction_of_digest {signature key : Bytes} {hashByte : UInt8}
    {code : Script}
    {context : SpendingContext} {digest : Hash256} (known : vm.context = some context)
    (last : signature.getLast? = some hashByte)
    (chain : SigHashType.hasForkId { raw := hashByte.toUInt32 } = vm.rules.enables .forkId)
    (digested : SigHash.digest context code (vm.hashTypeOf hashByte) vm.rules = .ok digest) :
    vm.SignsTransaction code signature
      { scheme := .ofSignature signature.dropLast, key := key, signature := signature.dropLast,
        digest := digest } := by
  have hashType : (vm.hashTypeOf hashByte).hasForkId = vm.rules.enables .forkId := by
    rw [← chain, hashTypeOf]
    split
    · exact SigHashType.hasForkId_withForkValue _ _
    · rfl
  have whole : signature = signature.dropLast ++ [hashByte] := by
    rcases List.getLast?_eq_some_iff.mp last with ⟨raw, rfl⟩
    rw [List.dropLast_concat]
  refine ⟨context, hashByte, known, whole, ?_⟩
  rw [SigHash.digest, hashType, Bool.and_self] at digested
  unfold enables
  cases active : vm.rules.enables .forkId with
  | true =>
      rw [active] at digested
      exact digested
  | false =>
      rw [active] at digested
      exact (Except.ok.inj digested).symm

/-- Where the newer scheme is refused, the question is about the older one. -/
private theorem scheme_of_ecdsa {code : Script} {signature : Bytes} {query : SignatureQuery}
    (checked : Signature.checkTransactionEcdsa signature vm.rules = .ok ())
    (wellFormed : query.IsWellFormed) (signs : vm.SignsTransaction code signature query) :
    query.scheme = .ecdsa := by
  rcases signs with ⟨_, hashByte, _, rfl, _⟩
  have other : query.signature.length ≠ 64 := by
    rcases Signature.checkTransactionEcdsa_eq_ok_iff.mp checked with empty | ⟨older, _⟩
    · cases List.append_eq_nil_iff.mp (List.isEmpty_iff.mp empty) with
      | intro _ impossible => cases impossible
    · rw [List.dropLast_concat] at older
      exact ne_of_beq_false older
  cases scheme : query.scheme with
  | ecdsa => rfl
  | schnorr => exact (other (wellFormed.scheme.mp scheme)).elim

/-- Where the newer scheme is demanded, the question is about it. -/
private theorem scheme_of_schnorr {code : Script} {signature : Bytes} {query : SignatureQuery}
    (checked : Signature.checkTransactionSchnorr signature vm.rules = .ok ())
    (wellFormed : query.IsWellFormed) (signs : vm.SignsTransaction code signature query) :
    query.scheme = .schnorr := by
  rcases signs with ⟨_, hashByte, _, rfl, _⟩
  have length := (Signature.checkTransactionSchnorr_eq_ok_iff.mp checked).1
  rw [List.length_append] at length
  exact wellFormed.scheme.mpr (Nat.add_right_cancel length)

/-- Only keys are selected. -/
private theorem mem_of_mem_selectedKeys {bits : Nat} {keys : List Bytes} {key : Bytes}
    (selected : key ∈ selectedKeys bits keys) : key ∈ keys := by
  rcases List.mem_map.mp selected with ⟨⟨_, index⟩, member, rfl⟩
  exact List.fst_mem_of_mem_zipIdx (List.mem_filter.mp member).1

variable (strict : vm.enables .strictEncoding = true)

include strict

/-- A key and a signature whose forms were checked make a well-formed question. -/
private theorem isWellFormed_of_checks {signature key : Bytes} {digest : Hash256}
    (raw : Signature.checkRaw signature vm.rules = .ok ())
    (keyChecked : Signature.checkKey key vm.rules = .ok ()) :
    SignatureQuery.IsWellFormed
      { scheme := .ofSignature signature, key := key, signature := signature,
        digest := digest } where
  key := Signature.checkKey_eq_ok_iff.mp keyChecked strict
  scheme := by
    change SignatureScheme.ofSignature signature = .schnorr ↔
      signature.length = Secp256k1.schnorrLength
    unfold SignatureScheme.ofSignature
    split
    · exact iff_of_true rfl ‹_›
    · exact iff_of_false nofun ‹_›
  signature other := by
    rcases Signature.checkRaw_eq_ok_iff.mp raw with schnorr | ⟨canonical, _⟩
    · exact (other (beq_iff_eq.mp schnorr)).elim
    · exact canonical (Or.inr (Or.inr strict))

/-- A signature of the transaction is asked about when it is not empty. -/
private theorem checkSignature_asksOnly {signature key : Bytes} {code : Script}
    (admitted : Signature.checkTransaction signature vm.rules = .ok ())
    (keyChecked : Signature.checkKey key vm.rules = .ok ())
    (poses : forall query : SignatureQuery, query.IsWellFormed -> query.key = key ->
      vm.SignsTransaction code signature query -> property query) :
    AsksOnly property (vm.checkSignature signature key code) := by
  unfold checkSignature
  cases last : signature.getLast? with
  | none => exact .pure false
  | some hashByte =>
      rcases Signature.forms_of_checkTransaction strict last admitted with ⟨raw, chain⟩
      unfold demandContext
      cases known : vm.context with
      | none => exact .throw _
      | some context =>
          refine .check fun digest digested => ask_asksOnly (poses _ ?_ rfl ?_)
          · exact isWellFormed_of_checks strict raw keyChecked
          · exact signsTransaction_of_digest known last chain digested

/-! ## The four checks -/

/-- In the older way, signatures of the length of the newer scheme are refused. -/
private theorem matchKeys_asksOnly {code : Script} (signatures keys : List Bytes)
    (poses : forall signature, signature ∈ signatures -> forall query : SignatureQuery,
      query.IsWellFormed -> query.key ∈ keys -> query.scheme = .ecdsa ->
      vm.SignsTransaction code signature query -> property query) :
    AsksOnly property (vm.matchKeys code signatures keys) := by
  induction keys generalizing signatures with
  | nil =>
      cases signatures with
      | nil => exact .pure true
      | cons signature signatures => exact .pure false
  | cons key keys inductionHypothesis =>
      cases signatures with
      | nil => exact .pure true
      | cons signature signatures =>
          refine .check fun _ checked => .check fun _ keyChecked => ?_
          have admitted := Signature.checkTransaction_of_ecdsa checked
          refine (checkSignature_asksOnly strict admitted keyChecked
            fun query wellFormed same signs => ?_).bind
            fun valid => .ite (.pure false)
              (inductionHypothesis _ fun other member query wellFormed keyMember => ?_)
          · exact poses signature List.mem_cons_self query wellFormed (same ▸ List.mem_cons_self)
              (scheme_of_ecdsa checked wellFormed signs) signs
          · refine poses other ?_ query wellFormed (List.mem_cons_of_mem key keyMember)
            cases valid with
            | true => exact List.mem_cons_of_mem signature member
            | false => exact member

/-- In the newer way, signatures of all other lengths are refused. -/
private theorem demandAll_asksOnly {code : Script} (pairs : List (Bytes × Bytes))
    (poses : forall signature key, (signature, key) ∈ pairs -> forall query : SignatureQuery,
      query.IsWellFormed -> query.key = key -> query.scheme = .schnorr ->
      vm.SignsTransaction code signature query -> property query) :
    AsksOnly property (vm.demandAll code pairs) := by
  induction pairs with
  | nil => exact .pure ()
  | cons pair pairs inductionHypothesis =>
      simp only [demandAll, Sequencing.throw_bind]
      refine .check fun _ checked => .check fun _ keyChecked => ?_
      have admitted := Signature.checkTransaction_of_schnorr checked
      refine (checkSignature_asksOnly strict admitted keyChecked
        fun query wellFormed same signs => ?_).bind
        fun valid => .ite (.throw _)
          ((countSigChecks_asksOnly 1).bind fun _ => inductionHypothesis ?_)
      · exact poses pair.1 pair.2 List.mem_cons_self query wellFormed same
          (scheme_of_schnorr checked wellFormed signs) signs
      · exact fun signature key member => poses signature key (List.mem_cons_of_mem pair member)

/-- A check puts only well-formed questions, and only those that are its own. -/
theorem verdict_asksOnly (code : Script) (check : SignatureCheck) :
    AsksOnly (fun query => query.IsWellFormed ∧ vm.Poses code check query)
      (vm.verdict code check) := by
  cases check with
  | single signature key =>
      refine .check fun _ admitted => .check fun _ keyChecked => ?_
      refine (checkSignature_asksOnly strict admitted keyChecked
        fun query wellFormed same signs => ?_).bind
        fun valid => (demandEmpty_asksOnly valid _).bind fun _ => .ite ?_ (.pure valid)
      · exact ⟨wellFormed, same, signs⟩
      · exact (countSigChecks_asksOnly 1).bind fun _ => .pure valid
  | data signature message key =>
      refine .check fun _ checked => .check fun _ keyChecked => ?_
      refine AsksOnly.bind ?_ fun valid => (demandEmpty_asksOnly valid _).bind fun _ => .pure valid
      unfold checkDataSignature
      cases empty : signature.isEmpty with
      | true => exact .pure false
      | false =>
          have raw := (Signature.checkData_eq_ok_iff.mp checked).resolve_left
            (ne_true_of_eq_false empty)
          refine (chargeHash_asksOnly _ _).bind fun _ =>
            AsksOnly.bind (ask_asksOnly ⟨?_, rfl, rfl, rfl⟩) fun valid =>
            (countSigChecks_asksOnly 1).bind fun _ => .pure valid
          exact isWellFormed_of_checks strict raw keyChecked
  | matching signatures keys =>
      refine (matchKeys_asksOnly strict signatures keys ?_).bind fun valid =>
        (demandEmpty_asksOnly valid _).bind fun _ => .ite ?_ (.pure valid)
      · exact fun signature member query wellFormed key scheme signs =>
          ⟨wellFormed, scheme, key, signature, member, signs⟩
      · exact (countSigChecks_asksOnly _).bind fun _ => .pure valid
  | selection bitfield signatures keys =>
      simp only [verdict, checkMultiSigBySelection, Sequencing.throw_bind]
      refine .check fun bits _ => .ite (.throw _) ?_
      refine (demandAll_asksOnly strict _
        fun signature key member query wellFormed same scheme signs => ?_).bind
        fun _ => .pure true
      have parts := List.of_mem_zip member
      refine ⟨wellFormed, scheme, ?_, signature, List.mem_reverse.mp parts.1, signs⟩
      rw [same]
      exact List.mem_reverse.mp (mem_of_mem_selectedKeys parts.2)

/-! ## Operations -/

/-- An operation that checks signatures adds to the record the questions of the
check that it found. -/
private theorem perform_poses {operation : Operation} (checks : operation.checksSignature = true)
    (executing : Bool) (next : Nat) (machine : Machine) :
    ((Progress.asking fun call => call.query.IsWellFormed ∧ ∃ check rest,
        vm.Finds operation machine.stack check rest ∧
          vm.Poses (vm.signedCode machine check) check call.query).on
      Machine.checkRecord).Along (vm.perform operation executing next) machine := by
  refine perform_along checks executing next fun check rest opCount found => ?_
  rcases verdict_asksOnly strict (vm.signedCode machine check) check
    { machine with opCount := opCount } with
    ⟨calls, added, admitted⟩
  refine ⟨calls, added, fun call member => ?_⟩
  rcases admitted call member with ⟨wellFormed, poses⟩
  exact ⟨wellFormed, check, rest, found, poses⟩

/-- A question of an operation is well-formed, and it is one of the check that
the operation found. -/
theorem poses_of_asks {operation : Operation} {machine : Machine} {call : VerifierCall}
    (asks : vm.Asks operation machine call) :
    call.query.IsWellFormed ∧ ∃ check rest, vm.Finds operation machine.stack check rest ∧
      vm.Poses (vm.signedCode machine check) check call.query := by
  have checks := checksSignature_of_asks asks
  rcases asks with ⟨executing, next, calls, added, member⟩
  rcases perform_poses strict checks executing next machine with ⟨calls', added', admitted⟩
  rw [List.append_cancel_right (added.symm.trans added')] at member
  exact admitted call member

/-- Whatever a script does, all of its questions are well-formed, and operations
on some machine put them. -/
theorem evaluate_asks (script : Script) (session : Session) :
    ((Progress.asking fun call => call.query.IsWellFormed ∧
      ∃ operation machine, vm.Asks operation machine call).on
      Session.checkRecord).Along (vm.evaluate script) session := by
  refine evaluate_along (fun instruction _ checks executing next machine => ?_) session
  rcases perform_poses strict checks executing next machine with ⟨calls, added, admitted⟩
  exact ⟨calls, added, fun call member =>
    ⟨(admitted call member).1, _, machine, executing, next, calls, added, member⟩⟩

end Interpreter
end SpendRules
