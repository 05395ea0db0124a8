namespace SpendRules

/-!
# Reasons for failure

Every way in which decoding, signature parsing or script evaluation can stop is a
constructor here, and the wording shown to a user is given once per type by a `message`
function.  A reason carries the data its wording needs and nothing else.
-/

/-- What is wrong with the encoding or the content of a token. -/
inductive TokenDefect where
  | reservedBitSet
  | unknownCapability
  | nftFieldsWithoutFlag
  | neitherNftNorAmount
  | emptyCommitment
  | commitmentTooLong
  | amountOutOfRange
  | amountNotPositive
  /-- A defect found by a caller, in the caller's words. -/
  | described (text : String)
  deriving DecidableEq, Repr

def TokenDefect.message : TokenDefect -> String
  | .reservedBitSet => "reserved bit set"
  | .unknownCapability => "unknown capability"
  | .nftFieldsWithoutFlag => "nft fields without nft flag"
  | .neitherNftNorAmount => "token has neither nft nor amount"
  | .emptyCommitment => "empty commitment"
  | .commitmentTooLong => "commitment too long"
  | .amountOutOfRange => "amount out of range"
  | .amountNotPositive => "amount must be positive"
  | .described text => text

/-- Why bytes could not be decoded. -/
inductive CodecError where
  | exhausted
  | invalidCursor
  | trailingBytes (count : Nat)
  | lengthOverflow
  | tokenEncodingInvalid (defect : TokenDefect)
  deriving DecidableEq, Repr

def CodecError.name : CodecError -> String
  | .exhausted => "Exhausted"
  | .invalidCursor => "InvalidCursor"
  | .trailingBytes _ => "TrailingBytes"
  | .lengthOverflow => "LengthOverflow"
  | .tokenEncodingInvalid _ => "TokenEncodingInvalid"

def CodecError.message : CodecError -> String
  | .exhausted => "Unexpected end of data"
  | .invalidCursor => "Read attempted on an invalidated cursor"
  | .trailingBytes count => toString count ++ " trailing bytes after decoded value"
  | .lengthOverflow => "Length prefix does not fit the platform size"
  | .tokenEncodingInvalid defect => "Invalid token encoding: " ++ defect.message

/-- Why the evaluation of a script stopped without success. -/
inductive ScriptError where
  | exhausted
  | tokenEncodingInvalid
  | evalFalse
  | opReturn
  | scriptSize
  | pushSize
  | opCount
  | stackSize
  | sigCount
  | pubkeyCount
  | conditionalStackDepth
  | opCost
  | hashIterations
  | verify
  | equalVerify
  | checkMultiSigVerify
  | checkSigVerify
  | checkDataSigVerify
  | numEqualVerify
  | badOpcode
  | disabledOpcode
  | invalidStackOperation
  | invalidAltstackOperation
  | unbalancedConditional
  | invalidOperandSize
  | invalidNumberRange
  | minimalNumber
  | impossibleEncoding
  | invalidSplitRange
  | divByZero
  | modByZero
  | negativeLocktime
  | unsatisfiedLocktime
  | sigHashType
  | sigDer
  | minimalData
  | sigPushOnly
  | sigHighS
  | pubkeyType
  | cleanStack
  | sigNullFail
  | sigBadLength
  | sigNonSchnorr
  | mustUseForkId
  | illegalForkId
  | invalidBitfieldSize
  | invalidBitRange
  | invalidBitCount
  | discourageUpgradableNops
  | inputSigChecks
  | invalidTxInputIndex
  | invalidTxOutputIndex
  | contextUnavailable
  | p2shRecursion
  deriving DecidableEq, Repr

/-- The script failures with their names. -/
def ScriptError.table : List (ScriptError × String) :=
  [(.exhausted, "Exhausted"),
    (.tokenEncodingInvalid, "TokenEncodingInvalid"),
    (.evalFalse, "EvalFalse"),
    (.opReturn, "OpReturn"),
    (.scriptSize, "ScriptSize"),
    (.pushSize, "PushSize"),
    (.opCount, "OpCount"),
    (.stackSize, "StackSize"),
    (.sigCount, "SigCount"),
    (.pubkeyCount, "PubkeyCount"),
    (.conditionalStackDepth, "ConditionalStackDepth"),
    (.opCost, "OpCost"),
    (.hashIterations, "HashIterations"),
    (.verify, "Verify"),
    (.equalVerify, "EqualVerify"),
    (.checkMultiSigVerify, "CheckMultiSigVerify"),
    (.checkSigVerify, "CheckSigVerify"),
    (.checkDataSigVerify, "CheckDataSigVerify"),
    (.numEqualVerify, "NumEqualVerify"),
    (.badOpcode, "BadOpcode"),
    (.disabledOpcode, "DisabledOpcode"),
    (.invalidStackOperation, "InvalidStackOperation"),
    (.invalidAltstackOperation, "InvalidAltstackOperation"),
    (.unbalancedConditional, "UnbalancedConditional"),
    (.invalidOperandSize, "InvalidOperandSize"),
    (.invalidNumberRange, "InvalidNumberRange"),
    (.minimalNumber, "MinimalNumber"),
    (.impossibleEncoding, "ImpossibleEncoding"),
    (.invalidSplitRange, "InvalidSplitRange"),
    (.divByZero, "DivByZero"),
    (.modByZero, "ModByZero"),
    (.negativeLocktime, "NegativeLocktime"),
    (.unsatisfiedLocktime, "UnsatisfiedLocktime"),
    (.sigHashType, "SigHashType"),
    (.sigDer, "SigDer"),
    (.minimalData, "MinimalData"),
    (.sigPushOnly, "SigPushOnly"),
    (.sigHighS, "SigHighS"),
    (.pubkeyType, "PubkeyType"),
    (.cleanStack, "CleanStack"),
    (.sigNullFail, "SigNullFail"),
    (.sigBadLength, "SigBadLength"),
    (.sigNonSchnorr, "SigNonSchnorr"),
    (.mustUseForkId, "MustUseForkId"),
    (.illegalForkId, "IllegalForkId"),
    (.invalidBitfieldSize, "InvalidBitfieldSize"),
    (.invalidBitRange, "InvalidBitRange"),
    (.invalidBitCount, "InvalidBitCount"),
    (.discourageUpgradableNops, "DiscourageUpgradableNops"),
    (.inputSigChecks, "InputSigChecks"),
    (.invalidTxInputIndex, "InvalidTxInputIndex"),
    (.invalidTxOutputIndex, "InvalidTxOutputIndex"),
    (.contextUnavailable, "ContextUnavailable"),
    (.p2shRecursion, "P2SHRecursion")]

def ScriptError.name (failure : ScriptError) : String :=
  (table.lookup failure).getD ""

def ScriptError.ofName? (name : String) : Option ScriptError :=
  (table.find? fun row => row.2 == name).map Prod.fst

def ScriptError.message : ScriptError -> String
  | .exhausted => "Ran out of bytes while decoding"
  | .tokenEncodingInvalid => "Invalid token encoding"
  | .evalFalse => "Script evaluated without error but finished with a false/empty top stack element"
  | .opReturn => "OP_RETURN was encountered"
  | .scriptSize => "Script is too big"
  | .pushSize => "Push value size limit exceeded"
  | .opCount => "Operation limit exceeded"
  | .stackSize => "Stack size limit exceeded"
  | .sigCount => "Signature count negative or greater than pubkey count"
  | .pubkeyCount => "Pubkey count negative or limit exceeded"
  | .conditionalStackDepth => "Conditional nesting limit exceeded"
  | .opCost => "Operation cost budget exceeded"
  | .hashIterations => "Hash digest iteration limit exceeded"
  | .verify => "Script failed an OP_VERIFY operation"
  | .equalVerify => "Script failed an OP_EQUALVERIFY operation"
  | .checkMultiSigVerify => "Script failed an OP_CHECKMULTISIGVERIFY operation"
  | .checkSigVerify => "Script failed an OP_CHECKSIGVERIFY operation"
  | .checkDataSigVerify => "Script failed an OP_CHECKDATASIGVERIFY operation"
  | .numEqualVerify => "Script failed an OP_NUMEQUALVERIFY operation"
  | .badOpcode => "Opcode missing or not understood"
  | .disabledOpcode => "Attempted to use a disabled opcode"
  | .invalidStackOperation => "Operation not valid with the current stack size"
  | .invalidAltstackOperation => "Operation not valid with the current altstack size"
  | .unbalancedConditional => "Invalid OP_IF construction"
  | .invalidOperandSize => "Invalid operand size"
  | .invalidNumberRange => "Given operand is not a number within the valid range"
  | .minimalNumber => "Number is not minimally encoded"
  | .impossibleEncoding => "The requested encoding is impossible to satisfy"
  | .invalidSplitRange => "Invalid OP_SPLIT range"
  | .divByZero => "Division by zero"
  | .modByZero => "Modulo by zero"
  | .negativeLocktime => "Negative locktime"
  | .unsatisfiedLocktime => "Locktime requirement not satisfied"
  | .sigHashType => "Signature hash type missing or not understood"
  | .sigDer => "Non-canonical DER signature"
  | .minimalData => "Data push larger than necessary"
  | .sigPushOnly => "Only push operators allowed in signatures"
  | .sigHighS => "Non-canonical signature: S value is unnecessarily high"
  | .pubkeyType => "Public key is neither compressed or uncompressed"
  | .cleanStack => "Stack size must be exactly one after execution"
  | .sigNullFail => "Signature must be zero for failed CHECK(MULTI)SIG operation"
  | .sigBadLength => "Signature cannot be 65 bytes in CHECKMULTISIG"
  | .sigNonSchnorr => "Only Schnorr signatures allowed in this operation"
  | .mustUseForkId => "Signature must use SIGHASH_FORKID"
  | .illegalForkId => "Illegal use of SIGHASH_FORKID"
  | .invalidBitfieldSize => "Bitfield size is invalid"
  | .invalidBitRange => "Bitfield bit out of the expected range"
  | .invalidBitCount => "Bitfield does not have the expected number of set bits"
  | .discourageUpgradableNops => "NOPx reserved for soft-fork upgrades"
  | .inputSigChecks => "Input SigChecks limit exceeded"
  | .invalidTxInputIndex => "Specified transaction input index is out of range"
  | .invalidTxOutputIndex => "Specified transaction output index is out of range"
  | .contextUnavailable => "Execution context does not provide the requested spent output"
  | .p2shRecursion => "P2SH redeem script evaluation nested too deeply"

/-- A decoding failure seen from inside a script evaluation: a bad token stays apart, all
else is lack of bytes. -/
def ScriptError.ofCodec : CodecError -> ScriptError
  | .tokenEncodingInvalid _ => .tokenEncodingInvalid
  | .exhausted | .invalidCursor | .trailingBytes _ | .lengthOverflow => .exhausted

/-- Why a signature could not even be checked. -/
inductive CryptoError where
  | invalidPublicKey
  | invalidSignature
  deriving DecidableEq, Repr

def CryptoError.name : CryptoError -> String
  | .invalidPublicKey => "InvalidPublicKey"
  | .invalidSignature => "InvalidSignature"

def CryptoError.message : CryptoError -> String
  | .invalidPublicKey => "Invalid public key encoding"
  | .invalidSignature => "Invalid signature encoding"

/-- A failure as it is reported to the user of the whole library. -/
inductive ConsensusError where
  | transactionValidation (text : String)
  | scriptExecution (cause : ScriptError)
  | serialization (cause : CodecError)
  | invalidSignature (cause : CryptoError)
  | configuration (text : String)
  | consensusRuleViolation (text : String)
  deriving DecidableEq, Repr

/-- The wording of a reported failure: the field it belongs to, then its cause. -/
def ConsensusError.message : ConsensusError -> String
  | .transactionValidation text => "Transaction validation failed: " ++ text
  | .scriptExecution cause => "Script execution failed: " ++ cause.message
  | .serialization cause => "Serialization error: " ++ cause.message
  | .invalidSignature cause => "Invalid signature: " ++ cause.message
  | .configuration text => "Configuration error: " ++ text
  | .consensusRuleViolation text => "Consensus rule violation: " ++ text

end SpendRules
