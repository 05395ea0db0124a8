import SpendRules.Hash

namespace SpendRules

/-!
# Opcodes

The first byte of an instruction says what the instruction does.  What it does is an
`Operation`, grouped the way the machine carries it out; which byte asks for which
operation, and under which mnemonic, is one table.  Bytes outside the table, and those that
the table leaves without meaning, ask for an invalid operation.
-/

inductive StackOperation where
  | toAltStack
  | fromAltStack
  | dropTwo
  | dupTwo
  | dupThree
  | overTwo
  | rotTwo
  | swapTwo
  | dupIfTrue
  | depth
  | drop
  | dup
  | nip
  | over
  | pick
  | roll
  | rot
  | swap
  | tuck
  deriving DecidableEq, Repr

/-- Operations on the bytes of an element. -/
inductive SpliceOperation where
  | cat
  | split
  | numToBin
  | binToNum
  | size
  | reverseBytes
  deriving DecidableEq, Repr

/-- Bit by bit combinations of two elements of one length. -/
inductive BitwiseOperation where
  | and
  | or
  | xor
  deriving DecidableEq, Repr

inductive UnaryOperation where
  | addOne
  | subOne
  | negate
  | absolute
  | isZero
  | isNonzero
  deriving DecidableEq, Repr

inductive BinaryOperation where
  | add
  | sub
  | mul
  | div
  | rem
  | boolAnd
  | boolOr
  | numEqual
  | numNotEqual
  | lessThan
  | greaterThan
  | lessOrEqual
  | greaterOrEqual
  | min
  | max
  deriving DecidableEq, Repr

/-- Questions about the spending transaction and the outputs it spends. -/
inductive Introspection where
  | inputIndex
  | activeBytecode
  | txVersion
  | txInputCount
  | txOutputCount
  | txLockTime
  | utxoValue
  | utxoBytecode
  | outpointTxHash
  | outpointIndex
  | inputBytecode
  | inputSequence
  | outputValue
  | outputBytecode
  deriving DecidableEq, Repr

/-- Whether a question about a token concerns an output that is spent or one that is created. -/
inductive TokenSide where
  | spent
  | created
  deriving DecidableEq, Repr

/-- The parts of a token a script can ask for. -/
inductive TokenPart where
  | category
  | commitment
  | amount
  deriving DecidableEq, Repr

/-- What an instruction does.  A flag on an operation says that its result is required to be
true and removed. -/
inductive Operation where
  | pushData
  | pushNumber (value : Int)
  | noOperation
  | upgradableNoOperation
  /-- Open a branch that is taken when the popped element is true, or false if negated. -/
  | openBranch (negated : Bool)
  | elseBranch
  | closeBranch
  /-- Invalid, even in a branch that is not taken. -/
  | reservedBranch
  | verify
  | halt
  | stack (operation : StackOperation)
  | splice (operation : SpliceOperation)
  | bitwise (operation : BitwiseOperation)
  | equal (required : Bool)
  | unary (operation : UnaryOperation)
  | binary (operation : BinaryOperation)
  | numEqualVerify
  | within
  | hash (algorithm : Hash.Algorithm)
  | codeSeparator
  | checkSig (required : Bool)
  | checkMultiSig (required : Bool)
  | checkDataSig (required : Bool)
  | checkLockTime
  | checkSequence
  | introspect (question : Introspection)
  | introspectToken (side : TokenSide) (part : TokenPart)
  /-- Fails the script wherever it stands. -/
  | disabled
  | invalid
  deriving DecidableEq, Repr

namespace Operation

/-- Operations on open branches happen whether or not the current branch is taken. -/
def concernsBranches : Operation -> Bool
  | .openBranch _ | .elseBranch | .closeBranch | .reservedBranch => true
  | _ => false

end Operation

namespace Opcode

def pushNothing : UInt8 := 0x00

/-- The highest opcode that is itself the number of bytes to push. -/
def pushBytesMax : UInt8 := 0x4b

def pushDataOne : UInt8 := 0x4c

def pushDataTwo : UInt8 := 0x4d

def pushDataFour : UInt8 := 0x4e

def minusOne : UInt8 := 0x4f

def one : UInt8 := 0x51

def sixteen : UInt8 := 0x60

def equal : UInt8 := 0x87

def hash160 : UInt8 := 0xa9

def hash256 : UInt8 := 0xaa

/-- Signatures commit to the script from here on. -/
def codeSeparator : UInt8 := 0xab

structure Entry where
  code : UInt8
  name : String
  operation : Operation

/-- The opcodes that have a mnemonic, in the order of their bytes. -/
def table : List Entry :=
  [⟨0x00, "OP_0", .pushData⟩,
    ⟨0x4c, "OP_PUSHDATA1", .pushData⟩,
    ⟨0x4d, "OP_PUSHDATA2", .pushData⟩,
    ⟨0x4e, "OP_PUSHDATA4", .pushData⟩,
    ⟨0x4f, "OP_1NEGATE", .pushNumber (-1)⟩,
    ⟨0x50, "OP_RESERVED", .invalid⟩,
    ⟨0x51, "OP_1", .pushNumber 1⟩,
    ⟨0x52, "OP_2", .pushNumber 2⟩,
    ⟨0x53, "OP_3", .pushNumber 3⟩,
    ⟨0x54, "OP_4", .pushNumber 4⟩,
    ⟨0x55, "OP_5", .pushNumber 5⟩,
    ⟨0x56, "OP_6", .pushNumber 6⟩,
    ⟨0x57, "OP_7", .pushNumber 7⟩,
    ⟨0x58, "OP_8", .pushNumber 8⟩,
    ⟨0x59, "OP_9", .pushNumber 9⟩,
    ⟨0x5a, "OP_10", .pushNumber 10⟩,
    ⟨0x5b, "OP_11", .pushNumber 11⟩,
    ⟨0x5c, "OP_12", .pushNumber 12⟩,
    ⟨0x5d, "OP_13", .pushNumber 13⟩,
    ⟨0x5e, "OP_14", .pushNumber 14⟩,
    ⟨0x5f, "OP_15", .pushNumber 15⟩,
    ⟨0x60, "OP_16", .pushNumber 16⟩,
    ⟨0x61, "OP_NOP", .noOperation⟩,
    ⟨0x62, "OP_VER", .invalid⟩,
    ⟨0x63, "OP_IF", .openBranch false⟩,
    ⟨0x64, "OP_NOTIF", .openBranch true⟩,
    ⟨0x65, "OP_VERIF", .reservedBranch⟩,
    ⟨0x66, "OP_VERNOTIF", .reservedBranch⟩,
    ⟨0x67, "OP_ELSE", .elseBranch⟩,
    ⟨0x68, "OP_ENDIF", .closeBranch⟩,
    ⟨0x69, "OP_VERIFY", .verify⟩,
    ⟨0x6a, "OP_RETURN", .halt⟩,
    ⟨0x6b, "OP_TOALTSTACK", .stack .toAltStack⟩,
    ⟨0x6c, "OP_FROMALTSTACK", .stack .fromAltStack⟩,
    ⟨0x6d, "OP_2DROP", .stack .dropTwo⟩,
    ⟨0x6e, "OP_2DUP", .stack .dupTwo⟩,
    ⟨0x6f, "OP_3DUP", .stack .dupThree⟩,
    ⟨0x70, "OP_2OVER", .stack .overTwo⟩,
    ⟨0x71, "OP_2ROT", .stack .rotTwo⟩,
    ⟨0x72, "OP_2SWAP", .stack .swapTwo⟩,
    ⟨0x73, "OP_IFDUP", .stack .dupIfTrue⟩,
    ⟨0x74, "OP_DEPTH", .stack .depth⟩,
    ⟨0x75, "OP_DROP", .stack .drop⟩,
    ⟨0x76, "OP_DUP", .stack .dup⟩,
    ⟨0x77, "OP_NIP", .stack .nip⟩,
    ⟨0x78, "OP_OVER", .stack .over⟩,
    ⟨0x79, "OP_PICK", .stack .pick⟩,
    ⟨0x7a, "OP_ROLL", .stack .roll⟩,
    ⟨0x7b, "OP_ROT", .stack .rot⟩,
    ⟨0x7c, "OP_SWAP", .stack .swap⟩,
    ⟨0x7d, "OP_TUCK", .stack .tuck⟩,
    ⟨0x7e, "OP_CAT", .splice .cat⟩,
    ⟨0x7f, "OP_SPLIT", .splice .split⟩,
    ⟨0x80, "OP_NUM2BIN", .splice .numToBin⟩,
    ⟨0x81, "OP_BIN2NUM", .splice .binToNum⟩,
    ⟨0x82, "OP_SIZE", .splice .size⟩,
    ⟨0x83, "OP_INVERT", .disabled⟩,
    ⟨0x84, "OP_AND", .bitwise .and⟩,
    ⟨0x85, "OP_OR", .bitwise .or⟩,
    ⟨0x86, "OP_XOR", .bitwise .xor⟩,
    ⟨0x87, "OP_EQUAL", .equal false⟩,
    ⟨0x88, "OP_EQUALVERIFY", .equal true⟩,
    ⟨0x89, "OP_RESERVED1", .invalid⟩,
    ⟨0x8a, "OP_RESERVED2", .invalid⟩,
    ⟨0x8b, "OP_1ADD", .unary .addOne⟩,
    ⟨0x8c, "OP_1SUB", .unary .subOne⟩,
    ⟨0x8d, "OP_2MUL", .disabled⟩,
    ⟨0x8e, "OP_2DIV", .disabled⟩,
    ⟨0x8f, "OP_NEGATE", .unary .negate⟩,
    ⟨0x90, "OP_ABS", .unary .absolute⟩,
    ⟨0x91, "OP_NOT", .unary .isZero⟩,
    ⟨0x92, "OP_0NOTEQUAL", .unary .isNonzero⟩,
    ⟨0x93, "OP_ADD", .binary .add⟩,
    ⟨0x94, "OP_SUB", .binary .sub⟩,
    ⟨0x95, "OP_MUL", .binary .mul⟩,
    ⟨0x96, "OP_DIV", .binary .div⟩,
    ⟨0x97, "OP_MOD", .binary .rem⟩,
    ⟨0x98, "OP_LSHIFT", .disabled⟩,
    ⟨0x99, "OP_RSHIFT", .disabled⟩,
    ⟨0x9a, "OP_BOOLAND", .binary .boolAnd⟩,
    ⟨0x9b, "OP_BOOLOR", .binary .boolOr⟩,
    ⟨0x9c, "OP_NUMEQUAL", .binary .numEqual⟩,
    ⟨0x9d, "OP_NUMEQUALVERIFY", .numEqualVerify⟩,
    ⟨0x9e, "OP_NUMNOTEQUAL", .binary .numNotEqual⟩,
    ⟨0x9f, "OP_LESSTHAN", .binary .lessThan⟩,
    ⟨0xa0, "OP_GREATERTHAN", .binary .greaterThan⟩,
    ⟨0xa1, "OP_LESSTHANOREQUAL", .binary .lessOrEqual⟩,
    ⟨0xa2, "OP_GREATERTHANOREQUAL", .binary .greaterOrEqual⟩,
    ⟨0xa3, "OP_MIN", .binary .min⟩,
    ⟨0xa4, "OP_MAX", .binary .max⟩,
    ⟨0xa5, "OP_WITHIN", .within⟩,
    ⟨0xa6, "OP_RIPEMD160", .hash .ripemd160⟩,
    ⟨0xa7, "OP_SHA1", .hash .sha1⟩,
    ⟨0xa8, "OP_SHA256", .hash .sha256⟩,
    ⟨0xa9, "OP_HASH160", .hash .hash160⟩,
    ⟨0xaa, "OP_HASH256", .hash .hash256⟩,
    ⟨0xab, "OP_CODESEPARATOR", .codeSeparator⟩,
    ⟨0xac, "OP_CHECKSIG", .checkSig false⟩,
    ⟨0xad, "OP_CHECKSIGVERIFY", .checkSig true⟩,
    ⟨0xae, "OP_CHECKMULTISIG", .checkMultiSig false⟩,
    ⟨0xaf, "OP_CHECKMULTISIGVERIFY", .checkMultiSig true⟩,
    ⟨0xb0, "OP_NOP1", .upgradableNoOperation⟩,
    ⟨0xb1, "OP_CHECKLOCKTIMEVERIFY", .checkLockTime⟩,
    ⟨0xb2, "OP_CHECKSEQUENCEVERIFY", .checkSequence⟩,
    ⟨0xb3, "OP_NOP4", .upgradableNoOperation⟩,
    ⟨0xb4, "OP_NOP5", .upgradableNoOperation⟩,
    ⟨0xb5, "OP_NOP6", .upgradableNoOperation⟩,
    ⟨0xb6, "OP_NOP7", .upgradableNoOperation⟩,
    ⟨0xb7, "OP_NOP8", .upgradableNoOperation⟩,
    ⟨0xb8, "OP_NOP9", .upgradableNoOperation⟩,
    ⟨0xb9, "OP_NOP10", .upgradableNoOperation⟩,
    ⟨0xba, "OP_CHECKDATASIG", .checkDataSig false⟩,
    ⟨0xbb, "OP_CHECKDATASIGVERIFY", .checkDataSig true⟩,
    ⟨0xbc, "OP_REVERSEBYTES", .splice .reverseBytes⟩,
    ⟨0xc0, "OP_INPUTINDEX", .introspect .inputIndex⟩,
    ⟨0xc1, "OP_ACTIVEBYTECODE", .introspect .activeBytecode⟩,
    ⟨0xc2, "OP_TXVERSION", .introspect .txVersion⟩,
    ⟨0xc3, "OP_TXINPUTCOUNT", .introspect .txInputCount⟩,
    ⟨0xc4, "OP_TXOUTPUTCOUNT", .introspect .txOutputCount⟩,
    ⟨0xc5, "OP_TXLOCKTIME", .introspect .txLockTime⟩,
    ⟨0xc6, "OP_UTXOVALUE", .introspect .utxoValue⟩,
    ⟨0xc7, "OP_UTXOBYTECODE", .introspect .utxoBytecode⟩,
    ⟨0xc8, "OP_OUTPOINTTXHASH", .introspect .outpointTxHash⟩,
    ⟨0xc9, "OP_OUTPOINTINDEX", .introspect .outpointIndex⟩,
    ⟨0xca, "OP_INPUTBYTECODE", .introspect .inputBytecode⟩,
    ⟨0xcb, "OP_INPUTSEQUENCENUMBER", .introspect .inputSequence⟩,
    ⟨0xcc, "OP_OUTPUTVALUE", .introspect .outputValue⟩,
    ⟨0xcd, "OP_OUTPUTBYTECODE", .introspect .outputBytecode⟩,
    ⟨0xce, "OP_UTXOTOKENCATEGORY", .introspectToken .spent .category⟩,
    ⟨0xcf, "OP_UTXOTOKENCOMMITMENT", .introspectToken .spent .commitment⟩,
    ⟨0xd0, "OP_UTXOTOKENAMOUNT", .introspectToken .spent .amount⟩,
    ⟨0xd1, "OP_OUTPUTTOKENCATEGORY", .introspectToken .created .category⟩,
    ⟨0xd2, "OP_OUTPUTTOKENCOMMITMENT", .introspectToken .created .commitment⟩,
    ⟨0xd3, "OP_OUTPUTTOKENAMOUNT", .introspectToken .created .amount⟩]

def entry? (code : UInt8) : Option Entry :=
  table.find? fun row => row.code == code

/-- The opcode is itself the number of bytes that it pushes. -/
def isDirectPush (code : UInt8) : Bool :=
  decide (0x01 ≤ code) && decide (code ≤ pushBytesMax)

def name (code : UInt8) : String :=
  if isDirectPush code then "OP_PUSHBYTES"
  else match entry? code with
    | some row => row.name
    | none => "OP_UNKNOWN"

def operation (code : UInt8) : Operation :=
  if code ≤ pushDataFour then .pushData
  else match entry? code with
    | some row => row.operation
    | none => .invalid

/-- The opcode fails the script wherever it stands, under every rule set. -/
def isDisabled (code : UInt8) : Bool :=
  operation code == .disabled

def isPush (code : UInt8) : Bool :=
  decide (code ≤ sixteen)

/-- The number between zero and sixteen that an opcode pushes by itself. -/
def smallNumber? (code : UInt8) : Option Nat :=
  if code = pushNothing then some 0
  else if one ≤ code ∧ code ≤ sixteen then some (code.toNat - one.toNat + 1)
  else none

end Opcode

end SpendRules
