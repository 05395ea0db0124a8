import SpendRules.Codec.Field
import SpendRules.Configuration.Environment
import SpendRules.Proofs.Codec.Operation
import SpendRules.Proofs.Configuration
import SpendRules.Proofs.ForkValue
import SpendRules.Proofs.KnownOutputs
import SpendRules.Proofs.Machine.CodeStart
import SpendRules.Proofs.Machine.Conversion
import SpendRules.Proofs.Machine.DeadBranches
import SpendRules.Proofs.Machine.EmptySignatures
import SpendRules.Proofs.Machine.ExactArithmetic
import SpendRules.Proofs.Machine.Frame
import SpendRules.Proofs.Machine.KeySelection
import SpendRules.Proofs.Machine.LockTime
import SpendRules.Proofs.Machine.Matching
import SpendRules.Proofs.Machine.OperationCount
import SpendRules.Proofs.Machine.Pushes
import SpendRules.Proofs.Machine.StackLimits
import SpendRules.Proofs.Machine.StaticRules
import SpendRules.Proofs.Machine.Truth
import SpendRules.Proofs.PayToScriptHash
import SpendRules.Proofs.Questions
import SpendRules.Proofs.Script.Removal
import SpendRules.Proofs.SigChecks
import SpendRules.Proofs.Signature.Canonical
import SpendRules.Proofs.Signature.Commitment
import SpendRules.Proofs.Signature.Copy
import SpendRules.Proofs.Signature.Lists
import SpendRules.Proofs.Signature.Selection
import SpendRules.Proofs.Signature.SpentOutputs
import SpendRules.Proofs.Tightening
import SpendRules.Proofs.Transaction.Admission
import SpendRules.Proofs.Transaction.Conservation
import SpendRules.Proofs.Transaction.Counts
import SpendRules.Proofs.Transaction.Missing
import SpendRules.Proofs.Transaction.Record
import SpendRules.Proofs.Transaction.Truncation
import SpendRules.Proofs.Upgrades
import SpendRules.Proofs.Work
import SpendRules.Transaction.Checks
import SpendRules.Verification.Engine
