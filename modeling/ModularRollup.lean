import ModularRollup.Primitives
import ModularRollup.AmountCodec
import ModularRollup.AmountRounding
import ModularRollup.TxCommon
import ModularRollup.ChangeGroupTx
import ModularRollup.Transactions
import ModularRollup.TxEncoding
import ModularRollup.SignMessage
import ModularRollup.CachedSigner
import ModularRollup.State
import ModularRollup.Operations
import ModularRollup.Handlers
import ModularRollup.Runs
import ModularRollup.SignatureChecker
import ModularRollup.CheckerRoutine
import ModularRollup.Witness
import ModularRollup.BlockWitness
import ModularRollup.Sdk
import ModularRollup.TwoFactor
import ModularRollup.Pipeline
