import SevenSeas.Primitives
import SevenSeas.KeyStore
import SevenSeas.Interface
import SevenSeas.SaplingChain
import SevenSeas.Frame
import SevenSeas.LockPartition
import SevenSeas.Sprout
import SevenSeas.Interleaving
import SevenSeas.History
import SevenSeas.Consolidation
import SevenSeas.ConsolidationSafety
import SevenSeas.ConsolidationResult
import SevenSeas.ConsolidationBatch
import SevenSeas.ConsolidationLoops
import SevenSeas.Ownership
import SevenSeas.AsyncOperation
