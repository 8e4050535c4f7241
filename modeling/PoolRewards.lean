import PoolRewards.Command.Program
import PoolRewards.Disk.Memory
import PoolRewards.Http.Message
import PoolRewards.Main
import PoolRewards.Proofs.Artifact.Binary
import PoolRewards.Proofs.Artifact.Json
import PoolRewards.Proofs.Command.Retries
import PoolRewards.Proofs.Duties.Faultless
import PoolRewards.Proofs.Duties.Pruning
import PoolRewards.Proofs.Duties.Replay
import PoolRewards.Proofs.Generator.Collateral
import PoolRewards.Proofs.Generator.Networks
import PoolRewards.Proofs.Generator.Order
import PoolRewards.Proofs.Generator.Provenance
import PoolRewards.Proofs.Interval.Resolution
import PoolRewards.Proofs.Ledger.History
import PoolRewards.Proofs.Merkle.Binding
import PoolRewards.Proofs.Node.LogSearch
import PoolRewards.Proofs.Pool.Afresh
import PoolRewards.Proofs.Pool.Grouping
import PoolRewards.Proofs.Pool.Payout
import PoolRewards.Proofs.Rpl.Divisors
