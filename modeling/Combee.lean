import Combee.Catalogue.Backends
import Combee.Access.Auth
import Combee.Access.Bootstrap
import Combee.ApiServer.BodyMeter
import Combee.ApiServer.Deletion
import Combee.ApiServer.InternalUsage
import Combee.ApiServer.Operations
import Combee.ApiServer.Replicas
import Combee.ApiServer.ResetOutcome
import Combee.ApiServer.Routing
import Combee.Billing.DoubleCharge
import Combee.Billing.History
import Combee.Billing.LostUsage
import Combee.Billing.PricingTransactions
import Combee.Billing.Rating
import Combee.Billing.RedeemAnswers
import Combee.Billing.RedeemBackends
import Combee.Catalogue.CellNames
import Combee.Catalogue.Converge
import Combee.Catalogue.Idempotency
import Combee.Catalogue.Leases
import Combee.Cluster.Agreement
import Combee.Cluster.DemotedArchives
import Combee.Cluster.EmptyReplica
import Combee.Cluster.Migration
import Combee.Cluster.PullSafety
import Combee.Cluster.Reset
import Combee.Console.Proxy
import Combee.Console.Register
import Combee.DataNode.BackupNames
import Combee.DataNode.ConnectionPool
import Combee.DataNode.Exclusion
import Combee.DataNode.Expiry
import Combee.DataNode.RestoreOutcome
import Combee.Kv.Conditional
import Combee.Kv.ScanRuns
import Combee.Rpc
import Combee.Sql.Results
import Combee.Sql.ScannerSafety
import Combee.Sql.VacuumGuard
import Combee.Storage.Rounds
