import StaticGzip.FileTree
import StaticGzip.Main
import StaticGzip.Proofs.AccessLog.Expansion
import StaticGzip.Proofs.AccessLog.QuotedFields
import StaticGzip.Proofs.AccessLog.TimeStamps
import StaticGzip.Proofs.Address.ListenAddress
import StaticGzip.Proofs.Config.TextSettings
import StaticGzip.Proofs.Gzip.WholeMember
import StaticGzip.Proofs.Http.AcceptLines
import StaticGzip.Proofs.Path.ExtensionScan
import StaticGzip.Proofs.Path.Normalisation
import StaticGzip.Proofs.ResponseInputs
import StaticGzip.Proofs.Server.GracefulShutdown
import StaticGzip.Proofs.Server.StartStages
import StaticGzip.Proofs.WrittenTarget
