import GatewayNat.Directory.Mapping
import GatewayNat.Directory.Scripted
import GatewayNat.Service.Boot
import GatewayNat.Service.Exchange
import GatewayNat.Json.Writer
import GatewayNat.Proofs.Checking
import GatewayNat.Proofs.RuleReading
import GatewayNat.Proofs.Admission
import GatewayNat.Proofs.Binding
import GatewayNat.Proofs.Lookup
import GatewayNat.Proofs.Calls
import GatewayNat.Proofs.Steady
import GatewayNat.Proofs.Concatenation
import GatewayNat.Proofs.StaticDocument
import GatewayNat.Proofs.Identifiers
import GatewayNat.Proofs.Faults
import GatewayNat.Proofs.Allocation
import GatewayNat.Proofs.FirstFault
import GatewayNat.Proofs.Endpoint
import GatewayNat.Proofs.RejectionResponse
import GatewayNat.Proofs.Verdict
import GatewayNat.Proofs.SameReading
import GatewayNat.Proofs.UnusedNames
import GatewayNat.Proofs.Respelling
import GatewayNat.Proofs.Widening
import GatewayNat.Proofs.DirectoryUse
import GatewayNat.Proofs.Snapshot
import GatewayNat.Proofs.Exchanges
import GatewayNat.Proofs.Tracing
import GatewayNat.Proofs.DocumentShape
import GatewayNat.Proofs.ClosingBrace
import GatewayNat.Proofs.AppendedLog
import GatewayNat.Proofs.Seen
import GatewayNat.Proofs.Health
import GatewayNat.Proofs.Concealment
import GatewayNat.Proofs.TwoRuns
import GatewayNat.Proofs.Resolution
import GatewayNat.Proofs.FieldFaults
import GatewayNat.Proofs.ServiceFaults
import GatewayNat.Proofs.DirectoryDocument
import GatewayNat.Proofs.NormalForms
import GatewayNat.Proofs.Flags
import GatewayNat.Proofs.CompilationRecords
import GatewayNat.Proofs.TraceIds
import GatewayNat.Proofs.CommaLists
import GatewayNat.Proofs.OriginSources
import GatewayNat.Proofs.EnvReadings
import GatewayNat.Proofs.PlainSettings
import GatewayNat.Proofs.BootSettings
