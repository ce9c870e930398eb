import DeployGuard.Service.Context
import DeployGuard.Service.Settled
import DeployGuard.Service.Members
import DeployGuard.Service.Database
import DeployGuard.Service.RiskPolicy
import DeployGuard.Lib.Interleaving
import DeployGuard.Service.Catalog
import DeployGuard.Lib.DepthFirst
import DeployGuard.Service.Recovery
import DeployGuard.Service.Publishing
import DeployGuard.Service.Client
import DeployGuard.Service.Stranded
import DeployGuard.Service.Check
import DeployGuard.Service.Callback
import DeployGuard.Service.Unverified
import DeployGuard.Service.Revocation
import DeployGuard.Service.Reserved
import DeployGuard.Service.Ledger
import DeployGuard.Service.ChangeState
import DeployGuard.Lib.Latest
import DeployGuard.Service.Redelivery
import DeployGuard.Service.Reuse
import DeployGuard.Service.Telemetry
import DeployGuard.Service.Engines
import DeployGuard.Verify.Uncaught
import DeployGuard.Verify.Defects
import DeployGuard.Verify.Renames
import DeployGuard.Verify.Cli
import DeployGuard.Verify.Junit
import DeployGuard.Verify.Measured
import DeployGuard.Verify.Waiver
import DeployGuard.Verify.Coverage
import DeployGuard.Verify.FirstRate
import DeployGuard.Verify.Severity
import DeployGuard.Verify.GitChange
import DeployGuard.Verify.Sensitive
import DeployGuard.Verify.Order
import DeployGuard.Lib.Sorted
import DeployGuard.Verify.Collected
import DeployGuard.Verify.Gate
import DeployGuard.Verify.Engine
import DeployGuard.Verify.Evidence
import DeployGuard.Verify.Policy
import DeployGuard.Lib.Fnmatch
import DeployGuard.Lib.Number
import DeployGuard.Lib.Transition
import DeployGuard.Jobs.Fencing
import DeployGuard.Jobs.Lease
import DeployGuard.Service.Invitations
import DeployGuard.Service.IncidentDetail
import DeployGuard.Service.Incidents
import DeployGuard.Service.IncidentHistory
import DeployGuard.Service.Verdicts
import DeployGuard.Service.Overview
import DeployGuard.Lib.Journal
import DeployGuard.Service.Postmortem
import DeployGuard.Service.Governance
import DeployGuard.Service.Readiness
import DeployGuard.Service.BlastRadius
import DeployGuard.Service.Canonical
import DeployGuard.Service.References
import DeployGuard.Service.RiskScore
import DeployGuard.Service.Ranking
import DeployGuard.Service.Explanation
import DeployGuard.Jobs.Credentials
import DeployGuard.Guard.BodyGuard
import DeployGuard.Service.RoundTrip
import DeployGuard.Service.MailedOnce
import DeployGuard.Jobs.Run
import DeployGuard.Jobs.Waiting
import DeployGuard.Jobs.Producers
import DeployGuard.Service.TenantRows
import DeployGuard.Identity.Login
import DeployGuard.Operations.Draining
import DeployGuard.Lib.FileSystem
import DeployGuard.Lib.Resolve
import DeployGuard.Verify.Initializer
