import Keyhole.AttestationStore
import Keyhole.BudgetLimits
import Keyhole.BuildContext
import Keyhole.CallbackWait
import Keyhole.ClosureHealth
import Keyhole.ConnectionIdentity
import Keyhole.ControlRemote
import Keyhole.CredentialFile
import Keyhole.DependencyWriter
import Keyhole.Deregistration
import Keyhole.DiscoveryCache
import Keyhole.DispatchPreflight
import Keyhole.EvidenceBundle
import Keyhole.ExplainAssembler
import Keyhole.GovernanceContext
import Keyhole.GovernanceProof
import Keyhole.GuidanceRanking
import Keyhole.IngestionPackage
import Keyhole.InstallFrame
import Keyhole.LostGap
import Keyhole.OnboardingVerify
import Keyhole.OperationTable
import Keyhole.PassportDigest
import Keyhole.ProxyQueue
import Keyhole.ProxyRelay
import Keyhole.ProxyStream
import Keyhole.ReceiptAgreement
import Keyhole.ReceiptVerification
import Keyhole.RefreshRaces
import Keyhole.RegistrationAnswer
import Keyhole.RelatedGap
import Keyhole.RepoReaders
import Keyhole.RootCauses
import Keyhole.RunCommand
import Keyhole.RunPointers
import Keyhole.RunRecordStore
import Keyhole.RunTail
import Keyhole.RuntimeClaims
import Keyhole.RuntimeCompatibility
import Keyhole.RuntimeInterleaving
import Keyhole.ScanBudget
import Keyhole.SharedMistakes
import Keyhole.SignOut
import Keyhole.StageOrder
import Keyhole.StateSecrecy
import Keyhole.StatusObservers
import Keyhole.SubmitterAgreement
import Keyhole.SummaryAgreement
import Keyhole.TransportClosure
import Keyhole.YamlTrees
