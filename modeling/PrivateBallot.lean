import PrivateBallot.Archive.Directory
import PrivateBallot.Archive.FileEntry
import PrivateBallot.Archive.Manifest
import PrivateBallot.Archive.PortableLayout
import PrivateBallot.Archive.Replay
import PrivateBallot.Archive.Transcript
import PrivateBallot.Archive.TransportBinding
import PrivateBallot.Archive.TransportCounts
import PrivateBallot.Archive.VerificationMemo
import PrivateBallot.Archive.Verifier
import PrivateBallot.Archive.VerifierCompleteness
import PrivateBallot.Archive.VerifierSoundness
import PrivateBallot.Ballot.Candidate
import PrivateBallot.Ballot.Lifecycle
import PrivateBallot.Ballot.Manifest
import PrivateBallot.Ballot.Package
import PrivateBallot.Base.Ascii
import PrivateBallot.Base.Bytes
import PrivateBallot.Base.Codec
import PrivateBallot.Base.Cursor
import PrivateBallot.Base.Digests
import PrivateBallot.Base.DirectoryTree
import PrivateBallot.Base.Duration
import PrivateBallot.Base.Exact
import PrivateBallot.Base.FileSystem
import PrivateBallot.Base.FlightCache
import PrivateBallot.Base.Hex
import PrivateBallot.Base.Interleaving
import PrivateBallot.Base.IpLiteral
import PrivateBallot.Base.LossyText
import PrivateBallot.Base.MerkleTree
import PrivateBallot.Base.NumberedCalls
import PrivateBallot.Base.Observation
import PrivateBallot.Base.Program
import PrivateBallot.Base.ProgramParts
import PrivateBallot.Base.Reads
import PrivateBallot.Base.Search
import PrivateBallot.Base.Selection
import PrivateBallot.Base.Sequence
import PrivateBallot.Base.Split
import PrivateBallot.Base.Text
import PrivateBallot.Base.WorkerPool
import PrivateBallot.Crypto.Triptych
import PrivateBallot.Crypto.TriptychProver
import PrivateBallot.Crypto.TriptychVerifier
import PrivateBallot.Crypto.Verification
import PrivateBallot.GuiCore.AnchorSidecars
import PrivateBallot.GuiCore.ArchiveAgreement
import PrivateBallot.GuiCore.ArchiveCapacity
import PrivateBallot.GuiCore.ArchiveLayout
import PrivateBallot.GuiCore.ArchiveWriter
import PrivateBallot.GuiCore.CastRecordCodec
import PrivateBallot.GuiCore.CastRecords
import PrivateBallot.GuiCore.CastRelease
import PrivateBallot.GuiCore.CastReleaseSafety
import PrivateBallot.GuiCore.CastReleaseSteps
import PrivateBallot.GuiCore.CastWorld
import PrivateBallot.GuiCore.ElectionStatus
import PrivateBallot.GuiCore.ElectionStatusKnowledge
import PrivateBallot.GuiCore.EnvelopeSealing
import PrivateBallot.GuiCore.Error
import PrivateBallot.GuiCore.LifecycleFence
import PrivateBallot.GuiCore.Participation
import PrivateBallot.GuiCore.PrivateIntakeInbox
import PrivateBallot.GuiCore.Session
import PrivateBallot.GuiCore.SessionAcceptance
import PrivateBallot.GuiCore.SessionBookkeeping
import PrivateBallot.GuiCore.SessionReplay
import PrivateBallot.GuiCore.SignedArtifacts
import PrivateBallot.GuiCore.Transport
import PrivateBallot.GuiCore.TransportDescriptor
import PrivateBallot.GuiCore.TransportReceipt
import PrivateBallot.GuiCore.TrustReadiness
import PrivateBallot.GuiCore.TrustSettingCalls
import PrivateBallot.GuiCore.TrustSettingRuns
import PrivateBallot.GuiCore.TrustSettings
import PrivateBallot.GuiCore.VerifiedSessionCache
import PrivateBallot.GuiCore.VerifiedSessionResume
import PrivateBallot.GuiCore.VoterCredential
import PrivateBallot.GuiCore.VoterSession
import PrivateBallot.GuiCore.VoterWorkflow
import PrivateBallot.GuiCore.WorkspaceAppend
import PrivateBallot.GuiCore.WorkspaceDisk
import PrivateBallot.GuiCore.WorkspaceHead
import PrivateBallot.GuiCore.WorkspaceHistory
import PrivateBallot.GuiCore.WorkspaceMemory
import PrivateBallot.GuiCore.WorkspaceNames
import PrivateBallot.GuiCore.WorkspaceProcesses
import PrivateBallot.GuiCore.WorkspaceRecord
import PrivateBallot.GuiCore.WorkspaceRecovery
import PrivateBallot.OotleAnchor.Backoff
import PrivateBallot.OotleAnchor.CanonicalJson
import PrivateBallot.OotleAnchor.CanonicalJsonText
import PrivateBallot.OotleAnchor.EventBindings
import PrivateBallot.OotleAnchor.PathGuard
import PrivateBallot.OotleAnchor.PublicPayload
import PrivateBallot.OotleAnchor.PublicPayloadCodec
import PrivateBallot.OotleAnchor.Receipt
import PrivateBallot.OotleAnchor.ReceiptAgreement
import PrivateBallot.OotleAnchor.ReceiptConversion
import PrivateBallot.OotleAnchor.ReceiptVerification
import PrivateBallot.Protocol.Cbor
import PrivateBallot.Protocol.CborItems
import PrivateBallot.Protocol.Error
import PrivateBallot.Protocol.Framing
import PrivateBallot.Protocol.Hashing
import PrivateBallot.Protocol.ProofStatement
import PrivateBallot.Registry.CanonicalSets
import PrivateBallot.Registry.Snapshot
import PrivateBallot.Shell.CredentialCommands
import PrivateBallot.Shell.ElectionStatusCommands
import PrivateBallot.Shell.IntakeCommands
import PrivateBallot.Shell.IntakeFollows
import PrivateBallot.Shell.IntakeOwnership
import PrivateBallot.Shell.LoadedCredential
import PrivateBallot.Shell.SealedResults
import PrivateBallot.Shell.StatusKnowledgeRuns
import PrivateBallot.Shell.StatusPublication
import PrivateBallot.Tally.Approval
import PrivateBallot.Tally.ElectionResult
import PrivateBallot.TransportGateway.AdmissionRuns
import PrivateBallot.TransportGateway.Collector
import PrivateBallot.TransportGateway.CollectorHttp
import PrivateBallot.TransportGateway.DurableRuns
import PrivateBallot.TransportGateway.DurableState
import PrivateBallot.TransportGateway.Finalization
import PrivateBallot.TransportGateway.Gateway
import PrivateBallot.TransportGateway.GatewayRuns
import PrivateBallot.TransportGateway.Inclusion
import PrivateBallot.TransportGateway.PacketBoundaries
import PrivateBallot.TransportGateway.SealedEnvelopes
import PrivateBallot.TransportGateway.ServiceLoop
import PrivateBallot.TransportNetwork.Http
import PrivateBallot.TransportNetwork.ManagedTor
import PrivateBallot.TransportNetwork.RemoteSocks
import PrivateBallot.Verifier.Ingestion
import PrivateBallot.Verifier.Ledger
import PrivateBallot.Verifier.StatementBinding
