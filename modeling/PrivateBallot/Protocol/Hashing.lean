import PrivateBallot.Protocol.Error

/-!
# Domain-separated hashing and commitments

Library `Protocol`. `crates/protocol/src/hashing.rs`, `commitment.rs` and `scope.rs`: the
frame prefix and one label per hashed object, separated by zero bytes. The hash function
itself (BLAKE3, or the deterministic test hasher) is a `HashProvider`.
-/

namespace PrivateBallot.Protocol

open PrivateBallot.Base

/-- A `HashProvider` implementation: its identifier and its 32-byte digest function. -/
structure HashProvider where
  algorithmId : Text
  hash : Bytes → Bytes32

/-- Identifier of the production provider; `crates/protocol/src/hashing.rs`. -/
def blake3256HashAlgorithmIdV1 : Text := Text.lit "BLAKE3-256/tari-cc-private-ballot/v1"

/-- One domain for each kind of hashed object. -/
inductive HashDomain where
  | registrySnapshotV1
  | candidateSetV1
  | electionManifestV1
  | electionManifestV2
  | approvalBallotPayloadV1
  | ballotPackageV1
  | electionScopeV1
  | proofStatementV1
  | archiveFileV1
  | archiveManifestV1
  | transportDescriptorV1
  | transportRetryCapabilityV1
  | transportBatchLeafV1
  | transportBatchNodeV1
  | transportBatchSetV1
  | electionStatusStatementV1
deriving DecidableEq, Repr

/-- `HashDomain::label` -/
def HashDomain.label : HashDomain → Text
  | .registrySnapshotV1 => .lit "tari-cc-private-ballot/registry-snapshot/v1"
  | .candidateSetV1 => .lit "tari-cc-private-ballot/candidate-set/v1"
  | .electionManifestV1 => .lit "tari-cc-private-ballot/election-manifest/v1"
  | .electionManifestV2 => .lit "tari-cc-private-ballot/election-manifest/v2"
  | .approvalBallotPayloadV1 => .lit "tari-cc-private-ballot/approval-ballot-payload/v1"
  | .ballotPackageV1 => .lit "tari-cc-private-ballot/ballot-package/v1"
  | .electionScopeV1 => .lit "tari-cc-private-ballot/election-scope/v1"
  | .proofStatementV1 => .lit "tari-cc-private-ballot/proof-statement/v1"
  | .archiveFileV1 => .lit "tari-cc-private-ballot/archive-file/v1"
  | .archiveManifestV1 => .lit "tari-cc-private-ballot/archive-manifest/v1"
  | .transportDescriptorV1 => .lit "tari-cc-private-ballot/transport-descriptor/v1"
  | .transportRetryCapabilityV1 => .lit "tari-cc-private-ballot/transport-retry-capability/v1"
  | .transportBatchLeafV1 => .lit "tari-cc-private-ballot/transport-batch-leaf/v1"
  | .transportBatchNodeV1 => .lit "tari-cc-private-ballot/transport-batch-node/v1"
  | .transportBatchSetV1 => .lit "tari-cc-private-ballot/transport-batch-set/v1"
  | .electionStatusStatementV1 => .lit "tari-cc-private-ballot/election-status/v1"

/-- Prefix of every framed hash input. -/
def hashFramePrefix : Text := .lit "TARI_CC_PRIVATE_BALLOT_HASH_FRAME_V1"

/-- `domain_separated_input` -/
def domainSeparatedInput (domain : HashDomain) (canonicalObjectBytes : Bytes) : Bytes :=
  hashFramePrefix.toBytes ++ [0] ++ domain.label.toBytes ++ [0] ++ canonicalObjectBytes

/-- `hash_domain_separated` -/
def hashDomainSeparated (provider : HashProvider) (domain : HashDomain)
    (canonicalObjectBytes : Bytes) : Bytes32 :=
  provider.hash (domainSeparatedInput domain canonicalObjectBytes)

/-! ### Commitments (`crates/protocol/src/commitment.rs`) -/

/-- Hash binding a ballot to one election manifest. -/
abbrev ManifestHash := Bytes32

/-- Election-specific scope used for anonymous duplicate detection. -/
abbrev ElectionScope := Bytes32

/-- Commitment to one frozen electorate registry. -/
abbrev RegistryCommitment := Bytes32

/-- Commitment to one canonical candidate set. -/
abbrev CandidateSetCommitment := Bytes32

/-- Hash binding a proof statement to one ballot payload. -/
abbrev BallotPayloadHash := Bytes32

/-- `derive_election_scope`; `crates/protocol/src/scope.rs:11`. -/
def deriveElectionScope (provider : HashProvider) (manifestHash : ManifestHash) :
    ElectionScope :=
  hashDomainSeparated provider .electionScopeV1 manifestHash.toBytes

end PrivateBallot.Protocol
