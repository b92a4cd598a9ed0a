import PrivateBallot.Protocol.ProofStatement

/-!
# Proof verifier interface

Library `Crypto`. `crates/crypto/src/verification.rs`: what a proof suite returns for a
statement and proof bytes, one at a time or for a batch. The trait is a record of its
methods.
-/

namespace PrivateBallot.Crypto

open PrivateBallot.Base
open PrivateBallot.Protocol

/-- Election-scoped nullifier produced by a successful verification. -/
@[ext] structure VerifiedNullifier where
  toBytes : Bytes
  nonempty : toBytes ≠ []
  length_le : toBytes.length ≤ maxNullifierBytes

instance : DecidableEq VerifiedNullifier := fun a b ↦
  decidable_of_iff (a.toBytes = b.toBytes) VerifiedNullifier.ext_iff.symm

/-- `VerifiedNullifier::new` -/
def VerifiedNullifier.new (bytes : Bytes) : Result VerifiedNullifier :=
  if hempty : bytes = [] then
    fail .emptyNullifier "verified nullifier must not be empty"
  else if hlen : maxNullifierBytes < bytes.length then
    fail .protocolLimitExceeded "verified nullifier exceeds the protocol size limit"
  else .ok ⟨bytes, hempty, Nat.le_of_not_lt hlen⟩

/-- A verified statement with its nullifier. -/
structure VerifiedProofV1 where
  statement : ProofStatementV1
  nullifier : VerifiedNullifier
deriving DecidableEq

/-- One member of a verification batch. -/
structure ProofBatchInputV1 where
  statement : ProofStatementV1
  proofBytes : Bytes
deriving DecidableEq

/-- The methods of the `ProofVerifierV1` trait. -/
structure ProofVerifierV1 where
  proofSuiteId : Text
  verify : ProofStatementV1 → Bytes → Result VerifiedProofV1
  verifyBatchV1 : List ProofBatchInputV1 → List (Result VerifiedProofV1)

end PrivateBallot.Crypto
