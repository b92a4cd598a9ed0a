import PrivateBallot.Shell.ElectionStatusCommands

/-!
# Runs of status imports

Library `Shell`. `gui/src-tauri/src/election_status_commands.rs:293-388` and `lib.rs:1277-1345`:
what a voter knows of an election's status over imports and restarts. An import advances the session
first and stores its record afterwards, which may fail; the knowledge is read from the record at
every import.
-/

namespace PrivateBallot.Shell

open PrivateBallot.Base
open PrivateBallot.Protocol
open PrivateBallot.Ballot
open PrivateBallot.GuiCore

/-! ### One import -/

/-- How an import finds its trust roots, given the record: the anchor to record and the roots. -/
abbrev TrustResolution := Option PersistedElectionStatusRecordV1 →
  GuiResult (AnchorMaterial × TransportAuthorityRootSetV1)

/-- The resolution of the command: one anchor, alone in its root set. -/
def resolveSingleRoot (configuredAnchor : Option AnchorMaterial) : TrustResolution :=
  fun persisted ↦ do
    let anchor ← resolveAnchor configuredAnchor persisted
    pure (anchor, singleRootSet anchor)

section

variable (ed : SignatureCrate) (resolve : TrustResolution)

/-- The anchor, the roots and the knowledge of an import. -/
def prepareImport (directory : StatusDirectory) (artifacts : GuiElectionArtifactsV1) :
    GuiResult (AnchorMaterial × TransportAuthorityRootSetV1 × ElectionStatusKnowledgeV1) := do
  let persisted ← loadStatusOf ed directory artifacts
  let (anchor, roots) ← resolve persisted
  pure (anchor, roots, knowledgeOf persisted)

/-- `apply_election_status_bytes_in_state`, with trust roots that are found in any way. -/
def applyStatusBytes (stores : Bool) (state : StatusState) (statementBytes : Bytes) :
    GuiResult AppliedElectionStatusV1 × StatusState :=
  match state.session with
  | none => (.error noSession, state)
  | some session =>
    match prepareImport ed resolve state.directory session.artifacts with
    | .error e => (.error e, state)
    | .ok (anchor, roots, knowledge) =>
      match verifyAndApplyElectionStatusStatementV1 ed statementBytes roots knowledge session with
      | (.error e, _, session) => (.error e.toGuiCoreError, { state with session := some session })
      | (.ok applied, _, session) =>
        match storeAccepted state.directory session.artifacts anchor statementBytes stores with
        | .error e => (.error e, { state with session := some session })
        | .ok directory => (.ok applied, ⟨some session, directory⟩)

/-- The statement that an import accepts, with the roots it counts under, whether or not it is
stored afterwards. -/
def acceptedBy (state : StatusState) (statementBytes : Bytes) :
    Option (AuthenticatedElectionStatusStatementV1 × TransportAuthorityRootSetV1) :=
  match state.session with
  | none => none
  | some session =>
    match prepareImport ed resolve state.directory session.artifacts with
    | .error _ => none
    | .ok (_, roots, knowledge) =>
      match (verifyAndApplyElectionStatusStatementV1 ed statementBytes roots knowledge session).1,
        AuthenticatedElectionStatusStatementV1.fromCanonicalCbor statementBytes with
      | .ok _, .ok statement => some (statement, roots)
      | _, _ => none

end

section

variable {ed : SignatureCrate}

/-- The command finds what the import finds with its resolution. -/
theorem prepareImport_resolveSingleRoot (configuredAnchor : Option AnchorMaterial)
    (directory : StatusDirectory) (artifacts : GuiElectionArtifactsV1) :
    prepareImport ed (resolveSingleRoot configuredAnchor) directory artifacts =
      (prepareStatus ed configuredAnchor directory artifacts).map fun prepared ↦
        (prepared.1, singleRootSet prepared.1, prepared.2) := by
  unfold prepareImport prepareStatus resolveSingleRoot
  cases loadStatusOf ed directory artifacts with
  | error e => rfl
  | ok persisted =>
    cases hanchor : resolveAnchor configuredAnchor persisted with
    | error e => simp [hanchor, bind, Except.bind, Except.map]
    | ok anchor => simp [hanchor, bind, Except.bind, pure, Except.pure, Except.map]

/-- The command is the import with its own resolution. -/
theorem applyElectionStatusBytesInState_eq (configuredAnchor : Option AnchorMaterial)
    (stores : Bool) (state : StatusState) (statementBytes : Bytes) :
    applyElectionStatusBytesInState ed configuredAnchor stores state statementBytes =
      applyStatusBytes ed (resolveSingleRoot configuredAnchor) stores state statementBytes := by
  unfold applyElectionStatusBytesInState applyStatusBytes
  cases state.session with
  | none => rfl
  | some session =>
    dsimp only
    rw [prepareImport_resolveSingleRoot]
    cases prepareStatus ed configuredAnchor state.directory session.artifacts with
    | error e => rfl
    | ok prepared => rfl

/-- A stored record is the one of the accepted statement. -/
theorem storeAccepted_eq_ok {directory directory' : StatusDirectory}
    {artifacts : GuiElectionArtifactsV1} {anchor : AnchorMaterial} {statementBytes : Bytes}
    {stores : Bool} {statement : AuthenticatedElectionStatusStatementV1}
    (hdecodes : AuthenticatedElectionStatusStatementV1.fromCanonicalCbor statementBytes =
      .ok statement)
    (h : storeAccepted directory artifacts anchor statementBytes stores = .ok directory') :
    ∃ encoded, statement.toCanonicalCbor = .ok encoded ∧
      directory' (statusFileOf artifacts) = some (encodeStatusRecord
        ⟨anchor.rootKeyId, anchor.rootPublicKey, statement⟩ encoded) := by
  simp only [storeAccepted, hdecodes, persistElectionStatusRecordV1, bind_eq_ok,
    ofStatus_eq_ok] at h
  obtain ⟨accepted, haccepted, -, -, encoded, hencoded, hstored⟩ := h
  cases haccepted
  refine ⟨encoded, hencoded, ?_⟩
  cases stores with
  | false => cases hstored
  | true =>
    cases hstored
    exact Function.update_self ..

/-- What an import does: it refuses and changes nothing, or it accepts a statement, moves the
session to its state and stores its record, or fails to. -/
theorem applyStatusBytes_cases (ed : SignatureCrate)
    (resolve : TrustResolution) (stores : Bool) {state : StatusState}
    {session : GuiElectionSessionV1} (hsession : state.session = some session)
    (hdraft : session.lifecycle.state ≠ .draft) (statementBytes : Bytes) :
    (acceptedBy ed resolve state statementBytes = none ∧
      (applyStatusBytes ed resolve stores state statementBytes).2 = state) ∨
    ∃ persisted anchor roots statement,
      loadStatusOf ed state.directory session.artifacts = .ok persisted ∧
      resolve persisted = .ok (anchor, roots) ∧
      IsAcceptedStatement ed statementBytes roots (knowledgeOf persisted) session statement ∧
      acceptedBy ed resolve state statementBytes = some (statement, roots) ∧
      (applyStatusBytes ed resolve stores state statementBytes).2.session =
        some (session.inState statement.state session.privateInboxValidationCache) ∧
      match (applyStatusBytes ed resolve stores state statementBytes).1 with
      | .error _ =>
        (applyStatusBytes ed resolve stores state statementBytes).2.directory = state.directory
      | .ok _ => ∃ encoded, statement.toCanonicalCbor = .ok encoded ∧
        (applyStatusBytes ed resolve stores state statementBytes).2.directory
            (statusFileOf session.artifacts) = some (encodeStatusRecord
          ⟨anchor.rootKeyId, anchor.rootPublicKey, statement⟩ encoded) := by
  unfold acceptedBy applyStatusBytes
  simp only [hsession]
  cases hprepare : prepareImport ed resolve state.directory session.artifacts with
  | error e => exact .inl ⟨rfl, rfl⟩
  | ok prepared =>
    obtain ⟨persisted, hload, hrest⟩ := bind_eq_ok.mp hprepare
    obtain ⟨⟨anchor, roots⟩, hresolve, hprepared⟩ := bind_eq_ok.mp hrest
    cases hprepared
    obtain ⟨⟨e, herror⟩, -⟩ | ⟨statement, haccepted, happly⟩ :=
      verifyAndApply_cases ed statementBytes roots (knowledgeOf persisted) hdraft
    · left
      simp only [herror, true_and]
      rw [← hsession]
    · right
      refine ⟨persisted, anchor, roots, statement, hload, hresolve, haccepted, ?_⟩
      have hsame : (session.inState statement.state session.privateInboxValidationCache).artifacts =
          session.artifacts := rfl
      simp only [happly, haccepted.decodes, hsame, true_and]
      cases hstore : storeAccepted state.directory session.artifacts anchor statementBytes
        stores with
      | error e => exact ⟨rfl, rfl⟩
      | ok directory => exact ⟨rfl, storeAccepted_eq_ok haccepted.decodes hstore⟩

end

/-! ### Runs of imports and restarts -/

/-- A statement that an import accepted, the roots it was accepted under, and whether the import
succeeded, so that its record is stored. -/
structure AcceptedStatus where
  statement : AuthenticatedElectionStatusStatementV1
  roots : TransportAuthorityRootSetV1
  stored : Bool

/-- A voter's view of one election, with every statement accepted so far. -/
structure VoterStatus where
  state : StatusState
  accepted : List AcceptedStatus

/-- What can happen to it: bytes are offered, and the record can be stored or not, or the process
restarts, with or without the record being applied again to the fresh session. An offer that is cut
off is one that did or did not store, and a restart. -/
inductive VoterStatusStep where
  | offer (statementBytes : Bytes) (resolve : TrustResolution) (stores : Bool)
  | restart
  | reload

namespace VoterStatus

section

variable (ed : SignatureCrate) (fresh : GuiElectionSessionV1)

/-- One step. A fresh session to which the record cannot be applied is not installed. -/
def step (self : VoterStatus) : VoterStatusStep → VoterStatus
  | .offer statementBytes resolve stores =>
    let (result, state) := applyStatusBytes ed resolve stores self.state statementBytes
    ⟨state, self.accepted ++ (acceptedBy ed resolve self.state statementBytes).toList.map
      fun accepted ↦ ⟨accepted.1, accepted.2, result.isOk⟩⟩
  | .restart => { self with state := ⟨some fresh, self.state.directory⟩ }
  | .reload =>
    let (result, session) :=
      reapplyPersistedElectionStatusFromDir ed self.state.directory fresh
    { self with state := ⟨if result.isOk then some session else none, self.state.directory⟩ }

/-- The view after a sequence of steps. -/
def run (self : VoterStatus) (steps : List VoterStatusStep) : VoterStatus :=
  steps.foldl (step ed fresh) self

end

/-- Before anything was offered. -/
def initial (fresh : GuiElectionSessionV1) (directory : StatusDirectory) : VoterStatus :=
  ⟨⟨some fresh, directory⟩, []⟩

/-- The accepted statements whose records were stored. -/
def stored (self : VoterStatus) : List AcceptedStatus := self.accepted.filter (·.stored)

/-- Later statements are not older, assert no earlier state, and at the same generation assert the
same state. -/
def Follows (earlier later : AuthenticatedElectionStatusStatementV1) : Prop :=
  earlier.generation ≤ later.generation ∧ earlier.state.rank ≤ later.state.rank ∧
    (earlier.generation = later.generation → earlier.state = later.state)

/-- Later statements follow the stored ones. -/
def InOrder (earlier later : AcceptedStatus) : Prop :=
  earlier.stored = true → Follows earlier.statement later.statement

/-- The statement is about the election, and signed by a root that is pinned in these roots and not
revoked. -/
def IsGenuine (ed : SignatureCrate) (artifacts : GuiElectionArtifactsV1)
    (roots : TransportAuthorityRootSetV1) (statement : AuthenticatedElectionStatusStatementV1) :
    Prop :=
  statement.electionId = artifacts.manifest.fields.electionId.toBytes ∧
    statement.manifestHash = artifacts.manifestHash ∧
    statement.registryCommitment = artifacts.registryCommitment ∧
    ∃ (keyId : Text) (publicKey : Bytes32) (message : Bytes),
      statement.rootKeyId ∉ roots.revoked ∧
      roots.lookupRoot statement.rootKeyId = .ok (.pinned keyId publicKey) ∧
      ed.isVerifyingKey publicKey = true ∧ statement.signingMessage = .ok message ∧
      ed.verifyStrict publicKey message statement.signature.val = true

/-- The statement was offered in the run, to an import that found these roots. -/
def WasOffered (ed : SignatureCrate) (fresh : GuiElectionSessionV1) (self : VoterStatus)
    (steps : List VoterStatusStep) (entry : AcceptedStatus) : Prop :=
  ∃ past statementBytes resolve stores later persisted anchor,
    steps = past ++ .offer statementBytes resolve stores :: later ∧
    AuthenticatedElectionStatusStatementV1.fromCanonicalCbor statementBytes = .ok entry.statement ∧
    loadStatusOf ed (self.run ed fresh past).state.directory fresh.artifacts = .ok persisted ∧
    resolve persisted = .ok (anchor, entry.roots)

variable {ed : SignatureCrate} {fresh : GuiElectionSessionV1} {self : VoterStatus}

/-- A statement that verifies for an election is genuine. -/
theorem isGenuine_of_verify {statement : AuthenticatedElectionStatusStatementV1}
    {roots : TransportAuthorityRootSetV1} {artifacts : GuiElectionArtifactsV1}
    (h : statement.verify ed roots artifacts.manifest.fields.electionId.toBytes
      artifacts.manifestHash artifacts.registryCommitment = .ok ()) :
    IsGenuine ed artifacts roots statement := by
  obtain ⟨-, helection, hmanifest, hregistry, message, hmessage, htransport⟩ :=
    AuthenticatedElectionStatusStatementV1.verify_eq_ok.mp h
  obtain ⟨keyId, publicKey, hrevoked, hroot, hkey, hsignature⟩ :=
    TransportAuthorityRootSetV1.verifyByRootId_eq_ok.mp htransport
  exact ⟨helection, hmanifest, hregistry, keyId, publicKey, message, hrevoked, hroot, hkey,
    hmessage, hsignature⟩

theorem Follows.trans {a b c : AuthenticatedElectionStatusStatementV1} (hab : Follows a b)
    (hbc : Follows b c) : Follows a c := by
  refine ⟨UInt64.le_trans hab.1 hbc.1, hab.2.1.trans hbc.2.1, ?_⟩
  intro hsame
  have hbetween : a.generation = b.generation := by
    apply UInt64.le_antisymm hab.1
    rw [hsame]
    exact hbc.1
  rw [hab.2.2 hbetween]
  exact hbc.2.2 (hbetween ▸ hsame)

/-! ### The invariant -/

/-- The file of the election holds the record of the statement that was stored last. -/
def IsOnFile (artifacts : GuiElectionArtifactsV1) (directory : StatusDirectory) :
    Option AcceptedStatus → Prop
  | none => directory (statusFileOf artifacts) = none
  | some entry => ∃ record encoded,
      directory (statusFileOf artifacts) = some (encodeStatusRecord record encoded) ∧
      record.statement = entry.statement ∧ record.statement.toCanonicalCbor = .ok encoded

/-- What holds of every view reached by imports and reloads: the session is not behind the
statement that was stored last. -/
structure IsForward (ed : SignatureCrate) (fresh : GuiElectionSessionV1) (status : VoterStatus) :
    Prop where
  session : ∀ session, status.state.session = some session →
    session.artifacts = fresh.artifacts ∧ session.lifecycle.state ≠ .draft ∧
      ∀ entry, status.stored.getLast? = some entry →
        entry.statement.state.rank ≤ session.lifecycle.state.rank
  file : IsOnFile fresh.artifacts status.state.directory status.stored.getLast?
  ordered : status.accepted.Pairwise InOrder
  genuine : ∀ entry ∈ status.accepted, IsGenuine ed fresh.artifacts entry.roots entry.statement

/-- What is loaded is the statement that was stored last. -/
theorem statement_of_loadStatusOf {artifacts : GuiElectionArtifactsV1}
    {directory : StatusDirectory} {newest : Option AcceptedStatus}
    {persisted : Option PersistedElectionStatusRecordV1} (h : IsOnFile artifacts directory newest)
    (hload : loadStatusOf ed directory artifacts = .ok persisted) :
    persisted.map (·.statement) = newest.map (·.statement) := by
  obtain ⟨-, -, hread⟩ := bind_eq_ok.mp hload
  rw [show statusRecordName (toLowerHex artifacts.manifestHash.toBytes) = statusFileOf artifacts
    from rfl] at hread
  cases newest with
  | none =>
    rw [show directory (statusFileOf artifacts) = none from h] at hread
    cases hread
    rfl
  | some entry =>
    obtain ⟨record, encoded, hfile, hstatement, hencoded⟩ := h
    rw [hfile] at hread
    obtain ⟨loaded, hloaded, hpersisted⟩ := bind_eq_ok.mp hread
    cases hpersisted
    rw [Option.map_some, Option.map_some, statement_of_verifyStatusRecord hencoded hloaded,
      hstatement]

/-- The knowledge of an import is that of the statement stored last. -/
theorem knowledgeOf_of_statement {persisted : Option PersistedElectionStatusRecordV1}
    {newest : Option AcceptedStatus}
    (h : persisted.map (·.statement) = newest.map (·.statement)) :
    (knowledgeOf persisted).acceptedGeneration = newest.map (·.statement.generation) ∧
      (knowledgeOf persisted).acceptedState = newest.map (·.statement.state) := by
  cases persisted with
  | none =>
    cases newest with
    | none => exact ⟨rfl, rfl⟩
    | some entry => cases h
  | some record =>
    cases newest with
    | none => cases h
    | some entry =>
      have hsame : record.statement = entry.statement := Option.some.inj h
      simp only [knowledgeOf, hsame, ElectionStatusKnowledgeV1.fromAccepted, Option.map_some,
        and_self]

/-- Every stored statement is the last one or is followed by it. -/
private theorem follows_last (h : self.IsForward ed fresh) {entry newest : AcceptedStatus}
    (hnewest : self.stored.getLast? = some newest) (hmem : entry ∈ self.accepted)
    (hstored : entry.stored = true) :
    entry = newest ∨ Follows entry.statement newest.statement := by
  have hordered : self.stored.Pairwise InOrder := h.ordered.sublist List.filter_sublist
  have hentry : entry ∈ self.stored := List.mem_filter.mpr ⟨hmem, hstored⟩
  have hsplit := List.dropLast_append_getLast? newest hnewest
  rw [← hsplit] at hentry hordered
  rcases List.mem_append.mp hentry with hearlier | hlast
  · right
    exact (List.pairwise_append.mp hordered).2.2 entry hearlier newest
      (List.mem_singleton_self _) hstored
  · left
    exact List.mem_singleton.mp hlast

/-- An accepted statement follows every stored one. -/
private theorem follows_of_isAccepted (h : self.IsForward ed fresh) {statementBytes : Bytes}
    {roots : TransportAuthorityRootSetV1} {session : GuiElectionSessionV1}
    {persisted : Option PersistedElectionStatusRecordV1}
    {statement : AuthenticatedElectionStatusStatementV1}
    (hsession : self.state.session = some session)
    (hload : loadStatusOf ed self.state.directory fresh.artifacts = .ok persisted)
    (haccepted : IsAcceptedStatement ed statementBytes roots (knowledgeOf persisted) session
      statement) {entry : AcceptedStatus} (hmem : entry ∈ self.accepted)
    (hstored : entry.stored = true) : Follows entry.statement statement := by
  obtain ⟨newest, hnewest⟩ : ∃ newest, self.stored.getLast? = some newest := by
    cases hlast : self.stored.getLast? with
    | some newest => exact ⟨newest, rfl⟩
    | none =>
      have hentry : entry ∈ self.stored := List.mem_filter.mpr ⟨hmem, hstored⟩
      rw [List.getLast?_eq_none_iff.mp hlast] at hentry
      cases hentry
  obtain ⟨-, -, hbehind⟩ := h.session session hsession
  have hknown := knowledgeOf_of_statement (statement_of_loadStatusOf h.file hload)
  rw [hnewest] at hknown
  obtain ⟨hgeneration, hequal⟩ := haccepted.admitted _ hknown.1
  have hlast : Follows newest.statement statement := by
    refine ⟨hgeneration, (hbehind newest hnewest).trans haccepted.forward, ?_⟩
    intro hsame
    have hstate := hequal hsame.symm
    rw [hknown.2] at hstate
    exact Option.some.inj hstate
  rcases follows_last h hnewest hmem hstored with rfl | hfollows
  · exact hlast
  · exact hfollows.trans hlast

/-- A fresh session to which the record was applied is in the state that was stored last. -/
private theorem rank_le_of_reapplied {directory : StatusDirectory}
    {newest : Option AcceptedStatus} (hfile : IsOnFile fresh.artifacts directory newest)
    (hdraft : fresh.lifecycle.state ≠ .draft)
    (h : (reapplyPersistedElectionStatusFromDir ed directory fresh).1.isOk = true) :
    (reapplyPersistedElectionStatusFromDir ed directory fresh).2.artifacts = fresh.artifacts ∧
      (reapplyPersistedElectionStatusFromDir ed directory fresh).2.lifecycle.state ≠ .draft ∧
      ∀ entry, newest = some entry → entry.statement.state.rank ≤
        (reapplyPersistedElectionStatusFromDir ed directory fresh).2.lifecycle.state.rank := by
  unfold reapplyPersistedElectionStatusFromDir at h ⊢
  cases hload : loadStatusOf ed directory fresh.artifacts with
  | error e =>
    rw [hload] at h
    cases h
  | ok persisted =>
    have hsame := statement_of_loadStatusOf hfile hload
    rw [hload] at h
    cases persisted with
    | none =>
      refine ⟨rfl, hdraft, ?_⟩
      rintro entry rfl
      cases hsame
    | some record =>
      dsimp only at h ⊢
      cases hencoded : record.statement.toCanonicalCbor with
      | error e =>
        rw [hencoded] at h
        cases h
      | ok bytes =>
        rw [hencoded] at h
        dsimp only at h ⊢
        obtain ⟨⟨e, herror⟩, -⟩ | ⟨statement, haccepted, happly⟩ := verifyAndApply_cases ed bytes
          (singleRootSet ⟨record.rootKeyId, record.rootPublicKey⟩) (knowledgeOf (some record))
          hdraft
        · rw [herror] at h
          cases h
        · rw [happly]
          have hdecodes := haccepted.decodes
          rw [AuthenticatedElectionStatusStatementV1.fromCanonicalCbor_toCanonicalCbor hencoded]
            at hdecodes
          cases hdecodes
          refine ⟨rfl, AuthenticatedElectionStatusStatementV1.state_ne_draft_of_fromCanonicalCbor
            haccepted.decodes, ?_⟩
          rintro entry rfl
          have hstatement : record.statement = entry.statement := Option.some.inj hsame
          show entry.statement.state.rank ≤ record.statement.state.rank
          rw [hstatement]

/-- An import that accepted a statement, and stored its record or failed to. -/
private theorem IsForward.accepts (h : self.IsForward ed fresh) {statementBytes : Bytes}
    {roots : TransportAuthorityRootSetV1} {session : GuiElectionSessionV1}
    {persisted : Option PersistedElectionStatusRecordV1} {anchor : AnchorMaterial}
    {statement : AuthenticatedElectionStatusStatementV1} {state : StatusState}
    {result : GuiResult AppliedElectionStatusV1} (hsession : self.state.session = some session)
    (hload : loadStatusOf ed self.state.directory fresh.artifacts = .ok persisted)
    (haccepted : IsAcceptedStatement ed statementBytes roots (knowledgeOf persisted) session
      statement)
    (hverify : statement.verify ed roots fresh.artifacts.manifest.fields.electionId.toBytes
      fresh.artifacts.manifestHash fresh.artifacts.registryCommitment = .ok ())
    (hmoved : state.session =
      some (session.inState statement.state session.privateInboxValidationCache))
    (hstored : match result with
      | .error _ => state.directory = self.state.directory
      | .ok _ => ∃ encoded, statement.toCanonicalCbor = .ok encoded ∧
        state.directory (statusFileOf fresh.artifacts) = some (encodeStatusRecord
          ⟨anchor.rootKeyId, anchor.rootPublicKey, statement⟩ encoded)) :
    IsForward ed fresh ⟨state, self.accepted ++ [⟨statement, roots, result.isOk⟩]⟩ := by
  obtain ⟨hartifacts, -, hbehind⟩ := h.session session hsession
  have hlist : stored ⟨state, self.accepted ++ [⟨statement, roots, result.isOk⟩]⟩ =
      self.stored ++ if result.isOk then [⟨statement, roots, true⟩] else [] := by
    cases result with
    | error e => simp [stored, Except.isOk, Except.toBool]
    | ok applied => simp [stored, Except.isOk, Except.toBool]
  refine ⟨?_, ?_, ?_, ?_⟩
  · intro moved hmovedTo
    rw [hmoved] at hmovedTo
    cases hmovedTo
    refine ⟨hartifacts, AuthenticatedElectionStatusStatementV1.state_ne_draft_of_fromCanonicalCbor
      haccepted.decodes, ?_⟩
    intro entry hentry
    rw [hlist] at hentry
    cases result with
    | error e =>
      exact (hbehind entry ((List.append_nil self.stored) ▸ hentry)).trans haccepted.forward
    | ok applied =>
      rw [show (Except.ok applied : GuiResult AppliedElectionStatusV1).isOk = true from rfl,
        if_pos rfl, List.getLast?_concat] at hentry
      cases hentry
      exact Nat.le_refl _
  · rw [hlist]
    cases result with
    | error e =>
      rw [show (Except.error e : GuiResult AppliedElectionStatusV1).isOk = false from rfl,
        if_neg Bool.false_ne_true, List.append_nil, show state.directory = _ from hstored]
      exact h.file
    | ok applied =>
      obtain ⟨encoded, hencoded, hfile⟩ := hstored
      rw [show (Except.ok applied : GuiResult AppliedElectionStatusV1).isOk = true from rfl,
        if_pos rfl, List.getLast?_concat]
      exact ⟨_, encoded, hfile, rfl, hencoded⟩
  · apply List.pairwise_append.mpr
    refine ⟨h.ordered, List.pairwise_singleton _ _, ?_⟩
    intro earlier hearlier later hlater hearlierStored
    rw [List.mem_singleton.mp hlater]
    exact follows_of_isAccepted h hsession hload haccepted hearlier hearlierStored
  · intro entry hentry
    rcases List.mem_append.mp hentry with hold | hnew
    · exact h.genuine entry hold
    · rw [List.mem_singleton.mp hnew]
      exact isGenuine_of_verify hverify

/-- One import or one reload. -/
theorem IsForward.step (hdraft : fresh.lifecycle.state ≠ .draft) (h : self.IsForward ed fresh)
    (next : VoterStatusStep) (hnext : next ≠ .restart) :
    (self.step ed fresh next).IsForward ed fresh := by
  cases next with
  | restart => exact absurd rfl hnext
  | reload =>
    refine ⟨?_, h.file, h.ordered, h.genuine⟩
    intro session hsession
    simp only [VoterStatus.step] at hsession
    split at hsession
    · next hok =>
      cases hsession
      exact rank_le_of_reapplied h.file hdraft hok
    · cases hsession
  | offer statementBytes resolve stores =>
    cases hsession : self.state.session with
    | none =>
      have hsame : self.step ed fresh (.offer statementBytes resolve stores) = self := by
        simp only [VoterStatus.step, applyStatusBytes, acceptedBy, hsession, Option.toList_none,
          List.map_nil, List.append_nil]
      rw [hsame]
      exact h
    | some session =>
      obtain ⟨hartifacts, hnotDraft, -⟩ := h.session session hsession
      obtain ⟨hnone, hsame⟩ | ⟨persisted, anchor, roots, statement, hload, -, haccepted, hsome,
          hmoved, hstored⟩ :=
        applyStatusBytes_cases ed resolve stores hsession hnotDraft statementBytes
      · have hstay : self.step ed fresh (.offer statementBytes resolve stores) = self := by
          simp only [VoterStatus.step, hsame, hnone, Option.toList_none, List.map_nil,
            List.append_nil]
        rw [hstay]
        exact h
      · rw [hartifacts] at hload hstored
        have hverify := haccepted.verifies
        rw [hartifacts] at hverify
        have hstep : self.step ed fresh (.offer statementBytes resolve stores) =
            ⟨(applyStatusBytes ed resolve stores self.state statementBytes).2,
              self.accepted ++ [⟨statement, roots,
                (applyStatusBytes ed resolve stores self.state statementBytes).1.isOk⟩]⟩ := by
          simp only [VoterStatus.step, hsome, Option.toList_some, List.map_cons, List.map_nil]
        rw [hstep]
        generalize applyStatusBytes ed resolve stores self.state statementBytes = outcome
          at hmoved hstored
        obtain ⟨result, state⟩ := outcome
        exact h.accepts hsession hload haccepted hverify hmoved hstored

/-! ### Whole runs -/

theorem isForward_initial {directory : StatusDirectory} (hdraft : fresh.lifecycle.state ≠ .draft)
    (hdirectory : directory (statusFileOf fresh.artifacts) = none) :
    (initial fresh directory).IsForward ed fresh := by
  refine ⟨?_, hdirectory, List.Pairwise.nil, ?_⟩
  · intro session hsession
    cases hsession
    refine ⟨rfl, hdraft, ?_⟩
    intro entry hnone
    cases hnone
  · intro entry hentry
    cases hentry

/-- Every run of imports and reloads. -/
theorem IsForward.run (hdraft : fresh.lifecycle.state ≠ .draft) {steps : List VoterStatusStep}
    (hsteps : .restart ∉ steps) (h : self.IsForward ed fresh) :
    (self.run ed fresh steps).IsForward ed fresh := by
  induction steps generalizing self with
  | nil => exact h
  | cons step rest ih =>
    rw [List.mem_cons, not_or] at hsteps
    exact ih hsteps.2 (h.step hdraft step (Ne.symm hsteps.1))

/-- What a step adds was offered in it. -/
private theorem mem_accepted_step (h : self.IsForward ed fresh) (next : VoterStatusStep)
    {entry : AcceptedStatus} (hentry : entry ∈ (self.step ed fresh next).accepted) :
    entry ∈ self.accepted ∨ WasOffered ed fresh self [next] entry := by
  cases next with
  | restart => exact .inl hentry
  | reload => exact .inl hentry
  | offer statementBytes resolve stores =>
    rcases List.mem_append.mp hentry with hold | hnew
    · exact .inl hold
    · right
      obtain ⟨accepted, haccepted, rfl⟩ := List.mem_map.mp hnew
      have hsome := Option.mem_toList.mp haccepted
      cases hsession : self.state.session with
      | none =>
        rw [acceptedBy, hsession] at hsome
        cases hsome
      | some session =>
        obtain ⟨hartifacts, hdraft, -⟩ := h.session session hsession
        obtain ⟨hnone, -⟩ | ⟨persisted, anchor, roots, statement,
            hload, hresolve, hjudged, heq, -⟩ :=
          applyStatusBytes_cases ed resolve stores hsession hdraft statementBytes
        · rw [hnone] at hsome
          cases hsome
        · rw [heq] at hsome
          cases hsome
          rw [hartifacts] at hload
          exact ⟨[], statementBytes, resolve, stores, [], persisted, anchor, rfl,
            hjudged.decodes, hload, hresolve⟩

private theorem WasOffered.cons {next : VoterStatusStep} {rest : List VoterStatusStep}
    {entry : AcceptedStatus} (h : WasOffered ed fresh (self.step ed fresh next) rest entry) :
    WasOffered ed fresh self (next :: rest) entry := by
  obtain ⟨past, statementBytes, resolve, stores, later, persisted, anchor, rfl, hrest⟩ := h
  exact ⟨next :: past, statementBytes, resolve, stores, later, persisted, anchor, rfl, hrest⟩

private theorem WasOffered.append {first rest : List VoterStatusStep} {entry : AcceptedStatus}
    (h : WasOffered ed fresh self first entry) :
      WasOffered ed fresh self (first ++ rest) entry := by
  obtain ⟨past, statementBytes, resolve, stores, later, persisted, anchor, rfl, hrest⟩ := h
  refine ⟨past, statementBytes, resolve, stores, later ++ rest, persisted, anchor, ?_, hrest⟩
  rw [List.append_assoc, List.cons_append]

/-- Everything accepted in a run was offered in it. -/
theorem wasOffered_of_mem (hdraft : fresh.lifecycle.state ≠ .draft)
    {steps : List VoterStatusStep} (hsteps : .restart ∉ steps) (h : self.IsForward ed fresh)
    {entry : AcceptedStatus} (hentry : entry ∈ (self.run ed fresh steps).accepted) :
    entry ∈ self.accepted ∨ WasOffered ed fresh self steps entry := by
  induction steps generalizing self with
  | nil => exact .inl hentry
  | cons step rest ih =>
    rw [List.mem_cons, not_or] at hsteps
    rcases ih hsteps.2 (h.step hdraft step (Ne.symm hsteps.1)) hentry with hstep | hrest
    · exact (mem_accepted_step h step hstep).imp_right fun hoffered ↦ hoffered.append
    · exact .inr hrest.cons

/-- Within one process the session only moves forward. -/
theorem rank_le_run_offers {session : GuiElectionSessionV1}
    (hsession : self.state.session = some session) (hdraft : session.lifecycle.state ≠ .draft)
    (offers : List (Bytes × TrustResolution × Bool)) :
    ∃ later, (self.run ed fresh (offers.map fun offer ↦
        .offer offer.1 offer.2.1 offer.2.2)).state.session = some later ∧
      session.lifecycle.state.rank ≤ later.lifecycle.state.rank := by
  induction offers generalizing self session with
  | nil => exact ⟨session, hsession, Nat.le_refl _⟩
  | cons offer rest ih =>
    obtain ⟨-, hsame⟩ | ⟨persisted, anchor, roots, statement, -, -, haccepted, -, hmoved, -⟩ :=
      applyStatusBytes_cases ed offer.2.1 offer.2.2 hsession hdraft offer.1
    · have hstay : (self.step ed fresh (.offer offer.1 offer.2.1 offer.2.2)).state.session =
          some session := by
        show (applyStatusBytes ed offer.2.1 offer.2.2 self.state offer.1).2.session = _
        rw [hsame]
        exact hsession
      exact ih hstay hdraft
    · have hnext : (self.step ed fresh (.offer offer.1 offer.2.1 offer.2.2)).state.session =
          some (session.inState statement.state session.privateInboxValidationCache) := hmoved
      obtain ⟨later, hlater, hle⟩ := ih hnext
        (AuthenticatedElectionStatusStatementV1.state_ne_draft_of_fromCanonicalCbor
          haccepted.decodes)
      exact ⟨later, hlater, haccepted.forward.trans hle⟩

/-- Status knowledge only moves forward, as far as it was stored: in every run of imports, whose
records can fail to be stored, and of restarts after which the record is applied again, every
accepted statement follows all earlier ones that were stored, was offered and is genuine under the
roots it was offered under, the knowledge is that of the statement stored last, the session never
moves back within a process, and a refused statement changes nothing. -/
theorem statusMovesForward {prims : Primitives} {artifacts : GuiElectionArtifactsV1}
    (hfresh : GuiElectionSessionV1.new prims artifacts = .ok fresh) {directory : StatusDirectory}
    (hdirectory : directory (statusFileOf artifacts) = none) {steps : List VoterStatusStep}
    (hsteps : .restart ∉ steps) :
    let status := (initial fresh directory).run ed fresh steps
    status.accepted.Pairwise InOrder ∧
      (∀ entry ∈ status.accepted, WasOffered ed fresh (initial fresh directory) steps entry ∧
        IsGenuine ed artifacts entry.roots entry.statement) ∧
      (∀ persisted, loadStatusOf ed status.state.directory artifacts = .ok persisted →
        (knowledgeOf persisted).acceptedGeneration =
            status.stored.getLast?.map (·.statement.generation) ∧
          (knowledgeOf persisted).acceptedState =
            status.stored.getLast?.map (·.statement.state)) ∧
      (∀ session, status.state.session = some session →
        ∀ offers : List (Bytes × TrustResolution × Bool),
          ∃ later, (status.run ed fresh (offers.map fun offer ↦
              .offer offer.1 offer.2.1 offer.2.2)).state.session = some later ∧
            session.lifecycle.state.rank ≤ later.lifecycle.state.rank) ∧
      (∀ statementBytes resolve stores,
        acceptedBy ed resolve status.state statementBytes = none →
        (applyStatusBytes ed resolve stores status.state statementBytes).2 = status.state) ∧
      ∀ session, status.state.session = some session → ∀ statementBytes roots knowledge e,
        (verifyAndApplyElectionStatusStatementV1 ed statementBytes roots knowledge session).1 =
            .error e →
          (verifyAndApplyElectionStatusStatementV1 ed statementBytes roots knowledge session).2 =
            (knowledge, session) := by
  intro status
  obtain ⟨hartifacts, hfrozen, -⟩ := GuiElectionSessionV1.new_eq_ok hfresh
  have hdraft : fresh.lifecycle.state ≠ .draft := by
    rw [hfrozen]
    decide
  rw [← hartifacts] at hdirectory
  have hinitial : (initial fresh directory).IsForward ed fresh :=
    isForward_initial hdraft hdirectory
  have h : status.IsForward ed fresh := hinitial.run hdraft hsteps
  rw [← hartifacts]
  refine ⟨h.ordered, ?_, ?_, ?_, ?_, ?_⟩
  · intro entry hentry
    rcases wasOffered_of_mem hdraft hsteps hinitial hentry with hnone | hoffered
    · cases hnone
    · exact ⟨hoffered, h.genuine entry hentry⟩
  · intro persisted hload
    exact knowledgeOf_of_statement (statement_of_loadStatusOf h.file hload)
  · intro session hsession offers
    exact rank_le_run_offers hsession (h.session session hsession).2.1 offers
  · intro statementBytes resolve stores hnone
    cases hsession : status.state.session with
    | none => simp only [applyStatusBytes, hsession]
    | some session =>
      obtain ⟨-, hsame⟩ | ⟨_, _, _, _, -, -, -, hsome, -⟩ := applyStatusBytes_cases ed
        resolve stores hsession (h.session session hsession).2.1 statementBytes
      · exact hsame
      · rw [hnone] at hsome
        cases hsome
  · intro session hsession statementBytes roots knowledge e herror
    obtain ⟨⟨e', hsame⟩, -⟩ | ⟨statement, -, happly⟩ :=
      verifyAndApply_cases ed statementBytes roots knowledge (h.session session hsession).2.1
    · rw [hsame]
    · rw [happly] at herror
      cases herror

end VoterStatus

/-! ### Runs in which it moves back -/

namespace Sample

open PrivateBallot.GuiCore.Sample

/-- An import of the signed statement that asserts a state in a generation. -/
def offering (state : ElectionLifecycleStateV1) (generation : UInt64) (stores : Bool) :
    VoterStatusStep :=
  .offer (statementBytes state generation) (resolveSingleRoot (some anchor)) stores

/-- CLOSED is imported but not stored, and the process restarts; OPEN is imported and stored, the
process restarts, and FROZEN and CLOSED are offered. -/
def importedAgain : List VoterStatusStep :=
  [offering .closed 3 false, .reload, offering .opened 1 true, .reload, offering .frozen 2 true,
    offering .closed 2 true]

/-- A restart that forgets the session's state, between two imports. -/
def forgotten : List VoterStatusStep :=
  [offering .opened 1 true, .restart, offering .frozen 2 true]

/-- A record that cannot be stored, and a restart. -/
def unstored : List VoterStatusStep :=
  [offering .closed 2 false, .reload, offering .opened 1 true]

/-- The generations and states accepted in the run. -/
def acceptedIn (steps : List VoterStatusStep) :
    Option (List (UInt64 × ElectionLifecycleStateV1 × Bool)) :=
  freshSession.toOption.map fun fresh ↦
    ((VoterStatus.initial fresh fun _ ↦ none).run ed fresh steps).accepted.map
      fun entry ↦ (entry.statement.generation, entry.statement.state, entry.stored)

theorem acceptedIn_samples :
    acceptedIn importedAgain =
        some [(3, .closed, false), (1, .opened, true), (2, .closed, true)] ∧
      acceptedIn forgotten = some [(1, .opened, true), (2, .frozen, true)] ∧
      acceptedIn unstored = some [(2, .closed, false), (1, .opened, true)] := by
  decide +kernel

end Sample

/-- CLOSED is accepted and not stored; after the restarts OPEN is accepted again, FROZEN refused and
CLOSED accepted. -/
theorem VoterStatus.statusMovesForward_sample :
    Sample.acceptedIn Sample.importedAgain =
        some [(3, .closed, false), (1, .opened, true), (2, .closed, true)] ∧
      ∃ fresh, GuiCore.Sample.freshSession = .ok fresh ∧
        ((initial fresh fun _ ↦ none).run GuiCore.Sample.ed fresh
          Sample.importedAgain).accepted.Pairwise InOrder := by
  refine ⟨Sample.acceptedIn_samples.1, ?_⟩
  obtain ⟨artifacts, fresh, hnew, hfresh⟩ := GuiCore.Sample.exists_freshSession
  exact ⟨fresh, hfresh, (statusMovesForward hnew rfl
    (by simp [Sample.importedAgain, Sample.offering])).1⟩

/-- A run in which an accepted statement does not follow an earlier one. -/
private theorem VoterStatus.not_pairwise_follows {steps : List VoterStatusStep}
    {first second : UInt64 × ElectionLifecycleStateV1 × Bool}
    (hrun : Sample.acceptedIn steps = some [first, second])
    (hback : second.2.1.rank < first.2.1.rank) : ∃ artifacts fresh,
      GuiElectionSessionV1.new GuiCore.Sample.prims artifacts = .ok fresh ∧
      ¬ ((initial fresh fun _ ↦ none).run GuiCore.Sample.ed fresh steps).accepted.Pairwise
        fun earlier later ↦ Follows earlier.statement later.statement := by
  obtain ⟨artifacts, fresh, hnew, hfresh⟩ := GuiCore.Sample.exists_freshSession
  refine ⟨artifacts, fresh, hnew, ?_⟩
  intro hordered
  rw [Sample.acceptedIn, hfresh] at hrun
  have haccepted : ((initial fresh fun _ ↦ none).run GuiCore.Sample.ed fresh steps).accepted.map
      (fun entry ↦ (entry.statement.generation, entry.statement.state, entry.stored)) =
        [first, second] := Option.some.inj hrun
  have hranks := (List.pairwise_map.mpr (hordered.imp fun hfollows ↦ hfollows.2.1) :
    (((initial fresh fun _ ↦ none).run GuiCore.Sample.ed fresh steps).accepted.map fun entry ↦
      (entry.statement.generation, entry.statement.state, entry.stored)).Pairwise
        fun earlier later ↦ earlier.2.1.rank ≤ later.2.1.rank)
  rw [haccepted] at hranks
  have hle := (List.pairwise_cons.mp hranks).1 second List.mem_cons_self
  omega

/-- OPEN is accepted, the session is replaced by a fresh FROZEN one, and a later generation that
asserts FROZEN is accepted. And CLOSED is accepted, its record cannot be stored, and after a restart
an older generation that asserts OPEN is accepted. -/
theorem VoterStatus.not_statusMovesForward_of_every_run :
    (¬ ∀ (ed : SignatureCrate) (prims : Primitives) (artifacts : GuiElectionArtifactsV1)
      (fresh : GuiElectionSessionV1) (directory : StatusDirectory) (steps : List VoterStatusStep),
      GuiElectionSessionV1.new prims artifacts = .ok fresh →
      directory (statusFileOf artifacts) = none →
      (∀ statementBytes resolve, .offer statementBytes resolve false ∉ steps) →
      ((initial fresh directory).run ed fresh steps).accepted.Pairwise
        fun earlier later ↦ Follows earlier.statement later.statement) ∧
    ¬ ∀ (ed : SignatureCrate) (prims : Primitives) (artifacts : GuiElectionArtifactsV1)
      (fresh : GuiElectionSessionV1) (directory : StatusDirectory) (steps : List VoterStatusStep),
      GuiElectionSessionV1.new prims artifacts = .ok fresh →
      directory (statusFileOf artifacts) = none → .restart ∉ steps →
      ((initial fresh directory).run ed fresh steps).accepted.Pairwise
        fun earlier later ↦ Follows earlier.statement later.statement := by
  constructor
  · intro h
    obtain ⟨artifacts, fresh, hnew, hback⟩ :=
      not_pairwise_follows Sample.acceptedIn_samples.2.1 (by decide)
    exact hback (h _ _ _ _ _ _ hnew rfl (by simp [Sample.forgotten, Sample.offering]))
  · intro h
    obtain ⟨artifacts, fresh, hnew, hback⟩ :=
      not_pairwise_follows Sample.acceptedIn_samples.2.2 (by decide)
    exact hback (h _ _ _ _ _ _ hnew rfl (by simp [Sample.unstored, Sample.offering]))

end PrivateBallot.Shell
