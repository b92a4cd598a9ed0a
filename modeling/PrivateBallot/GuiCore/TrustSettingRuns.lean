import PrivateBallot.GuiCore.TrustSettingCalls

/-!
# Trust settings that are written once

Library `GuiCore`. `crates/gui-core/src/production_transport_authority_config.rs:116-434` and
`crates/gui-core/src/trusted_anchor_deployment.rs:196-318,523-558`. The history of the stored files
is replayed on registers that are written once: a register is set where it is empty and emptied by a
confirmed removal. The interleaved calls follow it as long as none of three things happens: a
renaming onto a file that is there, the renaming of a temporary file that another call has created,
and a failure to read a deployment back that the call has just written.
-/

namespace PrivateBallot.GuiCore

open PrivateBallot.Base PrivateBallot.Protocol PrivateBallot.OotleAnchor

/-! ### Registers that are written once -/

/-- Who did it. -/
def TrustEvent.call : TrustEvent → Nat
  | .wrote call _ _ => call
  | .removed call _ _ => call

/-- An empty register is set, and a register is emptied. -/
def TrustEvent.apply (stored : TrustFile → Option Bytes) :
    TrustEvent → Option (TrustFile → Option Bytes)
  | .wrote _ file bytes =>
    if stored file = none then some (Function.update stored file (some bytes)) else none
  | .removed _ _ file => some (Function.update stored file none)

/-- All that happened, one after the other. -/
def replayTrust (stored : TrustFile → Option Bytes) (history : List TrustEvent) :
    Option (TrustFile → Option Bytes) :=
  history.foldlM TrustEvent.apply stored

theorem replayTrust_append {stored middle : TrustFile → Option Bytes} {history : List TrustEvent}
    (h : replayTrust stored history = some middle) (rest : List TrustEvent) :
    replayTrust stored (history ++ rest) = replayTrust middle rest := by
  show (history ++ rest).foldlM _ stored = _
  rw [List.foldlM_append]
  show (replayTrust stored history).bind _ = _
  rw [h, Option.bind_some]
  rfl

theorem exists_replayTrust_of_append {stored last : TrustFile → Option Bytes}
    {history rest : List TrustEvent} (h : replayTrust stored (history ++ rest) = some last) :
    ∃ middle, replayTrust stored history = some middle ∧ replayTrust middle rest = some last := by
  cases hmiddle : replayTrust stored history with
  | none =>
    have hnone : replayTrust stored (history ++ rest) = none := by
      show (history ++ rest).foldlM _ stored = _
      rw [List.foldlM_append]
      show (replayTrust stored history).bind _ = _
      rw [hmiddle, Option.bind_none]
    rw [hnone] at h
    cases h
  | some middle => exact ⟨middle, rfl, (replayTrust_append hmiddle rest).symm.trans h⟩

/-- A register that is set stays so until it is emptied. -/
theorem replayTrust_of_not_removed {stored last : TrustFile → Option Bytes}
    {history : List TrustEvent} {file : TrustFile} {bytes : Bytes}
    (h : replayTrust stored history = some last) (hset : stored file = some bytes)
    (hkept : ∀ call request, .removed call request file ∉ history) :
    last file = some bytes ∧ ∀ call bytes', .wrote call file bytes' ∉ history := by
  induction history generalizing stored with
  | nil =>
    cases h
    exact ⟨hset, fun _ _ h ↦ by cases h⟩
  | cons event history ih =>
    obtain ⟨next, hnext, hrest⟩ := Option.bind_eq_some_iff.mp h
    have hkept' : ∀ call request, .removed call request file ∉ history :=
      fun call request hmem ↦ hkept call request (List.mem_cons_of_mem _ hmem)
    cases event with
    | wrote call other bytes' =>
      obtain ⟨hempty, hupdate⟩ := Option.ite_none_right_eq_some.mp hnext
      cases hupdate
      have hne : file ≠ other := by
        rintro rfl
        rw [hset] at hempty
        cases hempty
      obtain ⟨hlast, hwrote⟩ := ih hrest
        (by rw [Function.update_of_ne hne]; exact hset) hkept'
      refine ⟨hlast, fun call' bytes'' hmem ↦ ?_⟩
      rcases List.mem_cons.mp hmem with heq | hmem
      · cases heq
        exact hne rfl
      · exact hwrote call' bytes'' hmem
    | removed call request other =>
      cases hnext
      have hne : file ≠ other := by
        rintro rfl
        exact hkept call request List.mem_cons_self
      obtain ⟨hlast, hwrote⟩ := ih hrest
        (by rw [Function.update_of_ne hne]; exact hset) hkept'
      refine ⟨hlast, fun call' bytes'' hmem ↦ ?_⟩
      rcases List.mem_cons.mp hmem with heq | hmem
      · cases heq
      · exact hwrote call' bytes'' hmem

/-- Behind a write the register holds what was written, until it is emptied. -/
theorem replayTrust_of_wrote {stored last : TrustFile → Option Bytes}
    {before after : List TrustEvent} {call : Nat} {file : TrustFile} {bytes : Bytes}
    (h : replayTrust stored (before ++ TrustEvent.wrote call file bytes :: after) = some last)
    (hkept : ∀ call request, .removed call request file ∉ after) :
    last file = some bytes ∧ ∀ call bytes', .wrote call file bytes' ∉ after := by
  obtain ⟨middle, -, hrest⟩ := exists_replayTrust_of_append h
  obtain ⟨next, hnext, hrest⟩ := Option.bind_eq_some_iff.mp hrest
  obtain ⟨-, hupdate⟩ := Option.ite_none_right_eq_some.mp hnext
  cases hupdate
  exact replayTrust_of_not_removed hrest (Function.update_self _ _ _) hkept

/-! ### What a call relies on -/

/-- What a call has done so far. -/
def TrustFiles.own (files : TrustFiles) (call : Nat) : List TrustEvent :=
  files.history.filter fun event ↦ event.call = call

/-- The others may remove the temporary files of a call; they make none, and do nothing and read no
WASM file, in its name. -/
structure TrustRely (call : Nat) (files files' : TrustFiles) : Prop where
  temporary : ∀ file now bytes, files'.temporary file now = some (call, bytes) →
    files.temporary file now = some (call, bytes)
  own : files'.own call = files.own call
  inspected : files'.inspected call = files.inspected call

theorem TrustRely.refl (call : Nat) (files : TrustFiles) : TrustRely call files files :=
  ⟨fun _ _ _ h ↦ h, rfl, rfl⟩

theorem TrustRely.trans {call : Nat} {a b c : TrustFiles} (h : TrustRely call a b)
    (h' : TrustRely call b c) : TrustRely call a c :=
  ⟨fun file now bytes ht ↦ h.temporary file now bytes (h'.temporary file now bytes ht),
    h'.own.trans h.own, h'.inspected.trans h.inspected⟩

/-- The removals that a request stands for. -/
def TrustRequest.confirms : TrustRequest → TrustFile → Bool
  | .forget confirm, .root => confirm
  | .unlockV1 confirm, .deploymentV1 => confirm
  | .unlockV2 confirm, .deploymentV2 => confirm
  | _, _ => false

/-- The history leads to the stored files, and every removal was confirmed. -/
structure TrustKept (stored : TrustFile → Option Bytes) (files : TrustFiles) : Prop where
  replayed : replayTrust stored files.history = some files.stored
  confirmed : ∀ call request file, .removed call request file ∈ files.history →
    request.confirms file = true

/-- The steps that keep the settings written once: no renaming onto a file that is there or of a
temporary file that another call has created, and no failure to read back a deployment that has just
been written. -/
def TrustPermits (crates : TrustCrates) (call : Nat) (_ : TrustRequest) :
    TrustOp → TrustInput → TrustFiles → Prop
  | .rename file now, input, files => input = .works → files.stored file = none ∧
    ∀ creator bytes, files.temporary file now = some (creator, bytes) → creator = call
  | .read file .checking, input, files => input = .works ∧ ∃ bytes deployment,
    files.stored file = some bytes ∧
      parseDeployment crates.deploymentV1 validateSavedDeployment bytes = .ok deployment
  | _, _, _ => True

/-! ### What an operation leaves -/

theorem temporary_setTemporary (files : TrustFiles) (file other : TrustFile) (now now' : UInt64)
    (content : Option (Nat × Bytes)) :
    (files.setTemporary file now content).temporary other now' =
      if other = file ∧ now' = now then content else files.temporary other now' := by
  unfold TrustFiles.setTemporary
  dsimp only
  by_cases hfile : other = file
  · subst hfile
    rw [Function.update_self]
    by_cases hnow : now' = now
    · subst hnow
      rw [Function.update_self, if_pos ⟨rfl, rfl⟩]
    · rw [Function.update_of_ne hnow, if_neg fun h ↦ hnow h.2]
  · rw [Function.update_of_ne hfile, if_neg fun h ↦ hfile h.1]

theorem own_setTemporary (files : TrustFiles) (file : TrustFile) (now : UInt64)
    (content : Option (Nat × Bytes)) (call : Nat) :
    (files.setTemporary file now content).own call = files.own call := rfl

theorem own_store (files : TrustFiles) (file : TrustFile) (content : Option Bytes)
    (event : TrustEvent) (call : Nat) :
    (files.store file content event).own call =
      files.own call ++ if event.call = call then [event] else [] := by
  unfold TrustFiles.store TrustFiles.own
  dsimp only
  rw [List.filter_append]
  congr 1
  by_cases h : event.call = call
  · rw [if_pos h, List.filter_cons_of_pos (by simpa using h), List.filter_nil]
  · rw [if_neg h, List.filter_cons_of_neg (by simpa using h), List.filter_nil]

/-- A temporary file is changed, but not made the other's. -/
theorem TrustRely.setTemporary {files : TrustFiles} {file : TrustFile} {now : UInt64}
    {content : Option (Nat × Bytes)} {other : Nat}
    (hcontent : ∀ bytes, content ≠ some (other, bytes)) :
    TrustRely other files (files.setTemporary file now content) := by
  refine ⟨fun file' now' bytes h ↦ ?_, own_setTemporary _ _ _ _ _, rfl⟩
  rw [temporary_setTemporary] at h
  split at h
  · exact absurd h (hcontent bytes)
  · exact h

/-- Something is done in the name of another call. -/
theorem TrustRely.store {files : TrustFiles} {file : TrustFile} {content : Option Bytes}
    {event : TrustEvent} {other : Nat} (hne : event.call ≠ other) :
    TrustRely other files (files.store file content event) := by
  refine ⟨fun _ _ _ h ↦ h, ?_, rfl⟩
  rw [own_store, if_neg hne, List.append_nil]

/-- A WASM file is read in the name of another call. -/
theorem TrustRely.inspect {files : TrustFiles} {reader other : Nat} {wasm : Option Bytes}
    (hne : other ≠ reader) : TrustRely other files (files.inspect reader wasm) :=
  ⟨fun _ _ _ h ↦ h, rfl, Function.update_of_ne hne _ _⟩

theorem TrustKept.setTemporary {stored : TrustFile → Option Bytes} {files : TrustFiles}
    (h : TrustKept stored files) (file : TrustFile) (now : UInt64)
    (content : Option (Nat × Bytes)) : TrustKept stored (files.setTemporary file now content) :=
  ⟨h.replayed, h.confirmed⟩

theorem TrustKept.inspect {stored : TrustFile → Option Bytes} {files : TrustFiles}
    (h : TrustKept stored files) (reader : Nat) (wasm : Option Bytes) :
    TrustKept stored (files.inspect reader wasm) := ⟨h.replayed, h.confirmed⟩

theorem TrustKept.wrote {stored : TrustFile → Option Bytes} {files : TrustFiles}
    (h : TrustKept stored files) (call : Nat) {file : TrustFile} (bytes : Bytes)
    (hempty : files.stored file = none) :
    TrustKept stored (files.store file (some bytes) (.wrote call file bytes)) := by
  refine ⟨?_, fun call' request file' hmem ↦ ?_⟩
  · show replayTrust stored (files.history ++ [.wrote call file bytes]) = _
    rw [replayTrust_append h.replayed]
    show (TrustEvent.apply files.stored (.wrote call file bytes)).bind some = _
    rw [TrustEvent.apply, if_pos hempty]
    rfl
  · rcases List.mem_append.mp hmem with hold | hnew
    · exact h.confirmed call' request file' hold
    · cases List.mem_singleton.mp hnew

theorem TrustKept.removed {stored : TrustFile → Option Bytes} {files : TrustFiles}
    (h : TrustKept stored files) (call : Nat) {request : TrustRequest} {file : TrustFile}
    (hconfirm : request.confirms file = true) :
    TrustKept stored (files.store file none (.removed call request file)) := by
  refine ⟨?_, fun call' request' file' hmem ↦ ?_⟩
  · show replayTrust stored (files.history ++ [.removed call request file]) = _
    rw [replayTrust_append h.replayed]
    rfl
  · rcases List.mem_append.mp hmem with hold | hnew
    · exact h.confirmed call' request' file' hold
    · cases List.mem_singleton.mp hnew
      exact hconfirm

/-! ### What a call keeps -/

section Calls

variable {crates : TrustCrates} {stored : TrustFile → Option Bytes} {call : Nat}
  {request : TrustRequest} {β : Type} {Q : β → TrustFiles → Prop}

/-- `Stays` for the calls on trust settings. -/
abbrev TrustStays (crates : TrustCrates) (stored : TrustFile → Option Bytes) (call : Nat)
    (request : TrustRequest) {β : Type} (Q : β → TrustFiles → Prop) :
    TrustProgram β → TrustFiles → Prop :=
  (trustSystem crates).Stays (TrustPermits crates) (TrustKept stored) TrustRely call request Q

/-- An operation that changes nothing, under an assertion that the others keep. -/
theorem stays_unchanged {A : TrustFiles → Prop} {op : TrustOp}
    {next : op.Response → TrustProgram β} {files : TrustFiles}
    (hsame : ∀ input files, (trustExec call request op input files).2 = files)
    (hstable : ∀ files files', TrustRely call files files' → A files → A files') (hA : A files)
    (h : ∀ response files, A files →
      TrustStays crates stored call request Q (next response) files) :
    TrustStays crates stored call request Q (.act op next) files := by
  intro files' input hrely hI _
  have hsame' : ((trustSystem crates).exec call request op input files').2 = files' :=
    hsame input files'
  rw [hsame']
  exact ⟨hI, fun other _ ↦ TrustRely.refl other files', h _ _ (hstable files files' hrely hA)⟩

/-- What a call has done is what it has done, whatever the others do. -/
theorem own_stable {events : List TrustEvent} (files files' : TrustFiles)
    (hrely : TrustRely call files files') (h : files.own call = events) :
    files'.own call = events := hrely.own.trans h

/-- The call has done nothing, and where it still has its temporary file, that holds these bytes. -/
structure HasTemporary (call : Nat) (file : TrustFile) (now : UInt64) (bytes : Bytes)
    (files : TrustFiles) : Prop where
  own : files.own call = []
  temporary : ∀ found, files.temporary file now = some (call, found) → found = bytes

theorem HasTemporary.stable {file : TrustFile} {now : UInt64} {bytes : Bytes}
    (files files' : TrustFiles) (hrely : TrustRely call files files')
    (h : HasTemporary call file now bytes files) : HasTemporary call file now bytes files' :=
  ⟨hrely.own.trans h.own, fun found hfound ↦ h.temporary found (hrely.temporary _ _ _ hfound)⟩

theorem HasTemporary.setTemporary {file : TrustFile} {now : UInt64} {files : TrustFiles}
    (h : files.own call = []) (bytes : Bytes) :
    HasTemporary call file now bytes (files.setTemporary file now (some (call, bytes))) := by
  refine ⟨h, fun found hfound ↦ ?_⟩
  rw [temporary_setTemporary, if_pos ⟨rfl, rfl⟩] at hfound
  cases hfound
  rfl

/-- The temporary file of another call is none of ours. -/
theorem ne_of_creator_ne {creator other : Nat} {found : Bytes} (hne : other ≠ creator)
    (bytes : Bytes) : some (creator, found) ≠ some (other, bytes) := by
  intro h
  cases h
  exact hne rfl

/-- A write ends with an error and nothing done, or with the bytes written. -/
def Written (call : Nat) (file : TrustFile) (bytes : Bytes) :
    GuiResult Unit → TrustFiles → Prop
  | .error _, files => files.own call = []
  | .ok (), files => files.own call = [.wrote call file bytes]

/-- The end of a write that fails. -/
theorem stays_giveUp {file : TrustFile} {now : UInt64} {bytes : Bytes} {e : GuiCoreError}
    {files : TrustFiles} (h : files.own call = []) :
    TrustStays crates stored call request (Written call file bytes)
      (.act (.removeTemporary file now) fun _ ↦ .done (.error e)) files := by
  intro files' input hrely hI _
  have hown : files'.own call = [] := hrely.own.trans h
  cases input with
  | works =>
    exact ⟨hI.setTemporary _ _ _, fun other _ ↦ .setTemporary (fun _ h ↦ by cases h), hown⟩
  | fails written => exact ⟨hI, fun other _ ↦ .refl other files', hown⟩
  | shows now => exact ⟨hI, fun other _ ↦ .refl other files', hown⟩
  | selected wasm => exact ⟨hI, fun other _ ↦ .refl other files', hown⟩

/-- The creation of a temporary file: it fails, or the name was free. -/
theorem stays_createTemporary {file : TrustFile} {now : UInt64}
    {next : Bool → TrustProgram β} {files : TrustFiles} (h : files.own call = [])
    (hfails : ∀ files, files.own call = [] →
      TrustStays crates stored call request Q (next false) files)
    (hworks : ∀ files, HasTemporary call file now [] files →
      TrustStays crates stored call request Q (next true) files) :
    TrustStays crates stored call request Q (.act (.createTemporary file now) next) files := by
  intro files' input hrely hI _
  have hown : files'.own call = [] := hrely.own.trans h
  have hno : TrustKept stored files' ∧
      (∀ other, other ≠ call → TrustRely other files' files') ∧
      TrustStays crates stored call request Q (next false) files' :=
    ⟨hI, fun other _ ↦ .refl other files', hfails files' hown⟩
  cases input with
  | works =>
    cases htemporary : files'.temporary file now with
    | some entry =>
      have hexec : (trustSystem crates).exec call request (.createTemporary file now) .works
          files' = (false, files') := by
        simp only [trustSystem, trustExec, htemporary]
        rfl
      rw [hexec]
      exact hno
    | none =>
      have hexec : (trustSystem crates).exec call request (.createTemporary file now) .works
          files' = (true, files'.setTemporary file now (some (call, []))) := by
        simp only [trustSystem, trustExec, htemporary]
        rfl
      rw [hexec]
      exact ⟨hI.setTemporary _ _ _, fun other hne ↦ .setTemporary (ne_of_creator_ne hne),
        hworks _ (.setTemporary hown [])⟩
  | fails written => exact hno
  | shows now => exact hno
  | selected wasm => exact hno

/-- A write changes nothing where the call has lost its temporary file. -/
theorem writeTemporary_cases (call : Nat) (request : TrustRequest) (file : TrustFile) (now : UInt64)
    (bytes : Bytes) (input : TrustInput) (files : TrustFiles) :
    ((trustExec call request (.writeTemporary file now bytes) input files).2 = files ∧
      ∀ found, files.temporary file now ≠ some (call, found)) ∨
    ∃ content, (trustExec call request (.writeTemporary file now bytes) input files).2 =
        files.setTemporary file now (some (call, content)) ∧
      (input = .works → content = bytes) := by
  simp only [trustExec]
  cases htemporary : files.temporary file now with
  | none => exact Or.inl ⟨rfl, fun found h ↦ by cases h⟩
  | some entry =>
  obtain ⟨creator, before⟩ := entry
  dsimp only
  by_cases hmine : creator = call
  · subst hmine
    rw [if_pos rfl]
    refine Or.inr ⟨_, rfl, ?_⟩
    rintro rfl
    rfl
  · rw [if_neg hmine]
    refine Or.inl ⟨rfl, fun found h ↦ ?_⟩
    cases h
    exact hmine rfl

/-- The write of a temporary file: all of it, or it fails. -/
theorem stays_writeTemporary {file : TrustFile} {now : UInt64} {bytes before : Bytes}
    {next : Bool → TrustProgram β} {files : TrustFiles}
    (h : HasTemporary call file now before files)
    (hfails : ∀ files, files.own call = [] →
      TrustStays crates stored call request Q (next false) files)
    (hworks : ∀ files, HasTemporary call file now bytes files →
      TrustStays crates stored call request Q (next true) files) :
    TrustStays crates stored call request Q (.act (.writeTemporary file now bytes) next) files := by
  intro files' input hrely hI _
  have h' := h.stable files files' hrely
  show TrustKept stored (trustExec call request (.writeTemporary file now bytes) input files').2 ∧
    (∀ other, other ≠ call → TrustRely other files'
      (trustExec call request (.writeTemporary file now bytes) input files').2) ∧
    TrustStays crates stored call request Q (next (decide (input = .works)))
      (trustExec call request (.writeTemporary file now bytes) input files').2
  have hstate := writeTemporary_cases call request file now bytes input files'
  generalize (trustExec call request (.writeTemporary file now bytes) input files').2 = written
    at hstate
  rcases hstate with ⟨rfl, hmine⟩ | ⟨content, rfl, hcontent⟩
  · refine ⟨hI, fun other _ ↦ .refl other written, ?_⟩
    by_cases hinput : input = .works
    · rw [decide_eq_true hinput]
      exact hworks _ ⟨h'.own, fun found hfound ↦ absurd hfound (hmine found)⟩
    · rw [decide_eq_false hinput]
      exact hfails _ h'.own
  · refine ⟨hI.setTemporary _ _ _, fun other hne ↦ .setTemporary (ne_of_creator_ne hne), ?_⟩
    by_cases hinput : input = .works
    · rw [decide_eq_true hinput, hcontent hinput]
      exact hworks _ (.setTemporary h'.own bytes)
    · rw [decide_eq_false hinput]
      exact hfails _ h'.own

/-- The renaming: it fails, or the bytes are stored where nothing was. -/
theorem stays_rename {file : TrustFile} {now : UInt64} {bytes : Bytes}
    {next : Bool → TrustProgram β} {files : TrustFiles}
    (h : HasTemporary call file now bytes files)
    (hfails : ∀ files, files.own call = [] →
      TrustStays crates stored call request Q (next false) files)
    (hworks : ∀ files, files.own call = [.wrote call file bytes] →
      TrustStays crates stored call request Q (next true) files) :
    TrustStays crates stored call request Q (.act (.rename file now) next) files := by
  intro files' input hrely hI hpermits
  obtain ⟨hown, hbytes⟩ := h.stable files files' hrely
  have hno : TrustKept stored files' ∧
      (∀ other, other ≠ call → TrustRely other files' files') ∧
      TrustStays crates stored call request Q (next false) files' :=
    ⟨hI, fun other _ ↦ .refl other files', hfails files' hown⟩
  cases input with
  | works =>
    obtain ⟨hempty, hmine⟩ := hpermits rfl
    cases htemporary : files'.temporary file now with
    | none =>
      have hexec : (trustSystem crates).exec call request (.rename file now) .works files' =
          (false, files') := by
        simp only [trustSystem, trustExec, htemporary]
        rfl
      rw [hexec]
      exact hno
    | some entry =>
      obtain ⟨creator, found⟩ := entry
      cases hmine creator found htemporary
      cases hbytes found htemporary
      have hexec : (trustSystem crates).exec call request (.rename file now) .works files' =
          (true, (files'.setTemporary file now none).store file (some bytes)
            (.wrote call file bytes)) := by
        simp only [trustSystem, trustExec, htemporary]
        rfl
      rw [hexec]
      refine ⟨(hI.setTemporary _ _ _).wrote call bytes hempty, fun other hne ↦
        (TrustRely.setTemporary fun _ h ↦ by cases h).trans (.store (Ne.symm hne)), hworks _ ?_⟩
      rw [own_store, own_setTemporary, hown]
      exact if_pos rfl
  | fails written => exact hno
  | shows now => exact hno
  | selected wasm => exact hno

/-- A temporary file is created, written, renamed or given up. -/
theorem stays_writeCreateNew (file : TrustFile) (bytes : Bytes) (failure occupied : GuiCoreError)
    {files : TrustFiles} (h : files.own call = []) :
    TrustStays crates stored call request (Written call file bytes)
      (writeCreateNew file bytes failure occupied) files := by
  refine stays_unchanged (fun input files ↦ by cases input <;> rfl) own_stable h
    fun now files h ↦ ?_
  cases now with
  | none => exact h
  | some now =>
  refine stays_createTemporary h (fun files h ↦ stays_giveUp h) fun files h ↦ ?_
  refine stays_writeTemporary h (fun files h ↦ stays_giveUp h) fun files h ↦ ?_
  refine stays_unchanged (fun _ _ ↦ rfl) HasTemporary.stable h fun synced files h ↦ ?_
  cases synced with
  | false => exact stays_giveUp h.own
  | true =>
  refine stays_unchanged (fun input _ ↦ by cases input <;> rfl) HasTemporary.stable h
    fun found files h ↦ ?_
  cases found with
  | true => exact stays_giveUp h.own
  | false =>
  refine stays_rename h (fun files h ↦ stays_giveUp h) fun files h ↦ ?_
  exact stays_unchanged (fun _ _ ↦ rfl) own_stable h fun _ files h ↦ h

/-! ### What a call has inspected -/

/-- Only the reading of a WASM file changes what is known of it. -/
theorem inspected_trustExec {op : TrustOp} (hop : op ≠ .readWasm) (input : TrustInput)
    (files : TrustFiles) :
    (trustExec call request op input files).2.inspected = files.inspected := by
  cases op with
  | readWasm => exact absurd rfl hop
  | writeTemporary file now bytes =>
    rcases writeTemporary_cases call request file now bytes input files with
      ⟨hsame, -⟩ | ⟨content, hwritten, -⟩
    · rw [hsame]
    · rw [hwritten]
      rfl
  | remove file =>
    cases input <;> try rfl
    unfold trustExec
    dsimp only
    split <;> rfl
  | createTemporary file now =>
    cases input <;> try rfl
    unfold trustExec
    dsimp only
    split <;> rfl
  | rename file now =>
    cases input <;> try rfl
    unfold trustExec
    dsimp only
    split <;> rfl
  | clock | pathExists | read | createDirectory | syncTemporary | syncDirectory | removeTemporary =>
    cases input <;> rfl

/-- A part of a call that reads no WASM file keeps what the call has read of one. -/
theorem stays_inspected {wasm : Option Bytes} {p : TrustProgram β} {files : TrustFiles}
    (h : TrustStays crates stored call request Q p files)
    (hissues : p.Issues fun op ↦ op ≠ .readWasm) (hinspected : files.inspected call = wasm) :
    TrustStays crates stored call request
      (fun b files ↦ Q b files ∧ files.inspected call = wasm) p files := by
  induction p generalizing files with
  | done b => exact ⟨h, hinspected⟩
  | act op next ih =>
    intro files' input hrely hI hpermits
    obtain ⟨hkept, hothers, hrest⟩ := h files' input hrely hI hpermits
    refine ⟨hkept, hothers, ih _ hrest (hissues.2 _) ?_⟩
    have hsame : ((trustSystem crates).exec call request op input files').2.inspected =
        files'.inspected := inspected_trustExec hissues.1 input files'
    rw [hsame]
    exact hrely.inspected.trans hinspected

/-- The reading of the WASM file. -/
theorem stays_readWasm {next : Option Bytes → TrustProgram β} {files : TrustFiles}
    (h : files.own call = [])
    (hread : ∀ wasm files, files.own call = [] ∧ files.inspected call = wasm →
      TrustStays crates stored call request Q (next wasm) files) :
    TrustStays crates stored call request Q (.act .readWasm next) files := by
  intro files' input hrely hI _
  have hown : files'.own call = [] := hrely.own.trans h
  have hinspect : ∀ wasm, TrustKept stored (files'.inspect call wasm) ∧
      (∀ other, other ≠ call → TrustRely other files' (files'.inspect call wasm)) ∧
      TrustStays crates stored call request Q (next wasm) (files'.inspect call wasm) :=
    fun wasm ↦ ⟨hI.inspect call wasm, fun other hne ↦ .inspect hne,
      hread wasm _ ⟨hown, Function.update_self _ _ _⟩⟩
  cases input with
  | selected wasm => exact hinspect wasm
  | works => exact hinspect none
  | fails written => exact hinspect none
  | shows now => exact hinspect none

theorem issues_writeCreateNew (file : TrustFile) (bytes : Bytes) (failure occupied : GuiCoreError) :
    (writeCreateNew file bytes failure occupied).Issues fun op ↦ op ≠ .readWasm := by
  have hgiveUp : ∀ (now : UInt64) (e : GuiCoreError),
      Program.Issues (fun op ↦ op ≠ TrustOp.readWasm)
        (.act (.removeTemporary file now) fun _ ↦ .done (.error e) :
          TrustProgram (GuiResult Unit)) :=
    fun now e ↦ ⟨TrustOp.noConfusion, fun _ ↦ trivial⟩
  refine ⟨TrustOp.noConfusion, fun now ↦ ?_⟩
  cases now with
  | none => trivial
  | some now =>
  refine ⟨TrustOp.noConfusion, fun created ↦ ?_⟩
  cases created with
  | false => exact hgiveUp now failure
  | true =>
  refine ⟨TrustOp.noConfusion, fun written ↦ ?_⟩
  cases written with
  | false => exact hgiveUp now failure
  | true =>
  refine ⟨TrustOp.noConfusion, fun synced ↦ ?_⟩
  cases synced with
  | false => exact hgiveUp now failure
  | true =>
  refine ⟨TrustOp.noConfusion, fun found ↦ ?_⟩
  cases found with
  | true => exact hgiveUp now occupied
  | false =>
  refine ⟨TrustOp.noConfusion, fun renamed ↦ ?_⟩
  cases renamed with
  | false => exact hgiveUp now failure
  | true => exact ⟨TrustOp.noConfusion, fun _ ↦ trivial⟩

theorem issues_loadTrustedOotleDeploymentV1 (reading : TrustReading) :
    (loadTrustedOotleDeploymentV1 crates reading).Issues fun op ↦ op ≠ .readWasm := by
  refine ⟨TrustOp.noConfusion, fun found ↦ ?_⟩
  cases found with
  | false => trivial
  | true =>
  refine ⟨TrustOp.noConfusion, fun read ↦ ?_⟩
  cases read with
  | none => trivial
  | some bytes => trivial

/-! ### What a call returns -/

/-- What is stored for a request, at some time of the clock, by a call that has read this of its
WASM file. -/
def TrustRequest.Writes (crates : TrustCrates) (inspected : Option Bytes) :
    TrustRequest → TrustFile → Bytes → Prop
  | .configure request, .root, bytes => ∃ now config, configFromRequest request now = .ok config ∧
    bytes = crates.root.toVecPretty config
  | .lockV1 request, .deploymentV1, bytes => ∃ digestHex now deployment,
    inspectTemplateWasm crates.provider inspected = .ok digestHex ∧
    deploymentFromRequest request digestHex now = .ok deployment ∧
    bytes = crates.deploymentV1.toVecPretty deployment
  | .lockV2 request, .deploymentV2, bytes => ∃ digest now deployment,
    parseLowerDigestHex request.templateArtifactDigestHex = .ok digest ∧
    deploymentFromRequestV2 request digest now = .ok deployment ∧
    bytes = crates.deploymentV2.toVecPretty deployment
  | _, _, _ => False

/-- Whether a request is to forget or to unlock. -/
def TrustRequest.isRemoval : TrustRequest → Bool
  | .forget _ | .unlockV1 _ | .unlockV2 _ => true
  | .configure _ | .lockV1 _ | .lockV2 _ => false

/-- A call that fails has done nothing; one that succeeds has removed, or stored what was asked
for. -/
def TrustOutcome (crates : TrustCrates) (call : Nat) (request : TrustRequest) :
    GuiResult TrustAnswer → TrustFiles → Prop
  | .error _, files => files.own call = []
  | .ok _, files =>
    if request.isRemoval then
      files.own call = [] ∨ ∃ file, files.own call = [.removed call request file]
    else ∃ file bytes, request.Writes crates (files.inspected call) file bytes ∧
      files.own call = [.wrote call file bytes]

/-- Looking at the root changes nothing. -/
theorem stays_loadConfig {events : List TrustEvent} {files : TrustFiles}
    (h : files.own call = events) :
    TrustStays crates stored call request (fun _ files ↦ files.own call = events)
      (loadConfig crates) files := by
  refine stays_unchanged (fun input _ ↦ by cases input <;> rfl) own_stable h fun found files h ↦ ?_
  cases found with
  | false => exact h
  | true =>
  refine stays_unchanged (fun input _ ↦ by cases input <;> rfl) own_stable h fun read files h ↦ ?_
  cases read with
  | none => exact h
  | some bytes => exact h

/-- The answer at the end of a call that has done this. -/
theorem stays_answerReadiness {events : List TrustEvent} {files : TrustFiles}
    (h : files.own call = events)
    (hevents : ∀ answer files, files.own call = events →
      TrustOutcome crates call request (.ok answer) files) :
    TrustStays crates stored call request (TrustOutcome crates call request)
      (answerReadiness crates) files :=
  .bind (.bind ((stays_loadConfig h).mono fun loaded files h ↦
    hevents (.readiness (readinessOf crates false loaded)) files h))

/-- A lock that finds a deployment does nothing. -/
theorem stays_refuseLocked {γ : Type} {file : TrustFile} {json : JsonOf GuiTrustedOotleDeployment}
    {validate : GuiTrustedOotleDeployment → GuiResult γ} {failure : GuiCoreError}
    {files : TrustFiles} (h : files.own call = []) :
    TrustStays crates stored call request (TrustOutcome crates call request)
      (refuseLocked (loadTrustedOotleDeployment file .looking json validate failure)) files := by
  refine .bind ?_
  refine stays_unchanged (fun input _ ↦ by cases input <;> rfl) own_stable h fun found files h ↦ ?_
  cases found with
  | false => exact h
  | true =>
  refine stays_unchanged (fun input _ ↦ by cases input <;> rfl) own_stable h fun read files h ↦ ?_
  cases read with
  | none => exact h
  | some bytes =>
    dsimp only [CallSystem.Stays]
    cases (parseDeployment json validate bytes).map some with
    | error e => exact h
    | ok status => exact h

/-- What was just written is read back, or somebody has removed it. -/
theorem stays_loadChecking {file : TrustFile} {bytes : Bytes} {files : TrustFiles}
    (h : files.own call = [.wrote call file bytes]) :
    TrustStays crates stored call request
      (fun result files ↦ (∃ status, result = .ok status) ∧
        files.own call = [.wrote call file bytes])
      (loadTrustedOotleDeploymentV1 crates .checking) files := by
  refine stays_unchanged (fun input _ ↦ by cases input <;> rfl) own_stable h fun found files h ↦ ?_
  cases found with
  | false => exact ⟨⟨none, rfl⟩, h⟩
  | true =>
  intro files' input hrely hI hpermits
  obtain ⟨rfl, bytes, deployment, hstored, hparse⟩ := hpermits
  have hexec : (trustSystem crates).exec call request (.read .deploymentV1 .checking) .works
      files' = (some bytes, files') := Prod.ext hstored rfl
  rw [hexec]
  refine ⟨hI, fun other _ ↦ .refl other files', ⟨some deployment, ?_⟩, hrely.own.trans h⟩
  show (parseDeployment crates.deploymentV1 validateSavedDeployment bytes).map some = _
  rw [hparse]
  rfl

theorem stays_configure {r : ProductionTransportAuthorityConfigureRequestV1} {files : TrustFiles}
    (h : files.own call = []) :
    TrustStays crates stored call (.configure r) (TrustOutcome crates call (.configure r))
      (configureProductionTransportAuthorityRootV1 crates r) files := by
  refine stays_unchanged (fun input _ ↦ by cases input <;> rfl) own_stable h fun found files h ↦ ?_
  cases found with
  | true => exact h
  | false =>
  dsimp only
  split
  · exact h
  refine stays_unchanged (fun input _ ↦ by cases input <;> rfl) own_stable h fun shown files h ↦ ?_
  cases shown with
  | none => exact h
  | some now =>
  dsimp only
  split
  · exact h
  next config hconfig =>
  refine stays_unchanged (fun _ _ ↦ rfl) own_stable h fun created files h ↦ ?_
  cases created with
  | false => exact h
  | true =>
  have hchecked : configFromRequest r now = .ok config := by
    obtain ⟨found, hfound, hmap⟩ := bind_eq_ok.mp hconfig
    cases hroot : configuredRoot crates.ed found (some found.network) with
    | error e =>
      rw [hroot] at hmap
      cases hmap
    | ok root =>
      rw [hroot] at hmap
      cases hmap
      exact hfound
  refine .bind ((stays_writeCreateNew _ _ _ _ h).mono fun result files h ↦ ?_)
  cases result with
  | error e => exact h
  | ok u =>
  refine stays_answerReadiness h fun answer files h ↦ ?_
  exact ⟨.root, _, ⟨now, config, hchecked, rfl⟩, h⟩

theorem stays_lockV1 {r : GuiTrustedOotleDeploymentLockRequestV1} {files : TrustFiles}
    (h : files.own call = []) :
    TrustStays crates stored call (.lockV1 r) (TrustOutcome crates call (.lockV1 r))
      (lockTrustedOotleDeploymentV1 crates r) files := by
  refine stays_unchanged (fun input _ ↦ by cases input <;> rfl) own_stable h fun found files h ↦ ?_
  cases found with
  | true => exact stays_refuseLocked h
  | false =>
  refine stays_readWasm h fun wasm files h ↦ ?_
  have hstable : ∀ files files', TrustRely call files files' →
      files.own call = [] ∧ files.inspected call = wasm →
      files'.own call = [] ∧ files'.inspected call = wasm :=
    fun _ _ hrely h ↦ ⟨hrely.own.trans h.1, hrely.inspected.trans h.2⟩
  split
  · exact h.1
  next digestHex hdigest =>
  refine stays_unchanged (fun input _ ↦ by cases input <;> rfl) hstable h fun shown files h ↦ ?_
  cases shown with
  | none => exact h.1
  | some now =>
  dsimp only
  split
  · exact h.1
  next deployment hdeployment =>
  refine stays_unchanged (fun _ _ ↦ rfl) hstable h fun created files h ↦ ?_
  cases created with
  | false => exact h.1
  | true =>
  -- what was inspected is kept through the write and the read-back
  refine .bind ((stays_inspected (stays_writeCreateNew _ _ _ _ h.1)
    (issues_writeCreateNew _ _ _ _) h.2).mono fun result files h ↦ ?_)
  cases result with
  | error e => exact h.1
  | ok u =>
  refine .bind ((stays_inspected (stays_loadChecking h.1)
    (issues_loadTrustedOotleDeploymentV1 _) h.2).mono fun result files h ↦ ?_)
  obtain ⟨⟨⟨status, rfl⟩, hown⟩, hinspected⟩ := h
  refine ⟨.deploymentV1, _, ⟨digestHex, now, deployment, ?_, hdeployment, rfl⟩, hown⟩
  rw [hinspected]
  exact hdigest

theorem stays_lockV2 {r : GuiTrustedOotleDeploymentLockRequestV2} {files : TrustFiles}
    (h : files.own call = []) :
    TrustStays crates stored call (.lockV2 r) (TrustOutcome crates call (.lockV2 r))
      (lockTrustedOotleDeploymentV2 crates r) files := by
  refine stays_unchanged (fun input _ ↦ by cases input <;> rfl) own_stable h fun found files h ↦ ?_
  cases found with
  | true => exact stays_refuseLocked h
  | false =>
  dsimp only
  split
  · exact h
  next digest hdigest =>
  split
  · exact h
  refine stays_unchanged (fun input _ ↦ by cases input <;> rfl) own_stable h fun shown files h ↦ ?_
  cases shown with
  | none => exact h
  | some now =>
  dsimp only
  split
  · exact h
  next deployment hdeployment =>
  refine stays_unchanged (fun _ _ ↦ rfl) own_stable h fun created files h ↦ ?_
  cases created with
  | false => exact h
  | true =>
  refine .bind ((stays_writeCreateNew _ _ _ _ h).mono fun result files h ↦ ?_)
  cases result with
  | error e => exact h
  | ok u => exact ⟨.deploymentV2, _, ⟨digest, now, deployment, hdigest, hdeployment, rfl⟩, h⟩

/-- A removal that was confirmed, whatever is answered then. -/
theorem stays_confirmedRemoval {file : TrustFile} {confirm : Bool}
    {unconfirmed failure : GuiCoreError} {answer : TrustProgram (GuiResult TrustAnswer)}
    {files : TrustFiles} (h : files.own call = []) (hremoval : request.isRemoval = true)
    (hconfirms : request.confirms file = confirm)
    (hanswer : ∀ events files, files.own call = events →
      (∀ answer files, files.own call = events →
        TrustOutcome crates call request (.ok answer) files) →
      TrustStays crates stored call request (TrustOutcome crates call request) answer files) :
    TrustStays crates stored call request (TrustOutcome crates call request)
      (confirmedRemoval file confirm unconfirmed failure answer) files := by
  have houtcome : ∀ {events : List TrustEvent},
      (events = [] ∨ ∃ file, events = [.removed call request file]) → ∀ answer files,
      files.own call = events → TrustOutcome crates call request (.ok answer) files := by
    rintro events hevents answer files rfl
    show if request.isRemoval then _ else _
    rw [if_pos hremoval]
    exact hevents
  cases confirm with
  | false => exact h
  | true =>
  intro files' input hrely hI _
  have hown : files'.own call = [] := hrely.own.trans h
  have hfailed : TrustKept stored files' ∧
      (∀ other, other ≠ call → TrustRely other files' files') ∧ files'.own call = [] :=
    ⟨hI, fun other _ ↦ .refl other files', hown⟩
  cases input with
  | works =>
    cases hstored : files'.stored file with
    | none =>
      have hexec : (trustSystem crates).exec call request (.remove file) .works files' =
          (.notFound, files') := by
        simp only [trustSystem, trustExec, hstored]
      rw [hexec]
      exact ⟨hI, fun other _ ↦ .refl other files', hanswer [] files' hown (houtcome (Or.inl rfl))⟩
    | some bytes =>
      have hexec : (trustSystem crates).exec call request (.remove file) .works files' =
          (.removed, files'.store file none (.removed call request file)) := by
        simp only [trustSystem, trustExec, hstored]
      rw [hexec]
      refine ⟨hI.removed call hconfirms, fun other hne ↦ .store (Ne.symm hne),
        hanswer [.removed call request file] _ ?_ (houtcome (Or.inr ⟨file, rfl⟩))⟩
      rw [own_store, hown]
      exact if_pos rfl
  | fails written => exact hfailed
  | shows now => exact hfailed
  | selected wasm => exact hfailed

/-- Every call, from the start. -/
theorem stays_program {files : TrustFiles} (h : files.own call = []) :
    TrustStays crates stored call request (TrustOutcome crates call request)
      ((trustSystem crates).program request) files := by
  cases request with
  | configure r => exact stays_configure h
  | forget confirm =>
    exact stays_confirmedRemoval h rfl rfl fun events files h hevents ↦
      stays_answerReadiness h hevents
  | lockV1 r => exact stays_lockV1 h
  | unlockV1 confirm =>
    exact stays_confirmedRemoval h rfl rfl fun events files h hevents ↦ hevents _ files h
  | lockV2 r => exact stays_lockV2 h
  | unlockV2 confirm =>
    exact stays_confirmedRemoval h rfl rfl fun events files h hevents ↦ hevents _ files h

end Calls

/-! ### Whole runs -/

/-- The stored files are written once: what happened to them, and what the calls on them have
returned. -/
structure WrittenOnce (crates : TrustCrates) (stored : TrustFile → Option Bytes)
    (board : CallBoard TrustOp.Response (GuiResult TrustAnswer) TrustRequest TrustFiles) :
    Prop where
  /-- A file is removed after a confirmation. -/
  confirmed : ∀ call request file, .removed call request file ∈ board.state.history →
    request.confirms file = true
  /-- A file that is there stays as it is until it is removed. -/
  kept : ∀ file bytes, stored file = some bytes →
    (∀ call request, .removed call request file ∉ board.state.history) →
    board.state.stored file = some bytes ∧
      ∀ call bytes, .wrote call file bytes ∉ board.state.history
  /-- A file that was written holds what was written until it is removed. -/
  holds : ∀ before after call file bytes,
    board.state.history = before ++ TrustEvent.wrote call file bytes :: after →
    (∀ call request, .removed call request file ∉ after) → board.state.stored file = some bytes
  /-- A file is written once between two removals. -/
  once : ∀ before between after call call' file bytes bytes',
    board.state.history =
      before ++ TrustEvent.wrote call file bytes ::
        (between ++ TrustEvent.wrote call' file bytes' :: after) →
    ∃ remover request, .removed remover request file ∈ between
  /-- A call that has returned an error has done nothing. -/
  failed : ∀ call request e, board.calls[call]? = some (request, .done (.error e)) →
    board.state.own call = []
  /-- A call to store that has returned no error has written once, and what it was asked for. -/
  succeeded : ∀ call request answer, board.calls[call]? = some (request, .done (.ok answer)) →
    request.isRemoval = false →
    ∃ file bytes, request.Writes crates (board.state.inspected call) file bytes ∧
      board.state.own call = [.wrote call file bytes]

/-- An outcome is about what the call itself has done. -/
theorem TrustOutcome.stable {crates : TrustCrates} {call : Nat} {request : TrustRequest}
    {result : GuiResult TrustAnswer} {files files' : TrustFiles}
    (h : TrustOutcome crates call request result files) (hrely : TrustRely call files files') :
    TrustOutcome crates call request result files' := by
  cases result with
  | error e => exact hrely.own.trans h
  | ok answer =>
    unfold TrustOutcome at h ⊢
    dsimp only
    rw [hrely.own, hrely.inspected]
    exact h

/-- What the history of the stored files says. -/
theorem TrustKept.once {stored : TrustFile → Option Bytes} {files : TrustFiles}
    (h : TrustKept stored files) {before between after : List TrustEvent} {call call' : Nat}
    {file : TrustFile} {bytes bytes' : Bytes}
    (hhistory : files.history =
      before ++ TrustEvent.wrote call file bytes ::
        (between ++ TrustEvent.wrote call' file bytes' :: after)) :
    ∃ remover request, .removed remover request file ∈ between := by
  by_contra hnone
  have hreplayed : replayTrust stored
      (before ++ TrustEvent.wrote call file bytes :: between ++
        TrustEvent.wrote call' file bytes' :: after) =
        some files.stored := by
    rw [List.append_assoc, List.cons_append, ← hhistory]
    exact h.replayed
  obtain ⟨middle, hmiddle, hrest⟩ := exists_replayTrust_of_append hreplayed
  have hset : middle file = some bytes :=
    (replayTrust_of_wrote hmiddle fun remover request hmem ↦
      hnone ⟨remover, request, hmem⟩).1
  -- the second write finds the register set
  obtain ⟨next, hnext, -⟩ := Option.bind_eq_some_iff.mp hrest
  obtain ⟨hempty, -⟩ := Option.ite_none_right_eq_some.mp hnext
  rw [hset] at hempty
  cases hempty

/-- **The settings are written once.** In every run of permitted operations, from every state of the
files. -/
theorem writtenOnce_of_run {crates : TrustCrates} {stored : TrustFile → Option Bytes}
    {temporary : TrustFile → UInt64 → Option (Nat × Bytes)}
    {board : CallBoard TrustOp.Response (GuiResult TrustAnswer) TrustRequest TrustFiles}
    (run : (trustSystem crates).Run (TrustPermits crates)
      ⟨stored, temporary, [], fun _ ↦ none⟩ board) : WrittenOnce crates stored board := by
  obtain ⟨hkept, hreturned⟩ := run.stays TrustRely.refl (fun _ _ _ _ ↦ TrustRely.trans)
    (I := TrustKept stored) (Q := TrustOutcome crates) ⟨rfl, fun _ _ _ h ↦ by cases h⟩
    (fun call request files _ hrely ↦ stays_program hrely.own)
  have houtcome : ∀ call request result, board.calls[call]? = some (request, .done result) →
      TrustOutcome crates call request result board.state := by
    intro call request result hcall
    obtain ⟨files, hrely, hresult⟩ := hreturned call request result hcall
    exact hresult.stable hrely
  exact {
    confirmed := hkept.confirmed
    kept := fun file bytes hset hnone ↦ replayTrust_of_not_removed hkept.replayed hset hnone
    holds := by
      intro before after call file bytes hhistory hnone
      exact (replayTrust_of_wrote (hhistory ▸ hkept.replayed) hnone).1
    once := fun _ _ _ _ _ _ _ _ hhistory ↦ hkept.once hhistory
    failed := fun call request e hcall ↦ houtcome call request (.error e) hcall
    succeeded := by
      intro call request answer hcall hstores
      have h := houtcome call request (.ok answer) hcall
      unfold TrustOutcome at h
      dsimp only at h
      rw [if_neg (by rw [hstores]; exact Bool.false_ne_true)] at h
      exact h }

end PrivateBallot.GuiCore
