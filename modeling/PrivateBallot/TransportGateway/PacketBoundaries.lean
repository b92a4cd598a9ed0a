import PrivateBallot.TransportGateway.CollectorHttp

/-!
# Requests in packets

Library `TransportGateway`. `crates/transport-gateway/src/collector.rs:530-681` and
`crates/transport-network/src/tor.rs:691`: which requests reach the handler, and what the cuts of a
stream into reads can change about it.
-/

namespace PrivateBallot.TransportGateway

open PrivateBallot.Base PrivateBallot.TransportNetwork

/-! ### Well-formed heads -/

/-- A field of a head: its name in lower case, and its value. -/
abbrev HeaderField := Bytes × Bytes

/-- The fields with a name. -/
def fieldsNamed (name : Bytes) (fields : List HeaderField) : List HeaderField :=
  fields.filter fun field ↦ field.1 = name

/-- The head of a post of so many bytes: the path is the fixed one, every line is a field, exactly
one field is a length, none is a transfer encoding, and the last type is the fixed one. -/
structure IsPostHead (header : Bytes) (length : Nat) (version : Bytes) (lines : List Bytes)
    (fields : List HeaderField) : Prop where
  text : (Text.ofBytes? header).isSome
  splitLines : Ascii.splitLines header = List.intercalate [0x20]
    [(Text.lit "POST").toBytes, opaqueEnvelopeHttpPathV1, version] :: lines
  version : version = (Text.lit "HTTP/1.1").toBytes ∨ version = (Text.lit "HTTP/1.0").toBytes
  parsed : List.Forall₂ (fun line field ↦ parseStrictHeaderLineV1 line = .ok field) lines fields
  contentLength : ∃ field, fieldsNamed (Text.lit "content-length").toBytes fields = [field] ∧
    parseStrictContentLengthV1 field.2 = .ok length
  transferEncoding : ∀ field ∈ fields, field.1 ≠ (Text.lit "transfer-encoding").toBytes
  contentType : ∃ field, (fieldsNamed (Text.lit "content-type").toBytes fields).getLast? =
    some field ∧ field.2.map Ascii.toLower = opaqueEnvelopeHttpContentTypeV1.map Ascii.toLower

/-- A well-formed head of a post of so many bytes. -/
def PostHead (header : Bytes) (length : Nat) : Prop :=
  ∃ version lines fields, IsPostHead header length version lines fields

/-! ### What the fields of a request say -/

/-- One field of a request, given what the fields ahead of it say. -/
def readRequestField (headers : RequestHeaders) (field : HeaderField) :
    Except CollectorRejectionV1 RequestHeaders :=
  if field.1 = (Text.lit "content-length").toBytes then
    if headers.contentLength.isSome then .error .badRequest
    else match parseStrictContentLengthV1 field.2 with
      | .error _ => .error .badRequest
      | .ok length => .ok { headers with contentLength := some length }
  else if field.1 = (Text.lit "transfer-encoding").toBytes then
    .ok { headers with transferEncodingPresent := true }
  else if field.1 = (Text.lit "content-type").toBytes then
    .ok { headers with contentType := some field.2 }
  else .ok headers

theorem readRequestHeader_eq_ok_iff {headers next : RequestHeaders} {line : Bytes} :
    readRequestHeader headers line = .ok next ↔
      ∃ field, parseStrictHeaderLineV1 line = .ok field ∧
        readRequestField headers field = .ok next := by
  unfold readRequestHeader
  cases parseStrictHeaderLineV1 line with
  | error e => exact iff_of_false nofun fun ⟨_, h, _⟩ ↦ nomatch h
  | ok field =>
    constructor
    · exact fun h ↦ ⟨field, rfl, h⟩
    · rintro ⟨_, h, hread⟩
      cases h
      exact hread

/-- The lines are read field by field. -/
theorem foldlM_readRequestHeader_eq_ok_iff {headers out : RequestHeaders} {lines : List Bytes} :
    lines.foldlM readRequestHeader headers = .ok out ↔ ∃ fields,
      List.Forall₂ (fun line field ↦ parseStrictHeaderLineV1 line = .ok field) lines fields ∧
        fields.foldlM readRequestField headers = .ok out := by
  induction lines generalizing headers with
  | nil =>
    simp only [List.forall₂_nil_left_iff, exists_eq_left, List.foldlM_nil]
  | cons line lines ih =>
    rw [List.foldlM_cons, Protocol.bind_eq_ok]
    constructor
    · rintro ⟨next, hline, hlines⟩
      obtain ⟨field, hfield, hread⟩ := readRequestHeader_eq_ok_iff.mp hline
      obtain ⟨fields, hfields, hfold⟩ := ih.mp hlines
      refine ⟨field :: fields, .cons hfield hfields, ?_⟩
      rw [List.foldlM_cons]
      exact Protocol.bind_eq_ok.mpr ⟨next, hread, hfold⟩
    · rintro ⟨_, hall, hfold⟩
      cases hall with
      | cons hfield hfields =>
        rw [List.foldlM_cons] at hfold
        obtain ⟨next, hread, hfold⟩ := Protocol.bind_eq_ok.mp hfold
        exact ⟨next, readRequestHeader_eq_ok_iff.mpr ⟨_, hfield, hread⟩, ih.mpr ⟨_, hfields, hfold⟩⟩

/-- The three names that are looked at differ. -/
theorem names_ne : (Text.lit "transfer-encoding").toBytes ≠ (Text.lit "content-length").toBytes ∧
    (Text.lit "content-type").toBytes ≠ (Text.lit "content-length").toBytes ∧
    (Text.lit "content-type").toBytes ≠ (Text.lit "transfer-encoding").toBytes := by
  decide

/-- What some fields say, given what the fields ahead of them say: the lengths are those of the
length fields, and there is at most one in all. -/
structure ReadsAs (headers : RequestHeaders) (fields : List HeaderField) (lengths : List Nat)
    (out : RequestHeaders) : Prop where
  values : List.Forall₂ (fun field length ↦ parseStrictContentLengthV1 field.2 = .ok length)
    (fieldsNamed (Text.lit "content-length").toBytes fields) lengths
  single : (headers.contentLength.toList ++ lengths).length ≤ 1
  contentLength : out.contentLength = (headers.contentLength.toList ++ lengths).head?
  contentType : out.contentType = ((fieldsNamed (Text.lit "content-type").toBytes
    fields).getLast?.map Prod.snd).or headers.contentType
  transferEncoding : out.transferEncodingPresent = true ↔ headers.transferEncodingPresent = true ∨
    ∃ field ∈ fields, field.1 = (Text.lit "transfer-encoding").toBytes

section ReadsAs

variable {headers next out : RequestHeaders} {field : HeaderField} {fields : List HeaderField}
  {lengths : List Nat}

private theorem fieldsNamed_cons_of_eq {name : Bytes} (h : field.1 = name) :
    fieldsNamed name (field :: fields) = field :: fieldsNamed name fields :=
  List.filter_cons_of_pos (decide_eq_true h)

private theorem fieldsNamed_cons_of_ne {name : Bytes} (h : field.1 ≠ name) :
    fieldsNamed name (field :: fields) = fieldsNamed name fields :=
  List.filter_cons_of_neg (by rw [decide_eq_true_eq]; exact h)

private theorem exists_cons_iff {P : HeaderField → Prop} (h : ¬ P field) :
    (∃ other ∈ field :: fields, P other) ↔ ∃ other ∈ fields, P other := by
  simp only [List.mem_cons, exists_eq_or_imp]
  exact or_iff_right h

/-- A field that is refused is no part of what is read. -/
private theorem not_readsAs_of_error {e : CollectorRejectionV1}
    (h : readRequestField headers field = .error e) :
    ¬ ReadsAs headers (field :: fields) lengths out := by
  rintro ⟨hlengths, hsingle, -, -, -⟩
  unfold readRequestField at h
  by_cases hname : field.1 = (Text.lit "content-length").toBytes
  · rw [if_pos hname] at h
    rw [fieldsNamed_cons_of_eq hname] at hlengths
    cases hlengths with
    | cons hparse hrest =>
      split at h
      · next hsome =>
        obtain ⟨n, hn⟩ := Option.isSome_iff_exists.mp hsome
        rw [hn, Option.toList_some] at hsingle
        exact absurd hsingle (by simp)
      · rw [hparse] at h
        cases h
  · rw [if_neg hname] at h
    split at h
    · cases h
    · split at h
      · cases h
      · cases h

/-- A field that is taken says its part of what is read. -/
private theorem exists_readsAs_cons_iff (h : readRequestField headers field = .ok next) :
    (∃ lengths, ReadsAs headers (field :: fields) lengths out) ↔
      ∃ lengths, ReadsAs next fields lengths out := by
  obtain ⟨hencodingLength, htypeLength, htypeEncoding⟩ := names_ne
  unfold readRequestField at h
  by_cases hlength : field.1 = (Text.lit "content-length").toBytes
  · have hencoding : field.1 ≠ (Text.lit "transfer-encoding").toBytes :=
      fun he ↦ hencodingLength (he.symm.trans hlength)
    have htype : field.1 ≠ (Text.lit "content-type").toBytes :=
      fun ht ↦ htypeLength (ht.symm.trans hlength)
    rw [if_pos hlength] at h
    split at h
    · cases h
    next hnone =>
    rw [Option.not_isSome_iff_eq_none] at hnone
    cases hparse : parseStrictContentLengthV1 field.2 with
    | error e =>
      rw [hparse] at h
      cases h
    | ok n =>
      rw [hparse] at h
      cases h
      constructor
      · rintro ⟨lengths, hlengths, hsingle, hcontent, hct, hte⟩
        rw [fieldsNamed_cons_of_eq hlength] at hlengths
        rw [fieldsNamed_cons_of_ne htype] at hct
        rw [exists_cons_iff hencoding] at hte
        cases hlengths with
        | cons hhead hrest =>
          rw [hparse] at hhead
          cases hhead
          rw [hnone] at hsingle hcontent
          exact ⟨_, hrest, hsingle, hcontent, hct, hte⟩
      · rintro ⟨lengths, hlengths, hsingle, hcontent, hct, hte⟩
        refine ⟨n :: lengths, ?_, ?_, ?_, ?_, ?_⟩
        · rw [fieldsNamed_cons_of_eq hlength]
          exact .cons hparse hlengths
        · rw [hnone]
          exact hsingle
        · rw [hnone]
          exact hcontent
        · rw [fieldsNamed_cons_of_ne htype]
          exact hct
        · rw [exists_cons_iff hencoding]
          exact hte
  · rw [if_neg hlength] at h
    by_cases hencoding : field.1 = (Text.lit "transfer-encoding").toBytes
    · have htype : field.1 ≠ (Text.lit "content-type").toBytes :=
        fun ht ↦ htypeEncoding (ht.symm.trans hencoding)
      rw [if_pos hencoding] at h
      cases h
      have hpresent : (headers.transferEncodingPresent = true ∨ ∃ other ∈ field :: fields,
          other.1 = (Text.lit "transfer-encoding").toBytes) ↔ (true = true ∨
            ∃ other ∈ fields, other.1 = (Text.lit "transfer-encoding").toBytes) :=
        iff_of_true (Or.inr ⟨field, List.mem_cons_self, hencoding⟩) (Or.inl rfl)
      refine exists_congr fun lengths ↦ ?_
      constructor
      · rintro ⟨hlengths, hsingle, hcontent, hct, hte⟩
        rw [fieldsNamed_cons_of_ne hlength] at hlengths
        rw [fieldsNamed_cons_of_ne htype] at hct
        exact ⟨hlengths, hsingle, hcontent, hct, hte.trans hpresent⟩
      · rintro ⟨hlengths, hsingle, hcontent, hct, hte⟩
        rw [← fieldsNamed_cons_of_ne hlength] at hlengths
        rw [← fieldsNamed_cons_of_ne htype] at hct
        exact ⟨hlengths, hsingle, hcontent, hct, hte.trans hpresent.symm⟩
    · rw [if_neg hencoding] at h
      have hpresent : (∃ other ∈ field :: fields,
          other.1 = (Text.lit "transfer-encoding").toBytes) ↔
          ∃ other ∈ fields, other.1 = (Text.lit "transfer-encoding").toBytes :=
        exists_cons_iff hencoding
      by_cases htype : field.1 = (Text.lit "content-type").toBytes
      · rw [if_pos htype] at h
        cases h
        have hlast : ((fieldsNamed (Text.lit "content-type").toBytes
            (field :: fields)).getLast?.map Prod.snd).or headers.contentType =
            ((fieldsNamed (Text.lit "content-type").toBytes fields).getLast?.map Prod.snd).or
              (some field.2) := by
          rw [fieldsNamed_cons_of_eq htype, List.getLast?_cons]
          cases (fieldsNamed (Text.lit "content-type").toBytes fields).getLast? with
          | none => rfl
          | some last => rfl
        refine exists_congr fun lengths ↦ ?_
        constructor
        · rintro ⟨hlengths, hsingle, hcontent, hct, hte⟩
          rw [fieldsNamed_cons_of_ne hlength] at hlengths
          rw [hpresent] at hte
          exact ⟨hlengths, hsingle, hcontent, hct.trans hlast, hte⟩
        · rintro ⟨hlengths, hsingle, hcontent, hct, hte⟩
          rw [← fieldsNamed_cons_of_ne hlength] at hlengths
          rw [← hpresent] at hte
          exact ⟨hlengths, hsingle, hcontent, hct.trans hlast.symm, hte⟩
      · rw [if_neg htype] at h
        cases h
        refine exists_congr fun lengths ↦ ?_
        constructor
        · rintro ⟨hlengths, hsingle, hcontent, hct, hte⟩
          rw [fieldsNamed_cons_of_ne hlength] at hlengths
          rw [fieldsNamed_cons_of_ne htype] at hct
          rw [hpresent] at hte
          exact ⟨hlengths, hsingle, hcontent, hct, hte⟩
        · rintro ⟨hlengths, hsingle, hcontent, hct, hte⟩
          rw [← fieldsNamed_cons_of_ne hlength] at hlengths
          rw [← fieldsNamed_cons_of_ne htype] at hct
          rw [← hpresent] at hte
          exact ⟨hlengths, hsingle, hcontent, hct, hte⟩

/-- What all of the fields say. -/
theorem foldlM_readRequestField_eq_ok_iff :
    fields.foldlM readRequestField headers = .ok out ↔
      ∃ lengths, ReadsAs headers fields lengths out := by
  induction fields generalizing headers with
  | nil =>
    rw [List.foldlM_nil]
    constructor
    · intro h
      cases h
      refine ⟨[], .nil, ?_, ?_, rfl, ?_⟩
      · rw [List.append_nil]
        exact Option.length_toList_le
      · cases out.contentLength with
        | none => rfl
        | some n => rfl
      · exact (or_iff_left nofun).symm
    · rintro ⟨lengths, hlengths, -, hcontent, hct, hte⟩
      cases hlengths
      have hlength : out.contentLength = headers.contentLength := by
        rw [hcontent]
        cases headers.contentLength with
        | none => rfl
        | some n => rfl
      have htype : out.contentType = headers.contentType := hct
      have hencoding : out.transferEncodingPresent = headers.transferEncodingPresent :=
        Bool.eq_iff_iff.mpr (hte.trans (or_iff_left nofun))
      cases out
      cases headers
      cases hlength
      cases htype
      cases hencoding
      rfl
  | cons field fields ih =>
    rw [List.foldlM_cons]
    cases hfield : readRequestField headers field with
    | error e =>
      exact iff_of_false nofun fun ⟨_, h⟩ ↦ not_readsAs_of_error hfield h
    | ok next =>
      rw [exists_readsAs_cons_iff hfield, ← ih]
      rfl

end ReadsAs

/-! ### What the parser and the checks accept -/

section Heads

variable {header : Bytes} {length maxBodyBytes : Nat} {request : ParsedRequest}

private theorem splitOn_requestLine {version : Bytes}
    (h : version = (Text.lit "HTTP/1.1").toBytes ∨ version = (Text.lit "HTTP/1.0").toBytes) :
    (List.intercalate [0x20]
      [(Text.lit "POST").toBytes, opaqueEnvelopeHttpPathV1, version]).splitOn 0x20 =
      [(Text.lit "POST").toBytes, opaqueEnvelopeHttpPathV1, version] := by
  apply List.splitOn_intercalate
  · intro part hpart
    simp only [List.mem_cons, List.not_mem_nil, or_false] at hpart
    rcases hpart with rfl | rfl | rfl
    · decide
    · decide
    · rcases h with rfl | rfl
      · decide
      · decide
  · nofun

/-- The request of a well-formed head is posted with its length, if that is not too long. -/
theorem PostHead.exists_request (h : PostHead header length) (maxBodyBytes : Nat) :
    ∃ request, parseRequest header = .ok request ∧
      request.method ≠ (Text.lit "GET").toBytes ∧ postedLength maxBodyBytes request =
        if maxBodyBytes < length then .error .payloadTooLarge else .ok length := by
  obtain ⟨version, lines, fields, h⟩ := h
  obtain ⟨lengthField, hnamed, hlength⟩ := h.contentLength
  obtain ⟨typeField, hlast, htype⟩ := h.contentType
  have hfold : fields.foldlM readRequestField ⟨none, none, false⟩ =
      .ok ⟨some length, some typeField.2, false⟩ := by
    rw [foldlM_readRequestField_eq_ok_iff]
    refine ⟨[length], ?_, Nat.le_refl _, rfl, ?_, ?_⟩
    · rw [hnamed]
      exact .cons hlength .nil
    · rw [hlast]
      rfl
    · refine iff_of_false nofun ?_
      rintro (hfalse | ⟨field, hfield, hname⟩)
      · cases hfalse
      · exact h.transferEncoding field hfield hname
  have hheaders := foldlM_readRequestHeader_eq_ok_iff.mpr ⟨fields, h.parsed, hfold⟩
  obtain ⟨text, htext⟩ := Option.isSome_iff_exists.mp h.text
  have hversion : ¬ (version ≠ (Text.lit "HTTP/1.1").toBytes ∧
      version ≠ (Text.lit "HTTP/1.0").toBytes) := by
    rw [not_and_or, not_not, not_not]
    exact h.version
  refine ⟨⟨⟨some length, some typeField.2, false⟩, (Text.lit "POST").toBytes,
    opaqueEnvelopeHttpPathV1⟩, ?_, ?_, ?_⟩
  · rw [parseRequest, htext]
    dsimp only
    rw [Text.toBytes_of_ofBytes? htext, h.splitLines]
    dsimp only
    rw [splitOn_requestLine h.version]
    dsimp only
    rw [if_neg hversion, hheaders]
    rfl
  · show (Text.lit "POST").toBytes ≠ (Text.lit "GET").toBytes
    decide
  · rw [postedLength, if_neg (not_not_intro rfl), if_neg (not_not_intro rfl),
      if_neg Bool.false_ne_true, if_neg]
    rw [Option.all_some, decide_eq_true_eq]
    exact not_not_intro htype

/-- A request whose length is accepted has a well-formed head of a post. -/
theorem postHead_of_postedLength (hrequest : parseRequest header = .ok request)
    (hlength : postedLength maxBodyBytes request = .ok length) :
    PostHead header length ∧ length ≤ maxBodyBytes := by
  unfold parseRequest at hrequest
  split at hrequest
  · cases hrequest
  next text htext =>
  rw [Text.toBytes_of_ofBytes? htext] at hrequest
  split at hrequest
  · cases hrequest
  next requestLine lines hlines =>
  split at hrequest
  · next method path version hline =>
    split at hrequest
    · cases hrequest
    next hversion =>
    rw [not_and_or, not_not, not_not] at hversion
    obtain ⟨headers, hheaders, hrequest⟩ := Protocol.bind_eq_ok.mp hrequest
    cases hrequest
    obtain ⟨fields, hfields, hfold⟩ := foldlM_readRequestHeader_eq_ok_iff.mp hheaders
    obtain ⟨lengths, hread⟩ := foldlM_readRequestField_eq_ok_iff.mp hfold
    unfold postedLength at hlength
    split at hlength
    · cases hlength
    next hmethod =>
    split at hlength
    · cases hlength
    next hpath =>
    split at hlength
    · cases hlength
    next hencoding =>
    split at hlength
    · cases hlength
    next htype =>
    split at hlength
    · cases hlength
    next n hn =>
    split at hlength
    · cases hlength
    next hle =>
    cases hlength
    refine ⟨⟨version, lines, fields, ?_, ?_, hversion, hfields, ?_, ?_, ?_⟩, Nat.le_of_not_lt hle⟩
    · rw [htext]
      rfl
    · have hjoined : List.intercalate [0x20] (requestLine.splitOn 0x20) = requestLine :=
        List.intercalate_splitOn 0x20
      have hmethod : method = (Text.lit "POST").toBytes := of_not_not hmethod
      have hpath : path = opaqueEnvelopeHttpPathV1 := of_not_not hpath
      rw [hline, hmethod, hpath] at hjoined
      rw [hlines, hjoined]
    · have hcontent := hread.contentLength
      have hvalues := hread.values
      have hsingle := hread.single
      rw [hn] at hcontent
      simp only [Option.toList_none, List.nil_append] at hcontent hsingle
      cases hvalues' : lengths with
      | nil =>
        rw [hvalues'] at hcontent
        cases hcontent
      | cons first rest =>
        rw [hvalues'] at hcontent hsingle hvalues
        cases hcontent
        have hrest : rest = [] := by
          rw [List.length_cons] at hsingle
          exact List.length_eq_zero_iff.mp (by omega)
        subst hrest
        obtain ⟨field, others, hfield, hothers, hnamed⟩ := List.forall₂_cons_right_iff.mp hvalues
        cases hothers
        exact ⟨field, hnamed, hfield⟩
    · intro field hfield hname
      exact hencoding (hread.transferEncoding.mpr (Or.inr ⟨field, hfield, hname⟩))
    · have hcontent := hread.contentType
      rw [Option.or_none] at hcontent
      cases hlast : (fieldsNamed (Text.lit "content-type").toBytes fields).getLast? with
      | none =>
        rw [hlast] at hcontent
        exact absurd (by rw [hcontent]; rfl) htype
      | some field =>
        rw [hlast] at hcontent
        refine ⟨field, rfl, ?_⟩
        rw [hcontent, Option.map_some, Option.all_some, decide_eq_true_eq, not_not] at htype
        exact htype
  · cases hrequest

end Heads

/-! ### One stream -/

section Stream

variable {header body : Bytes} {chunks : List (Chunk 512)} {maxBodyBytes : Nat}

/-- What the collector gets from a stream that is cut into these pieces and then ends. -/
def readsOf (chunks : List (Chunk 512)) : List CollectorRead := chunks.map .data ++ [.closed]

private theorem receive_closed : CollectorRead.closed.receive = .error .badRequest := rfl

private theorem readRequestHead_eq_ok {request : ParsedRequest} {rest : List CollectorRead}
    (h : readRequestHead (readsOf chunks) = some (.ok ((request, body), rest))) :
    ∃ header taken left, chunks = taken ++ left ∧ rest = readsOf left ∧
      received taken = header ++ (Ascii.crlf ++ Ascii.crlf) ++ body ∧ EndsHeader header ∧
      parseRequest header = .ok request := by
  obtain ⟨⟨buffer, headerEnd⟩, mid, hloop, h⟩ := reading_bind_eq_ok.mp h
  obtain ⟨parsed, mid', hparse, hpure⟩ := reading_bind_eq_ok.mp h
  obtain ⟨hparsed, rfl⟩ := settledAs_eq_ok.mp hparse
  cases hpure
  obtain ⟨taken, left, rfl, hrest, hsettled, -⟩ :=
    exists_taken_of_readLoop CollectorRead.data (fun _ ↦ rfl) receive_closed hloop
  rw [List.nil_append, headSettled] at hsettled
  split at hsettled
  · next position hfind =>
    cases hsettled
    obtain ⟨hends, hbuffer⟩ := EndsHeader.of_findSubslice hfind
    exact ⟨_, taken, left, rfl, hrest, hbuffer, hends, hparsed⟩
  · split at hsettled
    · cases hsettled
    · cases hsettled

/-- An envelope reaches the handler only as the body of the first request of the stream. -/
theorem exists_head_of_readCall {envelope : Bytes} {rest : List CollectorRead}
    (h : readCall maxBodyBytes (readsOf chunks) = some (.ok (.opaqueEnvelope envelope, rest))) :
    ∃ header tail, received chunks = header ++ (Ascii.crlf ++ Ascii.crlf) ++ (envelope ++ tail) ∧
      EndsHeader header ∧ PostHead header envelope.length ∧ envelope.length ≤ maxBodyBytes := by
  obtain ⟨⟨request, front⟩, mid, hhead, h⟩ := reading_bind_eq_ok.mp h
  obtain ⟨header, taken, left, rfl, rfl, htaken, hends, hparse⟩ := readRequestHead_eq_ok hhead
  dsimp only at h
  split at h
  · obtain ⟨hstatus, -⟩ := settledAs_eq_ok.mp h
    unfold requestedStatus at hstatus
    split at hstatus
    · cases hstatus
    · split at hstatus
      · cases hstatus
      · cases hstatus
  · obtain ⟨length, mid, hlength, h⟩ := reading_bind_eq_ok.mp h
    obtain ⟨hposted, rfl⟩ := settledAs_eq_ok.mp hlength
    obtain ⟨u, mid, hcheck, h⟩ := reading_bind_eq_ok.mp h
    obtain ⟨hfront, rfl⟩ := settledAs_eq_ok.mp hcheck
    obtain ⟨more, last, rfl, -, hsettled, hchecked⟩ :=
      exists_taken_of_readLoop CollectorRead.data (fun _ ↦ rfl) receive_closed h
    obtain ⟨hpost, hle⟩ := postHead_of_postedLength hparse hposted
    have hat_most : ∀ b, checkBodyLength length b = .ok () → b.length ≤ length := by
      intro b hb
      unfold checkBodyLength at hb
      split at hb
      · cases hb
      next hnot => exact Nat.le_of_not_lt hnot
    unfold requestBodySettled at hsettled
    split at hsettled
    · cases hsettled
    next hnot =>
    cases hsettled
    have hlength : (front ++ received more).length = length := by
      refine Nat.le_antisymm ?_ (Nat.le_of_not_lt hnot)
      rcases hchecked with rfl | hchecked
      · rw [received_nil, List.append_nil]
        exact hat_most front hfront
      · exact hat_most _ hchecked
    refine ⟨header, received last, ?_, hends, hlength.symm ▸ hpost, hlength.symm ▸ hle⟩
    rw [received_append, received_append, htaken]
    simp only [List.append_assoc]

/-- Every stream that ends has an outcome. -/
theorem exists_readCall (maxBodyBytes : Nat) (chunks : List (Chunk 512)) :
    ∃ outcome, readCall maxBodyBytes (readsOf chunks) = some outcome := by
  have hbind : ∀ {α β : Type} {x : Reading CollectorRead CollectorRejectionV1 α}
      {f : α → Reading CollectorRead CollectorRejectionV1 β} {reads : List CollectorRead},
      (∃ outcome, x reads = some outcome) →
      (∀ a rest, x reads = some (.ok (a, rest)) → ∃ outcome, f a rest = some outcome) →
      ∃ outcome, (x >>= f) reads = some outcome := by
    rintro α β x f reads ⟨outcome, hx⟩ hf
    cases outcome with
    | error e => exact ⟨_, reading_bind_error hx⟩
    | ok pair =>
      obtain ⟨outcome, hnext⟩ := hf pair.1 pair.2 hx
      exact ⟨outcome, (reading_bind_ok hx).trans hnext⟩
  refine hbind (hbind (exists_readLoop receive_closed [] _) fun a rest _ ↦ ?_) ?_
  · exact hbind ⟨_, rfl⟩ fun request rest _ ↦ ⟨_, rfl⟩
  · rintro ⟨request, front⟩ rest hhead
    obtain ⟨-, -, left, -, rfl, -⟩ := readRequestHead_eq_ok hhead
    dsimp only
    split
    · exact ⟨_, rfl⟩
    · refine hbind ⟨_, rfl⟩ fun length rest hlength ↦ ?_
      obtain ⟨-, rfl⟩ := settledAs_eq_ok.mp hlength
      refine hbind ⟨_, rfl⟩ fun u rest hcheck ↦ ?_
      obtain ⟨-, rfl⟩ := settledAs_eq_ok.mp hcheck
      exact exists_readLoop receive_closed front _

end Stream

/-! ### Cuts of a request -/

section Requests

variable {header body : Bytes} {chunks : List (Chunk 512)} {maxBodyBytes : Nat}

/-- Behind a well-formed head the body is read, however it is cut. -/
private theorem PostHead.readCall_of_head (h : PostHead header body.length) {front : Bytes}
    {reads later : List CollectorRead} {left : List (Chunk 512)}
    (hhead : readLoop (headSettled maxHttpHeaderBytes .badRequest) CollectorRead.receive
      checkHeadLength [] reads = some (.ok
        ((header ++ (Ascii.crlf ++ Ascii.crlf) ++ front, header.length), left.map .data ++ later)))
    (hbody : body = front ++ received left) : readCall maxBodyBytes reads =
      if maxBodyBytes < body.length then some (.error .payloadTooLarge)
      else some (.ok (.opaqueEnvelope body, later)) := by
  obtain ⟨request, hparse, hmethod, hposted⟩ := h.exists_request maxBodyBytes
  have hrequest : readRequestHead reads =
      some (.ok ((request, front), left.map .data ++ later)) := by
    rw [readRequestHead, reading_bind_ok hhead]
    dsimp only
    rw [take_head, drop_head, hparse]
    exact reading_bind_ok rfl
  rw [readCall, reading_bind_ok hrequest]
  dsimp only
  rw [if_neg hmethod, hposted]
  by_cases hlong : maxBodyBytes < body.length
  · rw [if_pos hlong, if_pos hlong]
    exact reading_bind_error rfl
  · rw [if_neg hlong, if_neg hlong]
    refine (reading_bind_ok rfl).trans ?_
    have hfront : checkBodyLength body.length front = .ok () := by
      rw [checkBodyLength, hbody, List.length_append]
      exact if_neg (by omega)
    rw [hfront]
    refine (reading_bind_ok rfl).trans ?_
    subst hbody
    refine readLoop_of_all CollectorRead.data (fun body ↦ .ok (HandlerCall.opaqueEnvelope body))
      (fun _ ↦ rfl) ?_ ?_ ?_ later
    · intro b _ hlt
      rw [requestBodySettled, if_pos hlt]
    · rw [requestBodySettled, if_neg (Nat.lt_irrefl _)]
    · intro b hb
      exact if_neg (Nat.not_lt.mpr hb.length_le)

private theorem length_stream :
    (header ++ (Ascii.crlf ++ Ascii.crlf) ++ body).length = header.length + 4 + body.length := by
  rw [List.length_append, List.length_append]
  rfl

/-- A request that fits the limit together with what one read can bring of its body is judged
alike, however it is cut. -/
theorem readCall_of_fits (hends : EndsHeader header) (hpost : PostHead header body.length)
    (hfits : header.length + 4 + min body.length 511 ≤ maxHttpHeaderBytes)
    (hcut : received chunks = header ++ (Ascii.crlf ++ Ascii.crlf) ++ body) :
    readCall maxBodyBytes (readsOf chunks) =
      if maxBodyBytes < body.length then some (.error .payloadTooLarge)
      else some (.ok (.opaqueEnvelope body, [.closed])) := by
  obtain ⟨front, left, hbody, hhead⟩ := hends.readLoop_head CollectorRead.receive .data
    checkHeadLength .badRequest (fun _ ↦ rfl) (by omega) (by
      intro b hb hlt
      have hle := hb.length_le
      rw [length_stream] at hle
      exact if_neg (by omega)) hcut [.closed]
  exact hpost.readCall_of_head hhead hbody

section Head

variable {ρ ε : Type} {tooLong : ε} (hends : EndsHeader header)
include hends

/-- No head is found in less. -/
private theorem headSettled_of_lt {b : Bytes}
    (hb : b <+: header ++ (Ascii.crlf ++ Ascii.crlf) ++ body) (hlt : b.length < header.length + 4)
    (hlimit : b.length ≤ maxHttpHeaderBytes) : headSettled maxHttpHeaderBytes tooLong b = none := by
  rw [headSettled, hends.findSubslice_eq hb, if_pos hlt]
  exact if_neg (Nat.not_lt.mpr hlimit)

/-- The whole head is found. -/
private theorem headSettled_head :
    headSettled maxHttpHeaderBytes tooLong (header ++ (Ascii.crlf ++ Ascii.crlf)) =
      some (.ok (header ++ (Ascii.crlf ++ Ascii.crlf), header.length)) := by
  have hfind := hends.findSubslice_eq (List.prefix_append (header ++ (Ascii.crlf ++ Ascii.crlf)) [])
  rw [if_neg (by rw [List.length_append]; exact Nat.lt_irrefl _)] at hfind
  rw [headSettled, hfind]

end Head

/-- Pieces of which one ends with the head. -/
def cutBehindHead (header body : Bytes) : List (Chunk 512) :=
  singles (by decide) (header ++ (Ascii.crlf ++ Ascii.crlf)) ++ singles (by decide) body

theorem received_cutBehindHead (header body : Bytes) : received (cutBehindHead header body) =
    header ++ (Ascii.crlf ++ Ascii.crlf) ++ body := by
  rw [cutBehindHead, received_append, received_singles, received_singles]

/-- Cut behind its head, every request within the limit is judged by its head. -/
theorem readCall_cutBehindHead (maxBodyBytes : Nat) (hends : EndsHeader header)
    (hpost : PostHead header body.length) (hlimit : header.length + 4 ≤ maxHttpHeaderBytes) :
    readCall maxBodyBytes (readsOf (cutBehindHead header body)) =
      if maxBodyBytes < body.length then some (.error .payloadTooLarge)
      else some (.ok (.opaqueEnvelope body, [.closed])) := by
  have hlength : (header ++ (Ascii.crlf ++ Ascii.crlf)).length = header.length + 4 :=
    List.length_append
  have hhead : readLoop (headSettled maxHttpHeaderBytes .badRequest) CollectorRead.receive
      checkHeadLength [] (readsOf (cutBehindHead header body)) = some (.ok
        ((header ++ (Ascii.crlf ++ Ascii.crlf) ++ [], header.length),
          (singles (by decide) body).map CollectorRead.data ++ [CollectorRead.closed])) := by
    rw [readsOf, cutBehindHead, List.map_append, List.append_assoc,
      readLoop_of_open CollectorRead.data (fun _ ↦ rfl), received_singles, List.nil_append,
      readLoop_of_settled (headSettled_head hends), List.append_nil]
    · rfl
    · intro b hb hlt
      rw [received_singles, List.nil_append] at hb hlt
      rw [hlength] at hlt
      have hb' : b <+: header ++ (Ascii.crlf ++ Ascii.crlf) ++ [] := by rwa [List.append_nil]
      exact headSettled_of_lt hends hb' hlt (by omega)
    · intro b hb
      have hle := hb.length_le
      rw [received_singles, List.nil_append, hlength] at hle
      exact if_neg (by omega)
  exact hpost.readCall_of_head hhead (by rw [received_singles, List.nil_append])

/-- The last byte of the head, and as much of the body as one read brings. -/
def acrossHead (body : Bytes) : Chunk 512 where
  bytes := 0x0a :: body.take 511
  ne_nil := List.cons_ne_nil _ _
  length_le := by
    rw [List.length_cons, List.length_take]
    omega

/-- Pieces of which one goes across the end of the head. -/
def cutAcrossHead (header body : Bytes) : List (Chunk 512) :=
  singles (by decide) (header ++ [0x0d, 0x0a, 0x0d]) ++
    acrossHead body :: singles (by decide) (body.drop 511)

theorem received_cutAcrossHead (header body : Bytes) : received (cutAcrossHead header body) =
    header ++ (Ascii.crlf ++ Ascii.crlf) ++ body := by
  rw [cutAcrossHead, received_append, received_cons, received_singles, received_singles]
  show header ++ [0x0d, 0x0a, 0x0d] ++ (0x0a :: body.take 511 ++ body.drop 511) = _
  rw [List.cons_append, List.take_append_drop, List.append_assoc, List.append_assoc]
  rfl

/-- Cut across the end of its head, a request that is longer than the limit there is refused. -/
theorem readCall_cutAcrossHead (maxBodyBytes : Nat) (hends : EndsHeader header)
    (hlimit : header.length + 4 ≤ maxHttpHeaderBytes)
    (hlong : maxHttpHeaderBytes < header.length + 4 + min body.length 511) :
    readCall maxBodyBytes (readsOf (cutAcrossHead header body)) = some (.error .badRequest) := by
  have hlength : (header ++ [0x0d, 0x0a, 0x0d]).length = header.length + 3 := List.length_append
  have hprefix : header ++ [0x0d, 0x0a, 0x0d] <+: header ++ (Ascii.crlf ++ Ascii.crlf) ++ body := by
    refine ⟨0x0a :: body, ?_⟩
    rw [List.append_assoc, List.append_assoc]
    rfl
  have hopen : ∀ b, b <+: header ++ [0x0d, 0x0a, 0x0d] →
      headSettled maxHttpHeaderBytes CollectorRejectionV1.badRequest b = none := by
    intro b hb
    have hle := hb.length_le
    exact headSettled_of_lt hends (hb.trans hprefix) (by omega) (by omega)
  have hhead : readLoop (headSettled maxHttpHeaderBytes .badRequest) CollectorRead.receive
      checkHeadLength [] (readsOf (cutAcrossHead header body)) = some (.error .badRequest) := by
    rw [readsOf, cutAcrossHead, List.map_append, List.append_assoc,
      readLoop_of_open CollectorRead.data (fun _ ↦ rfl), received_singles, List.nil_append]
    · refine readLoop_of_refused (hopen _ List.prefix_rfl) rfl (if_pos ?_)
      show _ < (header ++ [0x0d, 0x0a, 0x0d] ++ 0x0a :: body.take 511).length
      rw [List.length_append, hlength, List.length_cons, List.length_take, Nat.min_comm]
      omega
    · intro b hb _
      rw [received_singles, List.nil_append] at hb
      exact hopen b hb
    · intro b hb
      have hle := hb.length_le
      rw [received_singles, List.nil_append] at hle
      exact if_neg (by omega)
  exact reading_bind_error (reading_bind_error hhead)

end Requests

/-! ### Cuts of a response -/

section Responses

variable {header body : Bytes} {chunks : List (Chunk 512)}

/-- What the client gets from a stream that is cut into these pieces and then ends. -/
def clientReadsOf (chunks : List (Chunk 512)) : List ClientRead := chunks.map .data ++ [.closed]

private theorem receive_data (chunk : Chunk 512) :
    (ClientRead.data chunk).receive = .ok chunk.bytes :=
  rfl

/-- A response whose head is found within the limit is read, however it is cut. -/
theorem readHttpReceiptResponse_of_fits (hends : EndsHeader header)
    (hlength : responseLength header = .ok body.length)
    (hfits : header.length + 3 ≤ maxHttpHeaderBytes)
    (hcut : received chunks = header ++ (Ascii.crlf ++ Ascii.crlf) ++ body) :
    readHttpReceiptResponse (clientReadsOf chunks) = some (.ok (body, [.closed])) := by
  obtain ⟨front, left, hbody, hhead⟩ := hends.readLoop_head ClientRead.receive .data
    (fun _ ↦ .ok ()) .invalidOpaqueRequest (fun _ ↦ rfl) hfits (fun _ _ _ ↦ rfl) hcut [.closed]
  exact readHttpReceiptResponse_of_head hhead hbody hlength

/-- Beyond the limit there is no head before this. -/
private theorem headSettled_of_long (hends : EndsHeader header) {b : Bytes}
    (hb : b <+: header ++ (Ascii.crlf ++ Ascii.crlf) ++ body) (hlt : b.length < header.length + 4)
    (hlimit : maxHttpHeaderBytes < b.length) :
    headSettled maxHttpHeaderBytes PrivateTransportNetworkErrorV1.invalidOpaqueRequest b =
      some (.error .invalidOpaqueRequest) := by
  rw [headSettled, hends.findSubslice_eq hb, if_pos hlt]
  exact if_pos hlimit

/-- A response whose head ends further behind the limit than one read brings is refused, however it
is cut. -/
theorem readHttpReceiptResponse_of_long (hends : EndsHeader header)
    (hlong : maxHttpHeaderBytes + 512 < header.length + 4)
    (hcut : received chunks = header ++ (Ascii.crlf ++ Ascii.crlf) ++ body) :
    readHttpReceiptResponse (clientReadsOf chunks) = some (.error .invalidOpaqueRequest) := by
  obtain ⟨taken, left, -, -, hloop⟩ : ∃ taken left, chunks = taken ++ left ∧
      maxHttpHeaderBytes + 1 ≤ ([] ++ received taken).length ∧
      readLoop (headSettled maxHttpHeaderBytes .invalidOpaqueRequest) ClientRead.receive
        (fun _ ↦ .ok ()) [] (clientReadsOf chunks) = some
          (Except.map (·, left.map ClientRead.data ++ [ClientRead.closed])
            (.error .invalidOpaqueRequest)) := by
    refine readLoop_of_received ClientRead.data (fun _ ↦ .error .invalidOpaqueRequest) _
      receive_data ?_ ?_ ?_ (fun _ _ _ ↦ rfl) [.closed]
    · rw [List.nil_append, hcut, length_stream]
      omega
    · intro b hb hlt
      rw [List.nil_append, hcut] at hb
      exact headSettled_of_lt hends hb (by omega) (by omega)
    · intro b hb hle hcases
      rw [List.nil_append, hcut] at hb
      rcases hcases with hlt | hnil
      · have hshort : b.length < header.length + 4 := by omega
        exact headSettled_of_long hends hb hshort hle
      · rw [hnil] at hle
        exact absurd hle (Nat.not_succ_le_zero _)
  exact reading_bind_error hloop

/-- Pieces of which one ends at this place. -/
def cutAt (place : Nat) (stream : Bytes) : List (Chunk 512) :=
  singles (by decide) (stream.take place) ++ singles (by decide) (stream.drop place)

theorem received_cutAt (place : Nat) (stream : Bytes) : received (cutAt place stream) = stream := by
  rw [cutAt, received_append, received_singles, received_singles, List.take_append_drop]

/-- Cut just behind the limit, a response whose head is not over there is refused. -/
theorem readHttpReceiptResponse_cutAt (hends : EndsHeader header)
    (hlong : maxHttpHeaderBytes + 1 < header.length + 4) :
    readHttpReceiptResponse (clientReadsOf (cutAt (maxHttpHeaderBytes + 1)
      (header ++ (Ascii.crlf ++ Ascii.crlf) ++ body))) = some (.error .invalidOpaqueRequest) := by
  have hprefix := List.take_prefix (maxHttpHeaderBytes + 1)
    (header ++ (Ascii.crlf ++ Ascii.crlf) ++ body)
  have htake : ((header ++ (Ascii.crlf ++ Ascii.crlf) ++ body).take
      (maxHttpHeaderBytes + 1)).length = maxHttpHeaderBytes + 1 := by
    rw [List.length_take, length_stream]
    omega
  refine reading_bind_error ?_
  rw [clientReadsOf, cutAt, List.map_append, List.append_assoc,
    readLoop_of_open ClientRead.data receive_data _ (fun _ _ ↦ rfl), received_singles,
    List.nil_append]
  · exact readLoop_of_settled (headSettled_of_long hends hprefix (by omega) (by omega)) _
  · intro b hb hlt
    rw [received_singles, List.nil_append] at hb hlt
    exact headSettled_of_lt hends (hb.trans hprefix) (by omega) (by omega)

/-- What the last read of a head brings that is over one read behind the limit. -/
def lastOfHead (header : Bytes) (h : header.length + 4 ≤ maxHttpHeaderBytes + 512)
    (hlong : maxHttpHeaderBytes < header.length + 4) : Chunk 512 where
  bytes := (header ++ (Ascii.crlf ++ Ascii.crlf)).drop maxHttpHeaderBytes
  ne_nil := by
    rw [← List.length_pos_iff, List.length_drop, List.length_append]
    show 0 < header.length + 4 - maxHttpHeaderBytes
    omega
  length_le := by
    rw [List.length_drop, List.length_append]
    show header.length + 4 - maxHttpHeaderBytes ≤ 512
    omega

/-- Cut at the limit, a response whose head is over one read behind it is read. -/
theorem exists_cut_of_late (hends : EndsHeader header)
    (hlength : responseLength header = .ok body.length)
    (hlong : maxHttpHeaderBytes < header.length + 4)
    (hlate : header.length + 4 ≤ maxHttpHeaderBytes + 512) : ∃ chunks : List (Chunk 512),
      received chunks = header ++ (Ascii.crlf ++ Ascii.crlf) ++ body ∧
        readHttpReceiptResponse (clientReadsOf chunks) = some (.ok (body, [.closed])) := by
  have hprefix : (header ++ (Ascii.crlf ++ Ascii.crlf)).take maxHttpHeaderBytes <+:
      header ++ (Ascii.crlf ++ Ascii.crlf) ++ body :=
    (List.take_prefix _ _).trans (List.prefix_append _ _)
  have hlen : (header ++ (Ascii.crlf ++ Ascii.crlf)).length = header.length + 4 :=
    List.length_append
  have htake : ((header ++ (Ascii.crlf ++ Ascii.crlf)).take maxHttpHeaderBytes).length =
      maxHttpHeaderBytes := by
    rw [List.length_take, hlen]
    omega
  have hopen : ∀ b, b <+: (header ++ (Ascii.crlf ++ Ascii.crlf)).take maxHttpHeaderBytes →
      headSettled maxHttpHeaderBytes PrivateTransportNetworkErrorV1.invalidOpaqueRequest b =
        none := by
    intro b hb
    have hle := hb.length_le
    exact headSettled_of_lt hends (hb.trans hprefix) (by omega) (by omega)
  refine ⟨singles (by decide) ((header ++ (Ascii.crlf ++ Ascii.crlf)).take maxHttpHeaderBytes) ++
    lastOfHead header hlate hlong :: singles (by decide) body, ?_, ?_⟩
  · rw [received_append, received_cons, received_singles, received_singles, ← List.append_assoc,
      lastOfHead, List.take_append_drop]
  · have hhead : readLoop (headSettled maxHttpHeaderBytes .invalidOpaqueRequest) ClientRead.receive
        (fun _ ↦ .ok ()) [] (clientReadsOf (singles (by decide)
          ((header ++ (Ascii.crlf ++ Ascii.crlf)).take maxHttpHeaderBytes) ++
            lastOfHead header hlate hlong :: singles (by decide) body)) = some (.ok
              ((header ++ (Ascii.crlf ++ Ascii.crlf) ++ [], header.length),
                (singles (by decide) body).map ClientRead.data ++ [ClientRead.closed])) := by
      rw [clientReadsOf, List.map_append, List.append_assoc,
        readLoop_of_open ClientRead.data receive_data _ (fun _ _ ↦ rfl), received_singles,
        List.nil_append]
      · refine (readLoop_cons (hopen _ List.prefix_rfl) (receive_data _) rfl).trans ?_
        have hwhole : (header ++ (Ascii.crlf ++ Ascii.crlf)).take maxHttpHeaderBytes ++
            (lastOfHead header hlate hlong).bytes = header ++ (Ascii.crlf ++ Ascii.crlf) :=
          List.take_append_drop _ _
        rw [hwhole, readLoop_of_settled (headSettled_head hends), List.append_nil]
        rfl
      · intro b hb _
        rw [received_singles, List.nil_append] at hb
        exact hopen b hb
    exact readHttpReceiptResponse_of_head hhead (received_singles (by decide) body).symm hlength

end Responses

/-! ### What the cuts can change -/

/-- The streams of a head and a body. -/
def streamOf (header body : Bytes) : Bytes := header ++ (Ascii.crlf ++ Ascii.crlf) ++ body

/-- Two ways of cutting a stream have the same result. -/
def CutsAgree {α : Type} (stream : Bytes) (result : List (Chunk 512) → α) : Prop :=
  ∀ chunks chunks' : List (Chunk 512), received chunks = stream → received chunks' = stream →
    result chunks = result chunks'

/-- An envelope is handed over at most once and only as the body of the first request of a stream,
the head of which is well formed. A request of one such head within the limit and its body is judged
alike however it is cut exactly if the limit has room for what one read can bring behind the head,
too. A response with the body that its head promises is read alike exactly if its head ends at most
one byte behind the limit, or further behind it than one read brings. -/
theorem packetBoundaries_exact {σ : Type} (handler : OpaqueEnvelopeGatewayHandlerV1 σ) (state : σ)
    (maxBodyBytes : Nat) :
    (∀ chunks, ∃ outcome next calls,
      readAndDispatch maxBodyBytes handler.recording (state, []) (readsOf chunks) =
          some (outcome, next, calls) ∧ calls.length ≤ 1 ∧
        ∀ envelope, HandlerCall.opaqueEnvelope envelope ∈ calls → ∃ header tail,
          received chunks = streamOf header (envelope ++ tail) ∧ EndsHeader header ∧
            PostHead header envelope.length ∧ envelope.length ≤ maxBodyBytes) ∧
    (∀ header body, EndsHeader header → PostHead header body.length →
      header.length + 4 ≤ maxHttpHeaderBytes →
        (CutsAgree (streamOf header body) (fun chunks ↦
            readAndDispatch maxBodyBytes handler.recording (state, []) (readsOf chunks)) ↔
          header.length + 4 + min body.length 511 ≤ maxHttpHeaderBytes)) ∧
    ∀ header body, EndsHeader header → responseLength header = .ok body.length →
      (CutsAgree (streamOf header body) (fun chunks ↦
          readHttpReceiptResponse (clientReadsOf chunks)) ↔
        header.length + 4 ≤ maxHttpHeaderBytes + 1 ∨
          maxHttpHeaderBytes + 512 < header.length + 4) := by
  refine ⟨?_, ?_, ?_⟩
  · intro chunks
    obtain ⟨outcome, hcall⟩ := exists_readCall maxBodyBytes chunks
    rw [readAndDispatch, hcall]
    cases outcome with
    | error e => exact ⟨_, _, _, rfl, Nat.zero_le 1, fun _ h ↦ absurd h List.not_mem_nil⟩
    | ok result =>
      obtain ⟨call, rest⟩ := result
      cases call with
      | electionStatus =>
        refine ⟨_, _, _, rfl, Nat.le_refl 1, ?_⟩
        intro envelope henvelope
        cases List.mem_singleton.mp henvelope
      | opaqueEnvelope envelope =>
        refine ⟨_, _, _, rfl, Nat.le_refl 1, ?_⟩
        intro other hother
        cases List.mem_singleton.mp hother
        exact exists_head_of_readCall hcall
  · intro header body hends hpost hlimit
    constructor
    · intro hagree
      by_contra hlong
      have hbehind := readCall_cutBehindHead maxBodyBytes hends hpost hlimit
      have hacross := readCall_cutAcrossHead maxBodyBytes hends hlimit (Nat.lt_of_not_le hlong)
      have hsame := hagree _ _ (received_cutBehindHead header body)
        (received_cutAcrossHead header body)
      dsimp only at hsame
      rw [readAndDispatch, readAndDispatch, hbehind, hacross] at hsame
      by_cases hbody : maxBodyBytes < body.length
      · rw [if_pos hbody] at hsame
        cases hsame
      · rw [if_neg hbody] at hsame
        have hcalls := congrArg (Option.map fun outcome ↦ outcome.2.2) hsame
        cases hcalls
    · intro hfits chunks chunks' hcut hcut'
      dsimp only
      rw [readAndDispatch, readAndDispatch, readCall_of_fits hends hpost hfits hcut,
        readCall_of_fits hends hpost hfits hcut']
  · intro header body hends hlength
    constructor
    · intro hagree
      by_contra hnot
      rw [not_or, Nat.not_le, Nat.not_lt] at hnot
      obtain ⟨hlong, hlate⟩ := hnot
      obtain ⟨chunks, hcut, hread⟩ := exists_cut_of_late hends hlength (by omega) hlate
      have hsame := hagree _ _ hcut (received_cutAt (maxHttpHeaderBytes + 1) _)
      dsimp only at hsame
      rw [hread, streamOf, readHttpReceiptResponse_cutAt hends hlong] at hsame
      cases hsame
    · intro hcases chunks chunks' hcut hcut'
      dsimp only
      rcases hcases with hfits | hlong
      · have hfits : header.length + 3 ≤ maxHttpHeaderBytes := by omega
        rw [readHttpReceiptResponse_of_fits hends hlength hfits hcut,
          readHttpReceiptResponse_of_fits hends hlength hfits hcut']
      · rw [readHttpReceiptResponse_of_long hends hlong hcut,
          readHttpReceiptResponse_of_long hends hlong hcut']

namespace PacketSample

/-- A handler that answers an envelope with its bytes. -/
def answering : OpaqueEnvelopeGatewayHandlerV1 Unit where
  handleOpaqueEnvelope _ envelope := (.ok envelope, ())
  handleElectionStatus _ := (.error .notFound, ())

/-- The lines of a request with a long field that nobody reads. -/
def lines (padding : Nat) : List Bytes := [
  (Text.lit "POST /v1/opaque-envelope HTTP/1.1").toBytes,
  headerLine "Content-Type" opaqueEnvelopeHttpContentTypeV1,
  headerLine "Content-Length" (Text.lit "100").toBytes,
  headerLine "X" (List.replicate padding 0x61)]

theorem lines_ne_nil (padding : Nat) : lines padding ≠ [] := List.cons_ne_nil _ _

def header (padding : Nat) : Bytes := Ascii.crlf.intercalate (lines padding)

def envelope : Bytes := List.replicate 100 7

theorem length_header (padding : Nat) : (header padding).length = 99 + padding := by
  have hfirst : (Text.lit "POST /v1/opaque-envelope HTTP/1.1").toBytes.length = 33 := by decide
  have htype : (headerLine "Content-Type" opaqueEnvelopeHttpContentTypeV1).length = 38 := by decide
  have hlength : (headerLine "Content-Length" (Text.lit "100").toBytes).length = 19 := by decide
  have hname : ((Text.lit "X").toBytes ++ [0x3a, 0x20]).length = 3 := by decide
  have hcrlf : Ascii.crlf.length = 2 := rfl
  rw [header, lines, List.intercalate_cons_cons, List.intercalate_cons_cons,
    List.intercalate_cons_cons, List.intercalate_singleton]
  simp only [List.length_append, hfirst, htype, hlength, hcrlf]
  rw [headerLine, List.length_append, hname, List.length_replicate]
  omega

theorem line_of_lines {padding : Nat} : ∀ line ∈ lines padding, line ≠ [] ∧ 0x0d ∉ line ∧
    ∀ b ∈ line, b < 0x80 := by
  have hknown : ∀ line ∈ [(Text.lit "POST /v1/opaque-envelope HTTP/1.1").toBytes,
      headerLine "Content-Type" opaqueEnvelopeHttpContentTypeV1,
      headerLine "Content-Length" (Text.lit "100").toBytes],
      line ≠ [] ∧ 0x0d ∉ line ∧ line.all (· < 0x80) = true := by decide
  have hpadded : ∀ b ∈ headerLine "X" (List.replicate padding 0x61), b = 0x61 ∨
      b ∈ (Text.lit "X").toBytes ++ [0x3a, 0x20] := by
    intro b hb
    rcases List.mem_append.mp hb with hb | hb
    · exact Or.inr hb
    · exact Or.inl (List.eq_of_mem_replicate hb)
  intro line hline
  have hline : line ∈ [(Text.lit "POST /v1/opaque-envelope HTTP/1.1").toBytes,
      headerLine "Content-Type" opaqueEnvelopeHttpContentTypeV1,
      headerLine "Content-Length" (Text.lit "100").toBytes] ++
      [headerLine "X" (List.replicate padding 0x61)] := hline
  rcases List.mem_append.mp hline with hline | hline
  · obtain ⟨hne, hcr, hascii⟩ := hknown line hline
    exact ⟨hne, hcr, fun b hb ↦ of_decide_eq_true (List.all_eq_true.mp hascii b hb)⟩
  · rw [List.mem_singleton.mp hline]
    refine ⟨?_, ?_, ?_⟩
    · intro hnil
      exact absurd (List.append_eq_nil_iff.mp hnil).1 (by decide)
    · intro hcr
      rcases hpadded _ hcr with hcr | hcr
      · cases hcr
      · exact absurd hcr (by decide)
    · intro b hb
      rcases hpadded b hb with rfl | hb
      · decide
      · have hall : ((Text.lit "X").toBytes ++ [0x3a, 0x20]).all (· < 0x80) = true := by decide
        exact of_decide_eq_true (List.all_eq_true.mp hall b hb)

theorem endsHeader_header (padding : Nat) : EndsHeader (header padding) := by
  have hfind := Ascii.find_intercalate (lines_ne_nil padding)
    (fun line hline ↦ ⟨(line_of_lines line hline).1, (line_of_lines line hline).2.1⟩) []
  rwa [List.append_nil] at hfind

theorem postHead_header (padding : Nat) : PostHead (header padding) envelope.length := by
  have hascii : ∀ b ∈ header padding, b < 0x80 := by
    intro b hb
    rcases Ascii.mem_of_mem_intercalate hb with ⟨line, hline, hb⟩ | hb
    · exact (line_of_lines line hline).2.2 b hb
    · rcases List.mem_pair.mp hb with rfl | rfl
      · decide
      · decide
  have hX : parseStrictHeaderLineV1 (headerLine "X" (List.replicate padding 0x61)) =
      .ok ((Text.lit "x").toBytes, List.replicate padding 0x61) := by
    have htoken : (Text.lit "X").toBytes.all isHttpTokenChar = true := by decide
    refine parseStrictHeaderLineV1_headerLine (by decide) (List.all_eq_true.mp htoken) ?_
    intro b hb
    rw [List.eq_of_mem_replicate hb]
    decide
  refine ⟨(Text.lit "HTTP/1.1").toBytes, (lines padding).tail,
    [((Text.lit "content-type").toBytes, opaqueEnvelopeHttpContentTypeV1),
      ((Text.lit "content-length").toBytes, (Text.lit "100").toBytes),
      ((Text.lit "x").toBytes, List.replicate padding 0x61)], ?_⟩
  constructor
  · rw [Text.ofBytes?, dif_pos (Ascii.isSome_decode hascii)]
    rfl
  · rw [header, Ascii.splitLines_intercalate (lines_ne_nil padding) fun line hline ↦
      (line_of_lines line hline).2.1]
    rfl
  · exact Or.inl rfl
  · exact .cons (by decide) (.cons (by decide) (.cons hX .nil))
  · exact ⟨((Text.lit "content-length").toBytes, (Text.lit "100").toBytes), rfl, by decide⟩
  · have hnames : ∀ name ∈ [(Text.lit "content-type").toBytes, (Text.lit "content-length").toBytes,
        (Text.lit "x").toBytes], name ≠ (Text.lit "transfer-encoding").toBytes := by decide
    exact fun field hfield ↦ hnames field.1 (List.mem_map_of_mem (f := Prod.fst) hfield)
  · exact ⟨((Text.lit "content-type").toBytes, opaqueEnvelopeHttpContentTypeV1), rfl, rfl⟩

end PacketSample

open PacketSample in
/-- A short request is judged alike however it is cut. -/
theorem packetBoundaries_exact_sample :
    CutsAgree (streamOf (header 0) envelope) fun chunks ↦
      readAndDispatch 1000 answering.recording ((), []) (readsOf chunks) := by
  have hlength := length_header 0
  have henvelope : envelope.length = 100 := List.length_replicate
  have hmax : maxHttpHeaderBytes = 8192 := rfl
  exact ((packetBoundaries_exact answering () 1000).2.1 (header 0) envelope (endsHeader_header 0)
    (postHead_header 0) (by omega)).mpr (by omega)

open PacketSample in
/-- A request of 8203 bytes, the head of which is over at byte 8103: it is accepted if a read ends
there, and refused if the last read of the head brings the envelope as well. -/
theorem packetBoundaries_disagree :
    EndsHeader (header 8000) ∧ PostHead (header 8000) envelope.length ∧
      (header 8000).length + 4 ≤ maxHttpHeaderBytes ∧
      received (cutBehindHead (header 8000) envelope) = streamOf (header 8000) envelope ∧
      received (cutAcrossHead (header 8000) envelope) = streamOf (header 8000) envelope ∧
      readAndDispatch 1000 answering.recording ((), [])
          (readsOf (cutBehindHead (header 8000) envelope)) =
        some (.ok envelope, (), [.opaqueEnvelope envelope]) ∧
      readAndDispatch 1000 answering.recording ((), [])
          (readsOf (cutAcrossHead (header 8000) envelope)) = some (.error .badRequest, (), []) := by
  have hlength := length_header 8000
  have henvelope : envelope.length = 100 := List.length_replicate
  have hmax : maxHttpHeaderBytes = 8192 := rfl
  have hlimit : (header 8000).length + 4 ≤ maxHttpHeaderBytes := by omega
  have hbehind := readCall_cutBehindHead 1000 (endsHeader_header 8000) (postHead_header 8000) hlimit
  have hacross := readCall_cutAcrossHead 1000 (endsHeader_header 8000) hlimit
    (show maxHttpHeaderBytes < (header 8000).length + 4 + min envelope.length 511 by omega)
  rw [if_neg (by omega)] at hbehind
  refine ⟨endsHeader_header 8000, postHead_header 8000, hlimit, received_cutBehindHead _ _,
    received_cutAcrossHead _ _, ?_, ?_⟩
  · rw [readAndDispatch, hbehind]
    rfl
  · rw [readAndDispatch, hacross]

end PrivateBallot.TransportGateway
