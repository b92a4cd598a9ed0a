import PrivateBallot.GuiCore.LifecycleFence
import PrivateBallot.TransportGateway.Collector
import PrivateBallot.TransportNetwork.Http

/-!
# The collector on the wire

Library `TransportGateway`. `crates/transport-gateway/src/collector.rs:141-704`: how the collector
reads one request, which call of its handler it makes, and what it writes back. A voter's client
and the collector agree on the bytes, however the network cuts them.
-/

namespace PrivateBallot.TransportGateway

open PrivateBallot.Base PrivateBallot.GuiCore PrivateBallot.TransportNetwork

/-- `CollectorRejectionV1::status` -/
def CollectorRejectionV1.status : CollectorRejectionV1 → Nat × String
  | badRequest => (400, "Bad Request")
  | notFound => (404, "Not Found")
  | methodNotAllowed => (405, "Method Not Allowed")
  | payloadTooLarge => (413, "Payload Too Large")
  | unsupportedMediaType => (415, "Unsupported Media Type")
  | requestTimeout => (408, "Request Timeout")
  | admissionUnavailable => (503, "Service Unavailable")
  | internal => (500, "Internal Server Error")

/-! ### Requests -/

/-- What the collector gets from arming a read and making it: bytes, the end of the stream, an
error (with the time of the request spent or not), no time left, or no timeout set. -/
inductive CollectorRead where
  | data (chunk : Chunk 512)
  | closed
  | failed (spent : Bool)
  | overdue
  | unarmed
deriving DecidableEq

/-- The bytes that were read; `arm_read` and `classify_read_error`. -/
def CollectorRead.receive : CollectorRead → Except CollectorRejectionV1 Bytes
  | data chunk => .ok chunk.bytes
  | closed => .error .badRequest
  | failed spent => .error (if spent then .requestTimeout else .badRequest)
  | overdue => .error .requestTimeout
  | unarmed => .error .internal

/-- What the header lines of a request say. -/
structure RequestHeaders where
  contentLength : Option Nat
  contentType : Option Bytes
  transferEncodingPresent : Bool
deriving DecidableEq

/-- `ParsedRequest` -/
structure ParsedRequest extends RequestHeaders where
  method : Bytes
  path : Bytes
deriving DecidableEq

/-- One header line of a request, given what the lines ahead of it say. -/
def readRequestHeader (headers : RequestHeaders) (line : Bytes) :
    Except CollectorRejectionV1 RequestHeaders :=
  match parseStrictHeaderLineV1 line with
  | .error _ => .error .badRequest
  | .ok (name, value) =>
    if name = (Text.lit "content-length").toBytes then
      if headers.contentLength.isSome then .error .badRequest
      else match parseStrictContentLengthV1 value with
        | .error _ => .error .badRequest
        | .ok length => .ok { headers with contentLength := some length }
    else if name = (Text.lit "transfer-encoding").toBytes then
      .ok { headers with transferEncodingPresent := true }
    else if name = (Text.lit "content-type").toBytes then
      .ok { headers with contentType := some value }
    else .ok headers

/-- The request that a head is. -/
def parseRequest (header : Bytes) : Except CollectorRejectionV1 ParsedRequest :=
  match Text.ofBytes? header with
  | none => .error .badRequest
  | some headerText =>
    match Ascii.splitLines headerText.toBytes with
    | [] => .error .badRequest
    | requestLine :: lines =>
      match requestLine.splitOn 0x20 with
      | [method, path, version] =>
        if version ≠ (Text.lit "HTTP/1.1").toBytes ∧ version ≠ (Text.lit "HTTP/1.0").toBytes then
          .error .badRequest
        else do
          let headers ← lines.foldlM readRequestHeader ⟨none, none, false⟩
          pure ⟨headers, method, path⟩
      | _ => .error .badRequest

/-- A buffer that has grown too long in the search for the end of the head. -/
def checkHeadLength (buffer : Bytes) : Except CollectorRejectionV1 Unit :=
  if maxHttpHeaderBytes < buffer.length then .error .badRequest else .ok ()

/-- `read_request_head`; `crates/transport-gateway/src/collector.rs:603`. -/
def readRequestHead : Reading CollectorRead CollectorRejectionV1 (ParsedRequest × Bytes) := do
  let (buffer, headerEnd) ← readLoop (headSettled maxHttpHeaderBytes .badRequest)
    CollectorRead.receive checkHeadLength []
  let request ← settledAs (parseRequest (buffer.take headerEnd))
  pure (request, buffer.drop (headerEnd + 4))

/-- The call of the handler that a request leads to. -/
inductive HandlerCall where
  | opaqueEnvelope (envelope : Bytes)
  | electionStatus
deriving DecidableEq

/-- The checks of a request that is no `GET`, up to the length of its body. -/
def postedLength (maxBodyBytes : Nat) (request : ParsedRequest) : Except CollectorRejectionV1 Nat :=
  if request.method ≠ (Text.lit "POST").toBytes then .error .methodNotAllowed
  else if request.path ≠ opaqueEnvelopeHttpPathV1 then .error .notFound
  else if request.transferEncodingPresent then .error .badRequest
  else if request.contentType.all
      (·.map Ascii.toLower ≠ opaqueEnvelopeHttpContentTypeV1.map Ascii.toLower) then
    .error .unsupportedMediaType
  else match request.contentLength with
    | none => .error .badRequest
    | some length => if maxBodyBytes < length then .error .payloadTooLarge else .ok length

/-- The call of a `GET`. -/
def requestedStatus (path : Bytes) : Except CollectorRejectionV1 HandlerCall :=
  if path = electionStatusHttpPathV1 then .ok .electionStatus
  else if path = opaqueEnvelopeHttpPathV1 then .error .methodNotAllowed
  else .error .notFound

/-- The loop is over with as many bytes as were promised. -/
def requestBodySettled (length : Nat) (body : Bytes) :
    Option (Except CollectorRejectionV1 HandlerCall) :=
  if body.length < length then none else some (.ok (.opaqueEnvelope body))

/-- A body with more bytes than promised. -/
def checkBodyLength (length : Nat) (body : Bytes) : Except CollectorRejectionV1 Unit :=
  if length < body.length then .error .badRequest else .ok ()

/-- `read_and_dispatch` up to the call of the handler, which is always its last step. -/
def readCall (maxBodyBytes : Nat) : Reading CollectorRead CollectorRejectionV1 HandlerCall := do
  let (request, body) ← readRequestHead
  if request.method = (Text.lit "GET").toBytes then settledAs (requestedStatus request.path)
  else do
    let length ← settledAs (postedLength maxBodyBytes request)
    settledAs (checkBodyLength length body)
    readLoop (requestBodySettled length) CollectorRead.receive (checkBodyLength length) body

/-- `OpaqueEnvelopeGatewayHandlerV1` -/
structure OpaqueEnvelopeGatewayHandlerV1 (σ : Type) where
  handleOpaqueEnvelope : σ → Bytes → Except CollectorRejectionV1 Bytes × σ
  handleElectionStatus : σ → Except CollectorRejectionV1 Bytes × σ

namespace OpaqueEnvelopeGatewayHandlerV1

variable {σ : Type}

/-- A call of the handler. -/
def call (handler : OpaqueEnvelopeGatewayHandlerV1 σ) (state : σ) :
    HandlerCall → Except CollectorRejectionV1 Bytes × σ
  | .opaqueEnvelope envelope => handler.handleOpaqueEnvelope state envelope
  | .electionStatus => handler.handleElectionStatus state

/-- The handler that also keeps a record of its calls. -/
def recording (handler : OpaqueEnvelopeGatewayHandlerV1 σ) :
    OpaqueEnvelopeGatewayHandlerV1 (σ × List HandlerCall) where
  handleOpaqueEnvelope := fun (state, calls) envelope ↦
    ((handler.handleOpaqueEnvelope state envelope).1,
      (handler.handleOpaqueEnvelope state envelope).2, calls ++ [.opaqueEnvelope envelope])
  handleElectionStatus := fun (state, calls) ↦
    ((handler.handleElectionStatus state).1, (handler.handleElectionStatus state).2,
      calls ++ [.electionStatus])

end OpaqueEnvelopeGatewayHandlerV1

/-- `read_and_dispatch`; `crates/transport-gateway/src/collector.rs:530`. -/
def readAndDispatch {σ : Type} (maxBodyBytes : Nat) (handler : OpaqueEnvelopeGatewayHandlerV1 σ)
    (state : σ) (reads : List CollectorRead) : Option (Except CollectorRejectionV1 Bytes × σ) :=
  match readCall maxBodyBytes reads with
  | none => none
  | some (.error rejection) => some (.error rejection, state)
  | some (.ok (call, _)) => some (handler.call state call)

/-! ### Responses -/

/-- `write_response` -/
def writeResponse (code : Nat) (reason : String) (body : Bytes) : Bytes :=
  messageHead [
    (Text.lit "HTTP/1.1 ").toBytes ++ Ascii.decimal code ++ (Text.lit " ").toBytes ++
      (Text.lit reason).toBytes,
    headerLine "Content-Type" opaqueEnvelopeHttpContentTypeV1,
    headerLine "Content-Length" (Ascii.decimal body.length),
    headerLine "Connection" (Text.lit "close").toBytes] ++ body

/-- What is written for an outcome. -/
def responseTo : Except CollectorRejectionV1 Bytes → Bytes
  | .ok receipt => writeResponse 200 "OK" receipt
  | .error rejection => writeResponse rejection.status.1 rejection.status.2 []

/-- `OpaqueEnvelopeCollectorV1::serve_next`: what is written, and whether it is a receipt. -/
def serveNext {σ : Type} (handler : OpaqueEnvelopeGatewayHandlerV1 σ) (state : σ)
    (reads : List CollectorRead) : Option (Bytes × Bool × σ) :=
  (readAndDispatch maxStagedReleaseEnvelopeBytes handler state reads).map
    fun (outcome, next) ↦ (responseTo outcome, outcome.isOk, next)

/-! ### The heads that are sent -/

section Heads

/-- Header lines that are sent, and that neither side looks at. -/
def unreadNames : List String := ["Host", "Accept", "Connection"]

/-- The names of the header lines of both sides. -/
def headerNames : List String := unreadNames ++ ["Content-Type", "Content-Length"]

private theorem token_of_mem_headerNames : ∀ name ∈ headerNames,
    (Text.lit name).toBytes ≠ [] ∧ (∀ b ∈ (Text.lit name).toBytes, isHttpTokenChar b = true) ∧
      (Text.lit name).len ≤ 126 := by
  have hall : headerNames.all (fun name ↦ !(Text.lit name).toBytes.isEmpty &&
      (Text.lit name).toBytes.all isHttpTokenChar &&
      decide ((Text.lit name).len ≤ 126)) = true := by
    decide
  simpa [List.all_eq_true, and_assoc] using hall

private theorem isVisible_literals :
    (∀ b ∈ opaqueEnvelopeHttpContentTypeV1, Ascii.isVisible b = true) ∧
      (∀ b ∈ (Text.lit "close").toBytes, Ascii.isVisible b = true) ∧
      opaqueEnvelopeHttpContentTypeV1.length ≤ 128 ∧ (Text.lit "close").toBytes.length ≤ 128 := by
  rw [← List.all_eq_true, ← List.all_eq_true]
  decide

variable {name : String} {value : Bytes}

private theorem isHeadLine_of_mem_headerNames (hname : name ∈ headerNames)
    (hvalue : ∀ b ∈ value, Ascii.isVisible b = true) (hlength : value.length ≤ 128) :
    IsHeadLine (headerLine name value) :=
  isHeadLine_headerLine (token_of_mem_headerNames name hname).2.1 hvalue
    (token_of_mem_headerNames name hname).2.2 hlength

private theorem parse_of_mem_headerNames (hname : name ∈ headerNames)
    (hvalue : ∀ b ∈ value, Ascii.isVisible b = true) :
    parseStrictHeaderLineV1 (headerLine name value) =
      .ok ((Text.lit name).toBytes.map Ascii.toLower, value) :=
  parseStrictHeaderLineV1_headerLine (token_of_mem_headerNames name hname).1
    (token_of_mem_headerNames name hname).2.1 hvalue

private theorem length_decimal_le {n : Nat} (h : n < 2 ^ 64) : (Ascii.decimal n).length ≤ 128 := by
  have hdigits : (Ascii.decimal n).length ≤ 19 + 1 :=
    Ascii.length_decimal_le (Nat.lt_trans h (by decide))
  omega

private theorem length_host_le {host : Text} (h : validateOnionHostnameV1 host = .ok ()) :
    host.toBytes.length ≤ 128 := by
  unfold validateOnionHostnameV1 at h
  by_cases hlen : host.len ≠ onionLabelLen + onionSuffix.length
  · rw [if_pos hlen] at h
    cases h
  · rw [not_not, Text.len] at hlen
    have hbound : onionLabelLen + onionSuffix.length ≤ 128 := by decide
    omega

private theorem isHeadLine_requestLines :
    IsHeadLine ((Text.lit "POST ").toBytes ++ opaqueEnvelopeHttpPathV1 ++
        (Text.lit " HTTP/1.1").toBytes) ∧
      IsHeadLine ((Text.lit "GET ").toBytes ++ electionStatusHttpPathV1 ++
        (Text.lit " HTTP/1.1").toBytes) :=
  ⟨.of_test (by decide), .of_test (by decide)⟩

/-- The lines of a posted envelope. -/
private def postLines (host : Text) (length : Nat) : List Bytes := [
  (Text.lit "POST ").toBytes ++ opaqueEnvelopeHttpPathV1 ++ (Text.lit " HTTP/1.1").toBytes,
  headerLine "Host" host.toBytes,
  headerLine "Content-Type" opaqueEnvelopeHttpContentTypeV1,
  headerLine "Content-Length" (Ascii.decimal length),
  headerLine "Connection" (Text.lit "close").toBytes]

/-- The lines of a status request. -/
private def getLines (host : Text) : List Bytes := [
  (Text.lit "GET ").toBytes ++ electionStatusHttpPathV1 ++ (Text.lit " HTTP/1.1").toBytes,
  headerLine "Host" host.toBytes,
  headerLine "Accept" opaqueEnvelopeHttpContentTypeV1,
  headerLine "Connection" (Text.lit "close").toBytes]

/-- The lines of a response. -/
private def responseLines (code : Nat) (reason : String) (length : Nat) : List Bytes := [
  (Text.lit "HTTP/1.1 ").toBytes ++ Ascii.decimal code ++ (Text.lit " ").toBytes ++
    (Text.lit reason).toBytes,
  headerLine "Content-Type" opaqueEnvelopeHttpContentTypeV1,
  headerLine "Content-Length" (Ascii.decimal length),
  headerLine "Connection" (Text.lit "close").toBytes]

private theorem isHead_postLines {host : Text} (hhost : validateOnionHostnameV1 host = .ok ())
    {length : Nat} (hlength : length < 2 ^ 64) : IsHead (postLines host length) where
  ne_nil := nofun
  length_le := by
    show 5 ≤ 8
    decide
  line := by
    obtain ⟨htype, hclose, htypeLength, hcloseLength⟩ := isVisible_literals
    simp only [postLines, List.forall_mem_cons]
    exact ⟨isHeadLine_requestLines.1,
      isHeadLine_of_mem_headerNames (by decide) (isVisible_of_validateOnionHostnameV1 hhost)
        (length_host_le hhost),
      isHeadLine_of_mem_headerNames (by decide) htype htypeLength,
      isHeadLine_of_mem_headerNames (by decide)
        isVisible_of_mem_decimal (length_decimal_le hlength),
      isHeadLine_of_mem_headerNames (by decide) hclose hcloseLength, nofun⟩

private theorem isHead_getLines {host : Text} (hhost : validateOnionHostnameV1 host = .ok ()) :
    IsHead (getLines host) where
  ne_nil := nofun
  length_le := by
    show 4 ≤ 8
    decide
  line := by
    obtain ⟨htype, hclose, htypeLength, hcloseLength⟩ := isVisible_literals
    simp only [getLines, List.forall_mem_cons]
    exact ⟨isHeadLine_requestLines.2,
      isHeadLine_of_mem_headerNames (by decide) (isVisible_of_validateOnionHostnameV1 hhost)
        (length_host_le hhost),
      isHeadLine_of_mem_headerNames (by decide) htype htypeLength,
      isHeadLine_of_mem_headerNames (by decide) hclose hcloseLength, nofun⟩

private theorem isHead_responseLines {code : Nat} {reason : String}
    (hfirst : IsHeadLine ((Text.lit "HTTP/1.1 ").toBytes ++ Ascii.decimal code ++
      (Text.lit " ").toBytes ++ (Text.lit reason).toBytes)) {length : Nat}
    (hlength : length < 2 ^ 64) : IsHead (responseLines code reason length) where
  ne_nil := nofun
  length_le := by
    show 4 ≤ 8
    decide
  line := by
    obtain ⟨htype, hclose, htypeLength, hcloseLength⟩ := isVisible_literals
    simp only [responseLines, List.forall_mem_cons]
    exact ⟨hfirst, isHeadLine_of_mem_headerNames (by decide) htype htypeLength,
      isHeadLine_of_mem_headerNames (by decide)
        isVisible_of_mem_decimal (length_decimal_le hlength),
      isHeadLine_of_mem_headerNames (by decide) hclose hcloseLength, nofun⟩

/-- In lower case, of the names of both sides only these two are looked at. -/
private theorem lower_headerNames :
    (Text.lit "Content-Length").toBytes.map Ascii.toLower = (Text.lit "content-length").toBytes ∧
      (Text.lit "Content-Type").toBytes.map Ascii.toLower = (Text.lit "content-type").toBytes ∧
      (Text.lit "content-type").toBytes ≠ (Text.lit "content-length").toBytes ∧
      (Text.lit "content-type").toBytes ≠ (Text.lit "transfer-encoding").toBytes ∧
      ∀ name ∈ unreadNames,
        (Text.lit name).toBytes.map Ascii.toLower ≠ (Text.lit "content-length").toBytes ∧
        (Text.lit name).toBytes.map Ascii.toLower ≠ (Text.lit "transfer-encoding").toBytes ∧
        (Text.lit name).toBytes.map Ascii.toLower ≠ (Text.lit "content-type").toBytes := by
  decide

variable {headers : RequestHeaders}

private theorem readRequestHeader_length {n : Nat} (hn : n < 2 ^ 64)
    (hnone : headers.contentLength = none) :
    readRequestHeader headers (headerLine "Content-Length" (Ascii.decimal n)) =
      .ok { headers with contentLength := some n } := by
  rw [readRequestHeader, parse_of_mem_headerNames (by decide) isVisible_of_mem_decimal]
  dsimp only
  rw [if_pos lower_headerNames.1, hnone, Option.isSome_none, if_neg Bool.false_ne_true,
    parseStrictContentLengthV1_decimal hn]

private theorem readRequestHeader_type (hvalue : ∀ b ∈ value, Ascii.isVisible b = true) :
    readRequestHeader headers (headerLine "Content-Type" value) =
      .ok { headers with contentType := some value } := by
  obtain ⟨-, hlower, hlength, hencoding, -⟩ := lower_headerNames
  rw [readRequestHeader, parse_of_mem_headerNames (by decide) hvalue]
  dsimp only
  rw [hlower, if_neg hlength, if_neg hencoding, if_pos rfl]

private theorem readRequestHeader_other (hname : name ∈ unreadNames)
    (hvalue : ∀ b ∈ value, Ascii.isVisible b = true) :
    readRequestHeader headers (headerLine name value) = .ok headers := by
  obtain ⟨hlength, hencoding, htype⟩ := lower_headerNames.2.2.2.2 name hname
  rw [readRequestHeader, parse_of_mem_headerNames (List.mem_append_left _ hname) hvalue]
  dsimp only
  rw [if_neg hlength, if_neg hencoding, if_neg htype]

/-- The collector reads what the voter has written. -/
private theorem parseRequest_postLines {host : Text}
    (hhost : validateOnionHostnameV1 host = .ok ()) {length : Nat} (hlength : length < 2 ^ 64) :
    parseRequest (Ascii.crlf.intercalate (postLines host length)) =
      .ok ⟨⟨some length, some opaqueEnvelopeHttpContentTypeV1, false⟩, (Text.lit "POST").toBytes,
        opaqueEnvelopeHttpPathV1⟩ := by
  obtain ⟨text, htext, hlines⟩ := (isHead_postLines hhost hlength).exists_text
  obtain ⟨htype, hclose, -, -⟩ := isVisible_literals
  have hline : ((Text.lit "POST ").toBytes ++ opaqueEnvelopeHttpPathV1 ++
      (Text.lit " HTTP/1.1").toBytes).splitOn 0x20 =
      [(Text.lit "POST").toBytes, opaqueEnvelopeHttpPathV1, (Text.lit "HTTP/1.1").toBytes] := by
    decide
  rw [parseRequest, htext]
  dsimp only
  rw [hlines, postLines]
  dsimp only
  rw [hline]
  dsimp only
  rw [if_neg fun hversion ↦ hversion.1 rfl]
  simp only [List.foldlM_cons, List.foldlM_nil,
    readRequestHeader_other (show "Host" ∈ unreadNames by decide)
      (isVisible_of_validateOnionHostnameV1 hhost),
    readRequestHeader_type htype, readRequestHeader_length hlength,
    readRequestHeader_other (show "Connection" ∈ unreadNames by decide) hclose,
    bind, Except.bind]
  rfl

private theorem parseRequest_getLines {host : Text}
    (hhost : validateOnionHostnameV1 host = .ok ()) :
    parseRequest (Ascii.crlf.intercalate (getLines host)) =
      .ok ⟨⟨none, none, false⟩, (Text.lit "GET").toBytes, electionStatusHttpPathV1⟩ := by
  obtain ⟨text, htext, hlines⟩ := (isHead_getLines hhost).exists_text
  obtain ⟨htype, hclose, -, -⟩ := isVisible_literals
  have hline : ((Text.lit "GET ").toBytes ++ electionStatusHttpPathV1 ++
      (Text.lit " HTTP/1.1").toBytes).splitOn 0x20 =
      [(Text.lit "GET").toBytes, electionStatusHttpPathV1, (Text.lit "HTTP/1.1").toBytes] := by
    decide
  rw [parseRequest, htext]
  dsimp only
  rw [hlines, getLines]
  dsimp only
  rw [hline]
  dsimp only
  rw [if_neg fun hversion ↦ hversion.1 rfl]
  simp only [List.foldlM_cons, List.foldlM_nil,
    readRequestHeader_other (show "Host" ∈ unreadNames by decide)
      (isVisible_of_validateOnionHostnameV1 hhost),
    readRequestHeader_other (show "Accept" ∈ unreadNames by decide) htype,
    readRequestHeader_other (show "Connection" ∈ unreadNames by decide) hclose,
    bind, Except.bind]
  rfl

private theorem readResponseHeader_length {n : Nat} (hn : n < 2 ^ 64) :
    readResponseHeader none (headerLine "Content-Length" (Ascii.decimal n)) = .ok (some n) := by
  rw [readResponseHeader, parse_of_mem_headerNames (by decide) isVisible_of_mem_decimal]
  dsimp only
  rw [if_pos lower_headerNames.1, Option.isSome_none, if_neg Bool.false_ne_true,
    parseStrictContentLengthV1_decimal hn]

private theorem readResponseHeader_type {length : Option Nat}
    (hvalue : ∀ b ∈ value, Ascii.isVisible b = true) :
    readResponseHeader length (headerLine "Content-Type" value) = .ok length := by
  obtain ⟨-, hlower, hlength, hencoding, -⟩ := lower_headerNames
  rw [readResponseHeader, parse_of_mem_headerNames (by decide) hvalue]
  dsimp only
  rw [hlower, if_neg hlength, if_neg hencoding]

private theorem readResponseHeader_other {length : Option Nat} (hname : name ∈ unreadNames)
    (hvalue : ∀ b ∈ value, Ascii.isVisible b = true) :
    readResponseHeader length (headerLine name value) = .ok length := by
  obtain ⟨hlength, hencoding, -⟩ := lower_headerNames.2.2.2.2 name hname
  rw [readResponseHeader, parse_of_mem_headerNames (List.mem_append_left _ hname) hvalue]
  dsimp only
  rw [if_neg hlength, if_neg hencoding]

private theorem isHeadLine_ok : IsHeadLine ((Text.lit "HTTP/1.1 ").toBytes ++ Ascii.decimal 200 ++
    (Text.lit " ").toBytes ++ (Text.lit "OK").toBytes) :=
  .of_test (by decide)

/-- The client reads the length of an answer, if it is one that it takes. -/
private theorem responseLength_ok {length : Nat} (h : length ≤ maxAuthenticatedReceiptBytes) :
    responseLength (Ascii.crlf.intercalate (responseLines 200 "OK" length)) = .ok length := by
  have hlength : length < 2 ^ 64 := Nat.lt_of_le_of_lt h (by decide)
  obtain ⟨text, htext, hlines⟩ := (isHead_responseLines isHeadLine_ok hlength).exists_text
  obtain ⟨htype, hclose, -, -⟩ := isVisible_literals
  have hstatus : parseStatusLine200 ((Text.lit "HTTP/1.1 ").toBytes ++ Ascii.decimal 200 ++
      (Text.lit " ").toBytes ++ (Text.lit "OK").toBytes) = .ok () := by decide
  rw [responseLength, htext]
  dsimp only
  rw [hlines, responseLines]
  dsimp only
  rw [hstatus]
  simp only [List.foldlM_cons, List.foldlM_nil, readResponseHeader_type htype,
    readResponseHeader_length hlength,
    readResponseHeader_other (show "Connection" ∈ unreadNames by decide) hclose, bind, Except.bind]
  exact if_neg (Nat.not_lt.mpr h)

/-- Every rejection has a status line of its own, and none of them is taken. -/
private theorem rejected_status (rejection : CollectorRejectionV1) :
    IsHeadLine ((Text.lit "HTTP/1.1 ").toBytes ++ Ascii.decimal rejection.status.1 ++
        (Text.lit " ").toBytes ++ (Text.lit rejection.status.2).toBytes) ∧
      parseStatusLine200 ((Text.lit "HTTP/1.1 ").toBytes ++ Ascii.decimal rejection.status.1 ++
        (Text.lit " ").toBytes ++ (Text.lit rejection.status.2).toBytes) =
          .error .privateTransportUnavailable := by
  have hall : ∀ r ∈ [CollectorRejectionV1.badRequest, .notFound, .methodNotAllowed,
      .payloadTooLarge, .unsupportedMediaType, .requestTimeout, .admissionUnavailable, .internal],
      isHeadLine ((Text.lit "HTTP/1.1 ").toBytes ++ Ascii.decimal r.status.1 ++
        (Text.lit " ").toBytes ++ (Text.lit r.status.2).toBytes) = true ∧
      parseStatusLine200 ((Text.lit "HTTP/1.1 ").toBytes ++ Ascii.decimal r.status.1 ++
        (Text.lit " ").toBytes ++ (Text.lit r.status.2).toBytes) =
          .error .privateTransportUnavailable := by
    decide
  obtain ⟨hline, hstatus⟩ := hall rejection (by cases rejection <;> decide)
  exact ⟨.of_test hline, hstatus⟩

private theorem responseLength_rejected (rejection : CollectorRejectionV1) :
    responseLength (Ascii.crlf.intercalate
      (responseLines rejection.status.1 rejection.status.2 0)) =
        .error .privateTransportUnavailable := by
  obtain ⟨hline, hstatus⟩ := rejected_status rejection
  obtain ⟨text, htext, hlines⟩ :=
    (isHead_responseLines hline (show 0 < 2 ^ 64 by decide)).exists_text
  rw [responseLength, htext]
  dsimp only
  rw [hlines, responseLines]
  dsimp only
  rw [hstatus]
  rfl

end Heads

/-! ### One exchange -/

section Exchange

variable {chunks : List (Chunk 512)}

/-- A head whose request is parsed, with what stands behind it in the last piece. -/
private theorem readRequestHead_of_isHead {lines : List Bytes} (h : IsHead lines)
    {request : ParsedRequest}
    (hrequest : parseRequest (Ascii.crlf.intercalate lines) = .ok request) {body : Bytes}
    (hcut : received chunks = messageHead lines ++ body) (later : List CollectorRead) :
    ∃ front left, body = front ++ received left ∧
      readRequestHead (chunks.map .data ++ later) =
        some (.ok ((request, front), left.map .data ++ later)) := by
  obtain ⟨front, left, hbody, hhead⟩ := h.readLoop_messageHead CollectorRead.receive .data
    checkHeadLength .badRequest (fun _ ↦ rfl) (fun b hb ↦ if_neg (Nat.not_lt.mpr hb)) hcut later
  refine ⟨front, left, hbody, ?_⟩
  rw [readRequestHead, reading_bind_ok hhead]
  dsimp only
  rw [take_messageHead, drop_messageHead, hrequest]
  exact reading_bind_ok rfl

private theorem postedLength_of_le {maxBodyBytes length : Nat} (h : length ≤ maxBodyBytes) :
    postedLength maxBodyBytes ⟨⟨some length, some opaqueEnvelopeHttpContentTypeV1, false⟩,
      (Text.lit "POST").toBytes, opaqueEnvelopeHttpPathV1⟩ = .ok length := by
  rw [postedLength, if_neg (not_not.mpr rfl), if_neg (not_not.mpr rfl), if_neg Bool.false_ne_true,
    if_neg (by simp)]
  exact if_neg (Nat.not_lt.mpr h)

/-- A posted envelope leads to one call, with the envelope. -/
theorem readCall_httpPostOpaqueEnvelope {host : Text}
    (hhost : validateOnionHostnameV1 host = .ok ()) {envelope : Bytes}
    (hlength : envelope.length ≤ maxStagedReleaseEnvelopeBytes)
    (hcut : received chunks = httpPostOpaqueEnvelope host envelope) (later : List CollectorRead) :
    readCall maxStagedReleaseEnvelopeBytes (chunks.map .data ++ later) =
      some (.ok (.opaqueEnvelope envelope, later)) := by
  have hsmall : envelope.length < 2 ^ 64 := Nat.lt_of_le_of_lt hlength (by decide)
  obtain ⟨front, left, rfl, hhead⟩ := readRequestHead_of_isHead
    (isHead_postLines hhost hsmall) (parseRequest_postLines hhost hsmall) hcut later
  have hmethod : (Text.lit "POST").toBytes ≠ (Text.lit "GET").toBytes := by decide
  have hfront : checkBodyLength (front ++ received left).length front = .ok () := by
    rw [checkBodyLength, List.length_append]
    exact if_neg (by omega)
  rw [readCall, reading_bind_ok hhead]
  dsimp only
  rw [if_neg hmethod, postedLength_of_le hlength]
  refine (reading_bind_ok rfl).trans ?_
  rw [hfront]
  refine (reading_bind_ok rfl).trans ?_
  refine readLoop_of_all CollectorRead.data (fun body ↦ .ok (HandlerCall.opaqueEnvelope body))
    (fun _ ↦ rfl)
    ?_ ?_ ?_ later
  · intro b _ hlt
    rw [requestBodySettled, if_pos hlt]
  · rw [requestBodySettled, if_neg (Nat.lt_irrefl _)]
  · intro b hb
    exact if_neg (Nat.not_lt.mpr hb.length_le)

/-- So does a request for the status. -/
theorem readCall_httpGetElectionStatus {host : Text}
    (hhost : validateOnionHostnameV1 host = .ok ()) (maxBodyBytes : Nat)
    (hcut : received chunks = httpGetElectionStatus host) (later : List CollectorRead) :
    readCall maxBodyBytes (chunks.map .data ++ later) = some (.ok (.electionStatus, later)) := by
  have hwhole : received chunks = httpGetElectionStatus host ++ [] := by
    rw [List.append_nil, hcut]
  obtain ⟨front, left, hbody, hhead⟩ := readRequestHead_of_isHead (isHead_getLines hhost)
    (parseRequest_getLines hhost) hwhole later
  obtain ⟨rfl, hleft⟩ := List.append_eq_nil_iff.mp hbody.symm
  obtain rfl := eq_nil_of_received hleft
  rw [readCall, reading_bind_ok hhead]
  dsimp only
  rw [if_pos rfl, requestedStatus, if_pos rfl]
  rfl

/-- An answer of the handler comes back to the client. -/
theorem readHttpReceiptResponse_writeResponse {answer : Bytes}
    (hlength : answer.length ≤ maxAuthenticatedReceiptBytes)
    (hcut : received chunks = writeResponse 200 "OK" answer) (later : List ClientRead) :
    readHttpReceiptResponse (chunks.map .data ++ later) = some (.ok (answer, later)) :=
  readHttpReceiptResponse_of_length
    (isHead_responseLines isHeadLine_ok (Nat.lt_of_le_of_lt hlength (by decide)))
    (responseLength_ok hlength) hcut later

/-- A rejection does not. -/
theorem readHttpReceiptResponse_rejected {rejection : CollectorRejectionV1}
    (hcut : received chunks = writeResponse rejection.status.1 rejection.status.2 [])
    (later : List ClientRead) :
    readHttpReceiptResponse (chunks.map .data ++ later) =
      some (.error .privateTransportUnavailable) :=
  readHttpReceiptResponse_of_error
    (isHead_responseLines (rejected_status rejection).1 (by decide))
    (responseLength_rejected rejection) hcut later

/-- A whole exchange: what the handler answers is what the client gets, unless the answer is longer
than a client reads. -/
theorem serveNext_httpPostOpaqueEnvelope {σ : Type} (handler : OpaqueEnvelopeGatewayHandlerV1 σ)
    (state : σ) {host : Text} (hhost : validateOnionHostnameV1 host = .ok ()) {envelope : Bytes}
    (hlength : envelope.length ≤ maxStagedReleaseEnvelopeBytes)
    (hcut : received chunks = httpPostOpaqueEnvelope host envelope) (later : List CollectorRead) :
    serveNext handler state (chunks.map .data ++ later) =
      some (responseTo (handler.handleOpaqueEnvelope state envelope).1,
        (handler.handleOpaqueEnvelope state envelope).1.isOk,
        (handler.handleOpaqueEnvelope state envelope).2) := by
  rw [serveNext, readAndDispatch, readCall_httpPostOpaqueEnvelope hhost hlength hcut later]
  rfl

theorem readHttpReceiptResponse_responseTo {outcome : Except CollectorRejectionV1 Bytes}
    (hfits : ∀ answer, outcome = .ok answer → answer.length ≤ maxAuthenticatedReceiptBytes)
    (hcut : received chunks = responseTo outcome) (later : List ClientRead) :
    readHttpReceiptResponse (chunks.map .data ++ later) =
      some (match outcome with
        | .ok answer => .ok (answer, later)
        | .error _ => .error .privateTransportUnavailable) := by
  cases outcome with
  | ok answer => exact readHttpReceiptResponse_writeResponse (hfits answer rfl) hcut later
  | error rejection => exact readHttpReceiptResponse_rejected hcut later

end Exchange

/-! ### What the gateway answers -/

/-- The bytes of a signed receipt are those of some receipt. -/
theorem exists_receipt_of_signedReceipt {env : CollectorEnvironment}
    {voterReceipt : VoterTransportReceiptV1} {digest : Bytes32} {bytes : Bytes}
    (h : signedReceipt env voterReceipt digest = .ok bytes) :
    ∃ receipt : AuthenticatedTransportReceiptV1, receipt.toCanonicalCbor = .ok bytes := by
  unfold signedReceipt at h
  cases hfingerprint : env.descriptor.fingerprint env.prims.provider with
  | error e =>
    rw [hfingerprint] at h
    cases h
  | ok fingerprint =>
    rw [hfingerprint] at h
    dsimp only at h
    cases hencoded : (AuthenticatedTransportReceiptV1.signForTestOrCeremony voterReceipt fingerprint
        digest none env.receiptKeyId env.sign).toCanonicalCbor with
    | error e =>
      rw [hencoded] at h
      cases h
    | ok encoded =>
      rw [hencoded] at h
      cases h
      exact ⟨_, hencoded⟩

/-- So is every answer to an envelope. -/
theorem exists_receipt_of_handleOpaqueEnvelope {env : CollectorEnvironment} {state : CollectorState}
    {request : CollectorRequest} {bytes : Bytes}
    (h : (state.handleOpaqueEnvelope env request).1 = .ok bytes) :
    ∃ receipt : AuthenticatedTransportReceiptV1, receipt.toCanonicalCbor = .ok bytes := by
  cases hdelivery : request.delivery env state with
  | mk result next =>
    cases result with
    | error e =>
      obtain ⟨rejection, hrejected⟩ := handle_of_delivery_error (by rw [hdelivery])
      rw [hrejected] at h
      cases h
    | ok answer =>
      obtain ⟨voterReceipt, digest⟩ := answer
      obtain ⟨gateway, session⟩ := next
      cases hhand : (request.handOff env state voterReceipt session).1 with
      | error rejection =>
        rw [handle_of_handOff_error hdelivery hhand] at h
        cases h
      | ok u =>
        rw [handle_of_handOff_ok hdelivery hhand] at h
        exact exists_receipt_of_signedReceipt h

/-! ### Voter and collector -/

/-- The client of the voter and the server of the collector understand each other, however the
stream is cut into chunks and whatever comes after it. The server hands a posted envelope and a
status request to the matching handler, once and with the same bytes; the client reads an answer
back as it was written and a rejection as an error. Every receipt and every status statement that
the collector sends fits what the client reads, and decodes as itself. -/
theorem voter_and_collector_agree {σ : Type} (handler : OpaqueEnvelopeGatewayHandlerV1 σ)
    (state : σ) {host : Text} (hhost : validateOnionHostnameV1 host = .ok ()) :
    (∀ (envelope : Bytes) (chunks : List (Chunk 512)) (later : List CollectorRead),
      1 ≤ envelope.length → envelope.length ≤ maxStagedReleaseEnvelopeBytes →
        received chunks = httpPostOpaqueEnvelope host envelope →
          readAndDispatch maxStagedReleaseEnvelopeBytes handler.recording (state, [])
            (chunks.map .data ++ later) =
              some ((handler.handleOpaqueEnvelope state envelope).1,
                (handler.handleOpaqueEnvelope state envelope).2, [.opaqueEnvelope envelope])) ∧
    (∀ (chunks : List (Chunk 512)) (later : List CollectorRead),
      received chunks = httpGetElectionStatus host →
        readAndDispatch maxStagedReleaseEnvelopeBytes handler.recording (state, [])
          (chunks.map .data ++ later) =
            some ((handler.handleElectionStatus state).1, (handler.handleElectionStatus state).2,
              [.electionStatus])) ∧
    (∀ (answer : Bytes) (chunks : List (Chunk 512)) (later : List ClientRead),
      answer.length ≤ maxAuthenticatedReceiptBytes →
        received chunks = writeResponse 200 "OK" answer →
          readHttpReceiptResponse (chunks.map .data ++ later) = some (.ok (answer, later))) ∧
    (∀ (rejection : CollectorRejectionV1) (chunks : List (Chunk 512)) (later : List ClientRead),
      received chunks = writeResponse rejection.status.1 rejection.status.2 [] →
        ∃ e, readHttpReceiptResponse (chunks.map .data ++ later) = some (.error e)) ∧
    (∀ (receipt : AuthenticatedTransportReceiptV1) (bytes : Bytes),
      receipt.toCanonicalCbor = .ok bytes → bytes.length ≤ maxAuthenticatedReceiptBytes ∧
        AuthenticatedTransportReceiptV1.fromCanonicalCbor bytes = .ok receipt) ∧
    (∀ (env : CollectorEnvironment) (collector : CollectorState) (request : CollectorRequest)
      (bytes : Bytes), (collector.handleOpaqueEnvelope env request).1 = .ok bytes →
        bytes.length ≤ maxAuthenticatedReceiptBytes) ∧
    (∀ (statement : AuthenticatedElectionStatusStatementV1) (bytes : Bytes),
      statement.toCanonicalCbor = .ok bytes → bytes.length ≤ maxAuthenticatedReceiptBytes ∧
        AuthenticatedElectionStatusStatementV1.fromCanonicalCbor bytes = .ok statement) := by
  refine ⟨?_, ?_, ?_, ?_, ?_, ?_, ?_⟩
  · intro envelope chunks later _ hlength hcut
    rw [readAndDispatch, readCall_httpPostOpaqueEnvelope hhost hlength hcut later]
    rfl
  · intro chunks later hcut
    rw [readAndDispatch, readCall_httpGetElectionStatus hhost _ hcut later]
    rfl
  · intro answer chunks later hlength hcut
    exact readHttpReceiptResponse_writeResponse hlength hcut later
  · intro rejection chunks later hcut
    exact ⟨_, readHttpReceiptResponse_rejected hcut later⟩
  · intro receipt bytes h
    exact ⟨AuthenticatedTransportReceiptV1.length_le_of_toCanonicalCbor h,
      AuthenticatedTransportReceiptV1.fromCanonicalCbor_toCanonicalCbor h⟩
  · intro env collector request bytes h
    obtain ⟨receipt, hreceipt⟩ := exists_receipt_of_handleOpaqueEnvelope h
    exact AuthenticatedTransportReceiptV1.length_le_of_toCanonicalCbor hreceipt
  · intro statement bytes h
    have hlength := AuthenticatedElectionStatusStatementV1.length_toCanonicalCbor h
    refine ⟨?_, AuthenticatedElectionStatusStatementV1.fromCanonicalCbor_toCanonicalCbor h⟩
    rw [maxAuthenticatedReceiptBytes]
    omega

namespace Sample

/-- An onion address. -/
def host : Text := .lit "aaaaaaaaaaaaaaaaaaaaaaaaaaaaaaaaaaaaaaaaaaaaaaaaaaaaaaaa.onion"

/-- A handler that answers an envelope with its bytes. -/
def echo : OpaqueEnvelopeGatewayHandlerV1 Nat where
  handleOpaqueEnvelope calls envelope := (.ok envelope, calls + 1)
  handleElectionStatus calls := (.error .notFound, calls)

/-- Bytes that arrive one by one. -/
def oneByOne (bytes : Bytes) : List (Chunk 512) :=
  bytes.map fun b ↦ ⟨[b], singleton_ne_nil b, Nat.le_add_left 1 511⟩

theorem received_oneByOne (bytes : Bytes) : received (oneByOne bytes) = bytes := by
  induction bytes with
  | nil => rfl
  | cons b rest ih => exact congrArg (b :: ·) ih

end Sample

theorem voter_and_collector_agree_sample :
    readAndDispatch maxStagedReleaseEnvelopeBytes Sample.echo.recording (0, [])
        ((Sample.oneByOne (httpPostOpaqueEnvelope Sample.host [1, 2, 3])).map .data ++ []) =
          some (.ok [1, 2, 3], 1, [.opaqueEnvelope [1, 2, 3]]) ∧
      readHttpReceiptResponse ((Sample.oneByOne (writeResponse 200 "OK" [1, 2, 3])).map .data ++
        []) = some (.ok ([1, 2, 3], [])) := by
  have hhost : validateOnionHostnameV1 Sample.host = .ok () := by decide
  obtain ⟨hpost, -, hresponse, -⟩ := voter_and_collector_agree Sample.echo 0 hhost
  exact ⟨hpost [1, 2, 3] _ [] (by decide) (by decide) (Sample.received_oneByOne _),
    hresponse [1, 2, 3] _ [] (by decide) (Sample.received_oneByOne _)⟩

end PrivateBallot.TransportGateway
