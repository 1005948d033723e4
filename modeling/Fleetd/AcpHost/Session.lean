import Fleetd.AcpHost.Turn

/-!
# Sessions and transcripts

Opening and closing one native session, and starting a replay of its stored conversation. What the
driver asks of the inner runtime is answered from outside; the parsers of URLs and HTTP headers
are parameters.
-/

namespace Fleetd.AcpHost

open Serde (Value)
open Harness

/-! ## Requests -/

structure ResolvedMcpHttpHeader where
  name : String
  value : String
  deriving DecidableEq, Repr

/-- One controller-approved endpoint, reached over HTTP. -/
structure ResolvedMcpGrant where
  name : String
  url : String
  headers : List ResolvedMcpHttpHeader
  deriving DecidableEq, Repr

inductive OpenSessionMode
  | create
  | resume (sessionRef : String)
  deriving DecidableEq, Repr

/-- Creates or resumes a native session. -/
structure OpenSession where
  binding : Binding
  mode : OpenSessionMode
  workingDirectory : String
  additionalDirectories : List String
  mcpGrants : List String
  resolvedMcpGrants : List ResolvedMcpGrant
  profileDigest : String
  deriving DecidableEq, Repr

structure CloseSession where
  binding : Binding
  sessionRef : String
  deriving DecidableEq, Repr

structure StartTranscript where
  binding : Binding
  sessionRef : String
  deriving DecidableEq, Repr

/-- What the inner runtime can do about existing sessions. -/
structure AdoptionMethods where
  load : Bool
  resume : Bool
  additionalDirectories : Bool
  deriving DecidableEq, Repr

/-- The method that adopts an existing session. -/
def AdoptionMethods.method (adoption : AdoptionMethods) : Option String :=
  if adoption.resume = true then some "session/resume"
  else if adoption.load = true then some "session/load"
  else none

/-! ## Endpoints -/

/-- The parts of a URL that are looked at. -/
structure ParsedUrl where
  scheme : String
  host : Option String
  port : Option Nat
  username : String
  password : Option String
  query : Option String
  fragment : Option String
  deriving DecidableEq, Repr

/-- The parsers of URLs and of HTTP headers. A header name is parsed to its canonical text. -/
class HttpSyntax where
  parseUrl : String → Option ParsedUrl
  headerName : String → Option String
  headerValue : String → Bool

section
variable [HttpSyntax]

def validateLoopbackMcpUrl (raw : String) : Except DriverError Unit :=
  match HttpSyntax.parseUrl raw with
  | none => .error (.protocol "resolved MCP URL is invalid")
  | some url =>
    if url.scheme ≠ "http" ∨ url.host ≠ some "127.0.0.1" ∨ url.port = none ∨ url.username ≠ "" ∨
        url.password ≠ none ∨ url.query ≠ none ∨ url.fragment ≠ none then
      .error (.protocol
        "resolved MCP URL must be an explicit 127.0.0.1 HTTP endpoint without credentials, query, or fragment")
    else .ok ()

/-- The names of the requested grants, each of them once. -/
def requestedGrants : List String → List String → Except DriverError (List String)
  | requested, [] => .ok requested
  | requested, name :: names =>
    if isBlank name = true ∨ byteLen name > 256 then
      .error (.protocol "MCP grant names must contain between 1 and 256 bytes")
    else if name ∈ requested then .error (.protocol s!"duplicate MCP grant name: {name}")
    else requestedGrants (requested ++ [name]) names

/-- The resolved grants, each of them requested and given once. -/
def resolvedGrants (requested : List String) :
    List ResolvedMcpGrant → List ResolvedMcpGrant → Except DriverError (List ResolvedMcpGrant)
  | resolved, [] => .ok resolved
  | resolved, grant :: grants =>
    if grant.name ∉ requested then
      .error (.protocol s!"resolved MCP endpoint was not requested: {grant.name}")
    else if grant.name ∈ resolved.map (·.name) then
      .error (.protocol s!"duplicate resolved MCP grant: {grant.name}")
    else resolvedGrants requested (resolved ++ [grant]) grants

/-- The headers of an endpoint, after the names that were seen before. -/
def validateHeaders : List String → List ResolvedMcpHttpHeader → Except DriverError Unit
  | _, [] => .ok ()
  | names, header :: headers =>
    match HttpSyntax.headerName header.name with
    | none => .error (.protocol "invalid MCP HTTP header name")
    | some name =>
      if HttpSyntax.headerValue header.value = false then
        .error (.protocol "invalid MCP HTTP header value")
      else if byteLen header.value > 4096 then
        .error (.protocol "MCP HTTP header values must not exceed 4,096 bytes")
      else if name ∈ names then .error (.protocol "duplicate MCP HTTP header name")
      else validateHeaders (name :: names) headers

/-- The server entry of one grant. -/
def mcpServer (grant : ResolvedMcpGrant) : Except DriverError Value := do
  validateLoopbackMcpUrl grant.url
  if grant.headers.length > 16 then
    .error (.protocol "resolved MCP HTTP endpoints may have at most 16 headers")
  else do
    validateHeaders [] grant.headers
    .ok (.object [
      ("type", .string "http"),
      ("name", .string grant.name),
      ("url", .string grant.url),
      ("headers", .array (grant.headers.map fun header =>
        .object [("name", .string header.name), ("value", .string header.value)]))])

def resolveMcpServers (request : OpenSession) : Except DriverError (List Value) := do
  let requested ← requestedGrants [] request.mcpGrants
  let resolved ← resolvedGrants requested [] request.resolvedMcpGrants
  if requested.length ≠ resolved.length then
    .error (.protocol "every requested MCP grant must have one resolved endpoint")
  else request.mcpGrants.filterMapM fun name =>
    match resolved.find? fun grant => grant.name = name with
    | some grant => some <$> mcpServer grant
    | none => pure none

/-! ## Opening and closing -/

/-- Refuses a session whose declared workspace roots the runtime cannot honour. -/
def requireSupportedDirectories (request : OpenSession) (adoption : AdoptionMethods) :
    Except DriverError Unit :=
  if request.additionalDirectories = [] ∨ adoption.additionalDirectories = true then .ok ()
  else .error (.protocol
    s!"runtime does not advertise sessionCapabilities.additionalDirectories, so it cannot honour the {request.additionalDirectories.length} additional workspace root(s) this seat declares")

/-- The checks of an open request before the runtime is asked. -/
def prepareOpen (profileDigest : String) (adoption : AdoptionMethods) (request : OpenSession) :
    Except DriverError (List Value) :=
  if request.profileDigest ≠ profileDigest then
    .error (.protocol "session profile digest does not match active profile")
  else do
    let servers ← resolveMcpServers request
    requireSupportedDirectories request adoption
    match request.mode, adoption.method with
    | .resume _, none =>
      .error (.protocol "inner ACP runtime supports neither session/resume nor session/load")
    | _, _ => .ok servers

end

/-- The session that the runtime answered with. -/
def openedSessionRef (request : OpenSession) (response : Value) : Except DriverError String :=
  match request.mode with
  | .create =>
    match response.getStr "sessionId" with
    | some sessionRef => .ok sessionRef
    | none => .error (.protocol "session/new omitted sessionId")
  | .resume sessionRef => .ok sessionRef

/-- Whether an open request fits the session that is there already. -/
def SessionState.compatible (session : SessionState) (request : OpenSession) : Bool :=
  decide (session.binding = request.binding) && decide (session.cwd = request.workingDirectory) &&
    decide (session.additionalDirectories = request.additionalDirectories) &&
    decide (session.mcpGrants = request.mcpGrants)

/-- The record of a session that was just opened. -/
def SessionState.opened (request : OpenSession) : SessionState where
  binding := request.binding
  cwd := request.workingDirectory
  additionalDirectories := request.additionalDirectories
  mcpGrants := request.mcpGrants
  active := none
  capturing := none

/-- The part of `open_session` after the runtime has answered. -/
def openSession (request : OpenSession) (answer : Except String Value) (shared : SharedState) :
    Except DriverError (String × SharedState) :=
  match answer with
  | .error message => .error (.runtime message)
  | .ok response => do
    let sessionRef ← openedSessionRef request response
    let opened := (sessionRef, { shared with
      sessions := shared.sessions.insert sessionRef (.opened request) })
    match shared.sessions.lookup sessionRef with
    | some existing =>
      if existing.compatible request = true then .ok opened
      else .error (.protocol "session reference already belongs to incompatible binding state")
    | none => .ok opened

def closeSession (request : CloseSession) (shared : SharedState) :
    Except DriverError SharedState :=
  match shared.sessions.lookup request.sessionRef with
  | none => .error (.protocol "session reference is not owned by driver")
  | some session =>
    if session.active.isSome = true then
      .error (.protocol "cannot close a session with an active turn")
    else if session.binding ≠ request.binding then
      .error (.protocol "session close fence does not match binding")
    else .ok { shared with sessions := shared.sessions.erase request.sessionRef }

/-! ## Transcripts -/

/-- The totals of a replay that has just started. -/
def TranscriptCapture.start (replay : Nat) : TranscriptCapture where
  nextEntrySeq := 1
  entryCount := 0
  observedPayloadBytes := 0
  truncated := false
  replay

/-- Starts a replay whose task has the given number. -/
def startTranscript (adoption : AdoptionMethods) (request : StartTranscript) (replay : Nat)
    (shared : SharedState) : Except DriverError SharedState :=
  if adoption.load = false then
    .error (.protocol
      "inner ACP runtime does not support session/load, so it cannot replay a transcript")
  else
    match shared.sessions.lookup request.sessionRef with
    | none => .error (.protocol "transcript requested for an unopened session")
    | some session =>
      if session.binding ≠ request.binding then
        .error (.protocol "transcript requested under a binding that does not own this session")
      else if session.active.isSome = true then
        .error (.protocol "transcript cannot be replayed while a turn is active on this session")
      else if session.capturing.isSome = true then
        .error (.protocol "a transcript replay is already in flight for this session")
      else
        .ok { shared with
          sessions := shared.sessions.insert request.sessionRef
            { session with capturing := some (.start replay) } }

/-- A diagnostic of the runtime, cut to a bound. -/
def boundedReason (reason : String) : String := truncateUtf8 1024 reason

/-- The part of a replay that takes its totals under the lock, once the runtime has answered. -/
def completeTranscript (sessionRef : String) (failure : Option String) (shared : SharedState) :
    TranscriptComplete × SharedState :=
  match shared.sessions.lookup sessionRef with
  | some session =>
    match session.capturing with
    | some capture =>
      (⟨sessionRef, capture.entryCount, capture.observedPayloadBytes, capture.truncated,
          failure.map boundedReason⟩,
        { shared with
          sessions := shared.sessions.insert sessionRef { session with capturing := none } })
    | none => (⟨sessionRef, 0, 0, false, failure.map boundedReason⟩, shared)
  | none => (⟨sessionRef, 0, 0, false, failure.map boundedReason⟩, shared)

end Fleetd.AcpHost
