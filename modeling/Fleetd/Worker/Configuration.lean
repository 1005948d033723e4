import Fleetd.Controller.ManagedTurn

/-!
# The configuration of a worker

What a seat is started with: the deadlines and bounds that are checked before anything runs, and
the adapter that turns messages into prompts. An adapter that was built carries the checks of its
builder.
-/

namespace Fleetd.Worker

open Harness

def maxLeaseDurationMs : Nat := 3600000
def maxPollIntervalMs : Nat := 60000
def maxRetryDelayMs : Nat := 86400000
def leaseMarginMs : Nat := 60000
def maxAcceptedMessageKinds : Nat := 128
def maxMessageKindBytes : Nat := 256
def maxStandingInstructionsBytes : Nat := 32 * 1024

/-! ## Acceptance -/

/-- The kinds of messages a seat may reserve. -/
structure InboundAcceptance where
  schemaVersion : Nat
  messageKinds : List String
  nonempty : messageKinds ≠ []
  bounded : messageKinds.length ≤ maxAcceptedMessageKinds
  exact : messageKinds.Nodup

/-- The first problem with some kinds, after others. -/
def kindProblem : List String → List String → Option String
  | _, [] => none
  | seen, kind :: rest =>
    if isBlank kind = true ∨ maxMessageKindBytes < byteLen kind then
      some s!"accepted message kind must contain between 1 and {maxMessageKindBytes} bytes"
    else if kind ∈ seen then some s!"duplicate accepted message kind {kind}"
    else kindProblem (kind :: seen) rest

/-- Kinds without a problem are distinct. -/
theorem nodup_of_kindProblem {seen kinds : List String} (h : kindProblem seen kinds = none) :
    kinds.Nodup ∧ ∀ kind ∈ kinds, kind ∉ seen := by
  induction kinds generalizing seen with
  | nil => exact ⟨List.nodup_nil, fun _ hk => absurd hk List.not_mem_nil⟩
  | cons kind rest ih =>
    rw [kindProblem] at h
    split at h
    · cases h
    · split at h
      · cases h
      · rename_i hnew
        obtain ⟨hrest, hfresh⟩ := ih h
        refine ⟨List.nodup_cons.2 ⟨fun hmem => ?_, hrest⟩, fun other hother => ?_⟩
        · exact hfresh kind hmem List.mem_cons_self
        · obtain rfl | hother := List.mem_cons.1 hother
          · exact hnew
          · exact fun hseen => hfresh other hother (List.mem_cons_of_mem kind hseen)

/-- Accepts exactly some kinds. -/
def InboundAcceptance.exactV1 (kinds : List String) : Except String InboundAcceptance :=
  if hnonempty : kinds = [] then
    .error "inbound acceptance must contain at least one message kind"
  else if hbounded : maxAcceptedMessageKinds < kinds.length then
    .error s!"inbound acceptance exceeds {maxAcceptedMessageKinds} message kinds"
  else
    match hproblem : kindProblem [] kinds with
    | some problem => .error problem
    | none => .ok {
        schemaVersion := 1
        messageKinds := kinds
        nonempty := hnonempty
        bounded := Nat.le_of_not_lt hbounded
        exact := (nodup_of_kindProblem hproblem).1 }

/-! ## The adapter -/

/-- The bridge that supplies the complete envelope of a message as JSON. -/
structure EnvelopeTurnAdapter where
  resultKind : String
  inboundAcceptance : InboundAcceptance
  standingInstructions : Option String
  resultKindGiven : isBlank resultKind = false
  resultKindBounded : byteLen resultKind ≤ maxMessageKindBytes
  standingBounded : ∀ text ∈ standingInstructions, byteLen text ≤ maxStandingInstructionsBytes

/-- An adapter with exact inbound kinds. -/
def EnvelopeTurnAdapter.new (resultKind : String) (kinds : List String) :
    Except String EnvelopeTurnAdapter :=
  if h : isBlank resultKind = true ∨ maxMessageKindBytes < byteLen resultKind then
    .error s!"result kind must contain between 1 and {maxMessageKindBytes} bytes"
  else do
    let inboundAcceptance ← InboundAcceptance.exactV1 kinds
    .ok {
      resultKind
      inboundAcceptance
      standingInstructions := none
      resultKindGiven := Bool.eq_false_of_not_eq_true fun hblank => h (.inl hblank)
      resultKindBounded := Nat.le_of_not_lt fun hlong => h (.inr hlong)
      standingBounded := fun _ hnone => nomatch hnone }

/-- Adds the standing instructions of an agent; blank ones are dropped. -/
def EnvelopeTurnAdapter.withStandingInstructions (adapter : EnvelopeTurnAdapter)
    (instructions : String) : Except String EnvelopeTurnAdapter :=
  if h : maxStandingInstructionsBytes < byteLen instructions then
    .error s!"standing instructions must not exceed {maxStandingInstructionsBytes} bytes"
  else .ok { adapter with
    standingInstructions := if isBlank instructions = true then none else some instructions
    standingBounded := by
      intro text htext
      split at htext
      · cases htext
      · cases htext
        exact Nat.le_of_not_lt h }

/-! ## The seat -/

/-- A span of time, in nanoseconds. -/
abbrev Duration := Nat

/-- The milliseconds of a span, if they fit an unsigned 64-bit integer. -/
def durationMs (duration : Duration) : Option Nat :=
  if duration / 1000000 ≤ u64Max then some (duration / 1000000) else none

/-- A directory with what the file system says of it. -/
structure Directory where
  path : String
  isAbsolute : Bool
  isDir : Bool
  deriving DecidableEq, Repr

/-- What a seat is started with. Grants of a turn are counted. -/
structure ContinuousWorkerConfig where
  agentId : String
  sandboxProfileDigest : Option String
  workingDirectory : Directory
  additionalDirectories : List Directory
  mcpGrants : List String
  turnGrants : Nat
  compatibilityDigest : Option String
  leaseDuration : Duration
  pollInterval : Duration
  interruptPollInterval : Duration
  restartBackoff : Duration
  preArmRetryDelay : Duration
  turnPolicy : TurnPolicy
  permissionPolicy : PermissionPolicy
  trajectorySink : Bool
  deriving DecidableEq, Repr

/-- The grant that publishes durable messages. -/
def publishDurableMessageGrant : String := "fleet.messaging.send"

def validateDirectory (label : String) (directory : Directory) : Except String Unit :=
  if directory.isAbsolute = false ∨ directory.isDir = false then
    .error (label ++ " must be an existing absolute directory: " ++ directory.path)
  else .ok ()

def validateDirectories (label : String) : List Directory → Except String Unit
  | [] => .ok ()
  | directory :: rest => do
    validateDirectory label directory
    validateDirectories label rest

/-- Only the one known grant may be asked for, and only once. -/
def validateMcpGrants : List String → List String → Except String Unit
  | _, [] => .ok ()
  | seen, grant :: rest =>
    if grant ≠ publishDurableMessageGrant then .error ("unsupported MCP grant: " ++ grant)
    else if grant ∈ seen then .error ("duplicate MCP grant: " ++ grant)
    else validateMcpGrants (grant :: seen) rest

/-- A duration that fits. -/
def requireMs (duration : Duration) (message : String) : Except String Nat :=
  match durationMs duration with
  | some ms => .ok ms
  | none => .error message

/-- A condition that a configuration must meet. -/
def require (condition : Prop) [Decidable condition] (message : String) : Except String Unit :=
  if condition then .ok () else .error message

/-- The checks of a configuration. -/
def validateConfig (config : ContinuousWorkerConfig) : Except String Unit := do
  require (isBlank config.agentId = false ∧ byteLen config.agentId ≤ 256)
    "agent ID must contain between 1 and 256 bytes"
  validateDirectory "working directory" config.workingDirectory
  validateDirectories "additional directory" config.additionalDirectories
  validateMcpGrants [] config.mcpGrants
  require (∀ digest ∈ config.compatibilityDigest, isBlank digest = false)
    "compatibility digest must not be empty when supplied"
  require (¬ (config.permissionPolicy = .allowOnce ∧ config.sandboxProfileDigest = none))
    "allow_once permission policy requires an OS-sandboxed plugin process"
  require (config.pollInterval ≠ 0 ∧ config.interruptPollInterval ≠ 0 ∧ config.restartBackoff ≠ 0)
    "poll interval, interruption poll interval, and restart backoff must be greater than zero"
  let pollMs ← requireMs config.pollInterval "poll interval is too large"
  let restartMs ← requireMs config.restartBackoff "restart backoff is too large"
  let interruptPollMs ← requireMs config.interruptPollInterval "interruption poll interval is too large"
  require (pollMs ≤ maxPollIntervalMs) "poll interval must not exceed 60,000 milliseconds"
  require (interruptPollMs ≤ maxPollIntervalMs)
    "interruption poll interval must not exceed 60,000 milliseconds"
  require (restartMs ≤ maxRetryDelayMs) "restart backoff must not exceed 86,400,000 milliseconds"
  let leaseMs ← requireMs config.leaseDuration "lease duration is too large"
  let retryMs ← requireMs config.preArmRetryDelay "retry delay is too large"
  require (0 < leaseMs ∧ leaseMs ≤ maxLeaseDurationMs)
    "lease duration must be between 1 and 3,600,000 milliseconds"
  require (retryMs ≤ maxRetryDelayMs) "pre-arm retry delay must not exceed 86,400,000 milliseconds"
  let policy := config.turnPolicy
  let requiredLease := policy.wallTimeoutMs + policy.cancelDrainTimeoutMs + leaseMarginMs
  require (requiredLease ≤ u64Max) "turn deadline bounds overflow"
  require (requiredLease ≤ leaseMs)
    s!"lease duration must cover wall timeout, cancel drain, and {leaseMarginMs}ms margin ({requiredLease}ms required)"
  require (policy.idleTimeoutMs ≠ 0 ∧ policy.wallTimeoutMs ≠ 0 ∧ policy.cancelDrainTimeoutMs ≠ 0 ∧
      policy.maxCapturedOutputBytes ≠ 0 ∧ policy.maxCapturedOutputBytes ≤ maxCaptureBytes ∧
      policy.permissionPolicy = "controller" ∧ policy.toolBudget.limit ≠ 0 ∧
      policy.toolBudget.requiredEnforcement = "observe_then_cancel" ∧ policy.tokenBudget = none)
    "turn policy requests unsupported or unbounded enforcement"

theorem require_ok {condition : Prop} [Decidable condition] {message : String} {u : Unit} :
    Worker.require condition message = .ok u ↔ condition := by
  unfold Worker.require
  split <;> simp_all

theorem requireMs_ok {duration : Duration} {message : String} {ms : Nat} :
    requireMs duration message = .ok ms ↔ durationMs duration = some ms := by
  unfold requireMs
  split <;> simp_all

end Fleetd.Worker
