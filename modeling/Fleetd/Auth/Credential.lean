import Mathlib.Logic.Function.Basic
import Fleetd.Relational.Revocation
import Fleetd.Execution.Trigger
import Fleetd.Kernel.Channel
import Fleetd.Stream.GrantBroker

/-!
# Credentials

Operators, agents and triggers authenticate with bearer tokens, of which only a digest is stored.
Each transaction, each read outside of one and each access to the operator's token file is one step;
a call that goes on after its step is kept among the calls in flight. The tokens that were handed out
are recorded beside the state, and so is nothing else that the database does not hold.
-/

namespace Fleetd.Auth

open Relational Relational.Transaction

/-! ## Tokens -/

def operatorTokenPrefix : String := "fl_op_"
def agentTokenPrefix : String := "fl_ag_"
def triggerTokenPrefix : String := "fl_tr_"
def tokenBytes : Nat := 32
def maxTokenLength : Nat := 128

inductive AuthError
  | fleet (error : FleetError)
  | unauthorized
  | credential (message : String)
  deriving DecidableEq, Repr

structure IssuedCredential where
  id : String
  token : String
  createdAtMs : Int
  deriving DecidableEq, Repr

/-- The random bytes of a token, or why there are none. -/
abbrev Entropy := Except String (List UInt8)

/-- `str::trim`. -/
def trim (text : String) : String :=
  String.ofList ((text.toList.dropWhile isWhiteSpace).reverse.dropWhile isWhiteSpace).reverse

section Tokens

variable [UrlSafeNoPad] [Sha256]

omit [Sha256] in
def generateToken (start : String) (entropy : Entropy) : Except AuthError String :=
  match entropy with
  | .error error => .error (.credential s!"secure entropy unavailable: {error}")
  | .ok bytes => .ok (start ++ UrlSafeNoPad.encode bytes)

def issueCredential (id start : String) (entropy : Entropy) (now : Int) :
    Except AuthError IssuedCredential := do
  let token ← generateToken start entropy
  pure { id := id, token := token, createdAtMs := now }

/-- The stored form of a token. -/
def tokenDigest (token : String) : String := Sha256.hexDigest (utf8Bytes token)

/-- A token that was read back has the form of an issued one. -/
def validateToken (token start source : String) : Except AuthError Unit :=
  if byteLen token > maxTokenLength then
    .error (.credential s!"{source} contains an invalid credential")
  else
    match stripStart start token with
    | none => .error (.credential s!"{source} contains an invalid credential")
    | some encoded =>
      match UrlSafeNoPad.decode encoded with
      | none => .error (.credential s!"{source} contains invalid encoding")
      | some decoded =>
        if decoded.length = tokenBytes then .ok ()
        else .error (.credential s!"{source} contains invalid entropy")

end Tokens

/-! ## Rows -/

/-- What a credential authenticates; the table admits no other combination of its columns. -/
inductive CredentialBinding
  | operator
  | agent (agentId : String)
  | trigger (triggerId : String)
  deriving DecidableEq, Repr

/-- A row of `auth_credentials`. -/
structure AuthCredential where
  id : String
  binding : CredentialBinding
  tokenDigest : String
  createdAtMs : Int
  revokedAtMs : Option Int
  deriving DecidableEq, Repr

def AuthCredential.isActive (credential : AuthCredential) : Bool := credential.revokedAtMs.isNone

def AuthCredential.revoke (now : Int) (credential : AuthCredential) : AuthCredential :=
  { credential with revokedAtMs := some now }

inductive Principal
  | operator (credentialId : String)
  | agent (credentialId agentId : String)
  | trigger (credentialId triggerId : String)
  deriving DecidableEq, Repr

def principalFromRow (row : AuthCredential) : Principal :=
  match row.binding with
  | .operator => .operator row.id
  | .agent agentId => .agent row.id agentId
  | .trigger triggerId => .trigger row.id triggerId

def Principal.credentialId : Principal → String
  | .operator credentialId | .agent credentialId _ | .trigger credentialId _ => credentialId

/-- A call that goes on after its first step. -/
inductive AuthCall
  | rotatingTrigger (triggerId : String) (issued : IssuedCredential)
  | readingOperator (tokenPath token : String)
  | rotatingOperator (token : String)
  deriving DecidableEq, Repr

structure AuthState where
  store : Store
  credentials : List AuthCredential
  files : String → Option String
  calls : List AuthCall
  issued : List (String × String)

def AuthState.init : AuthState where
  store := Store.empty
  credentials := []
  files := fun _ => none
  calls := []
  issued := []

abbrev AuthTx (α : Type) := Transaction AuthState AuthError α

/-- A statement on the other tables within a transaction. -/
def inStore {α : Type} (x : Tx α) : AuthTx α := fun s =>
  match x s.store with
  | .ok (a, store) => .ok (a, { s with store := store })
  | .error error => .error (.fleet error)

/-- What a binding refers to is there. -/
def AuthState.Refers (s : AuthState) : CredentialBinding → Prop
  | .operator => True
  | .agent agentId => ∃ a ∈ s.store.agents, a.id = agentId
  | .trigger triggerId => ∃ t ∈ s.store.triggers, t.id = triggerId

instance (s : AuthState) (binding : CredentialBinding) : Decidable (s.Refers binding) :=
  match binding with
  | .operator => inferInstanceAs (Decidable True)
  | .agent agentId => inferInstanceAs (Decidable (∃ a ∈ s.store.agents, a.id = agentId))
  | .trigger triggerId => inferInstanceAs (Decidable (∃ t ∈ s.store.triggers, t.id = triggerId))

def getTrigger (triggerId : String) : AuthTx Trigger := inStore (triggerInTransaction triggerId)

/-- Revokes every active credential of a binding. -/
def revokeCredentials (binding : CredentialBinding) (now : Int) : AuthTx Unit :=
  write fun s => ((), { s with
    credentials := endLive AuthCredential.binding AuthCredential.isActive (AuthCredential.revoke now)
      binding s.credentials })

section Calls

variable [Sha256]

def AuthCredential.new (binding : CredentialBinding) (issued : IssuedCredential) : AuthCredential where
  id := issued.id
  binding := binding
  tokenDigest := Auth.tokenDigest issued.token
  createdAtMs := issued.createdAtMs
  revokedAtMs := none

def insertCredential (binding : CredentialBinding) (issued : IssuedCredential) : AuthTx Unit := do
  let s ← read id
  ensure (∀ c ∈ s.credentials, c.id ≠ issued.id ∧ c.tokenDigest ≠ tokenDigest issued.token)
    (.fleet (.database "UNIQUE constraint failed"))
  ensure (s.Refers binding) (.fleet (.database "FOREIGN KEY constraint failed"))
  write fun s => ((), { s with
    credentials := s.credentials ++ [AuthCredential.new binding issued]
    issued := s.issued ++ [(issued.id, issued.token)] })

/-! ## Authentication -/

def authenticate (token : String) (s : AuthState) : Except AuthError Principal :=
  if token = "" ∨ byteLen token > maxTokenLength then .error .unauthorized
  else
    match s.credentials.find? fun c => decide (c.tokenDigest = tokenDigest token) && c.isActive with
    | none => .error .unauthorized
    | some row => .ok (principalFromRow row)

omit [Sha256] in
def revalidatePrincipal (expected : Principal) (s : AuthState) : Bool :=
  match s.credentials.find? fun c => decide (c.id = expected.credentialId) && c.isActive with
  | none => false
  | some row => decide (principalFromRow row = expected)

variable [UrlSafeNoPad]

/-! ## Agents -/

def registerAgent (agentId name issuedId : String) (entropy : Entropy) (now : Int) :
    AuthTx (Agent × IssuedCredential) := do
  inStore (check (validateName "agent" name))
  let issued ← check (issueCredential issuedId agentTokenPrefix entropy now)
  let agent ← inStore (createAgent agentId name issued.createdAtMs)
  insertCredential (.agent agent.id) issued
  pure (agent, issued)

def rotateAgentCredential (agentId issuedId : String) (entropy : Entropy) (now : Int) :
    AuthTx IssuedCredential := do
  let issued ← check (issueCredential issuedId agentTokenPrefix entropy now)
  let s ← read id
  ensure (∃ a ∈ s.store.agents, a.id = agentId) (.fleet (.notFound "agent" agentId))
  revokeCredentials (.agent agentId) issued.createdAtMs
  insertCredential (.agent agentId) issued
  pure issued

/-! ## Triggers -/

def registerTrigger (triggerId : String) (input : RegisterTrigger) (issuedId : String)
    (entropy : Entropy) (now : Int) : AuthTx (Trigger × IssuedCredential) := do
  let issued ← check (issueCredential issuedId triggerTokenPrefix entropy now)
  let trigger ← inStore (Fleetd.registerTrigger triggerId input issued.createdAtMs)
  insertCredential (.trigger trigger.id) issued
  pure (trigger, issued)

omit [Sha256] [UrlSafeNoPad] in
/-- Retires a trigger and revokes what could fire it; it is read back after the commit. -/
def retireTrigger (triggerId reason : String) (now : Int) : AuthTx Unit := do
  ensure (¬ (isBlank reason = true ∨ byteLen reason > maxRetirementReasonBytes))
    (.fleet (.invalid
      s!"a retirement reason must contain between 1 and {maxRetirementReasonBytes} bytes"))
  let moved ← read fun s => s.store.triggers.any fun t =>
    decide (t.id = triggerId) && decide (t.state = .active)
  inStore (retireTriggerRow triggerId reason now)
  if moved then revokeCredentials (.trigger triggerId) now else pure ()

/-- Reads the trigger outside of the transaction that replaces its credential. -/
def rotateTriggerCredential (triggerId issuedId : String) (entropy : Entropy) (now : Int) :
    AuthTx Unit := do
  let issued ← check (issueCredential issuedId triggerTokenPrefix entropy now)
  let trigger ← getTrigger triggerId
  ensure (trigger.state = .active)
    (.fleet (.conflict s!"trigger {triggerId} is retired and cannot hold a credential"))
  write fun s => ((), { s with calls := s.calls ++ [.rotatingTrigger triggerId issued] })

omit [UrlSafeNoPad] in
def replaceTriggerCredential (triggerId : String) (issued : IssuedCredential) : AuthTx Unit := do
  revokeCredentials (.trigger triggerId) issued.createdAtMs
  insertCredential (.trigger triggerId) issued

/-! ## The operator -/

omit [Sha256] in
/-- The token of a file, which is written first if there is none. -/
def ensureTokenFile (tokenPath : String) (entropy : Entropy) : AuthTx String := do
  let file ← read (·.files tokenPath)
  match file with
  | some content => pure (trim content)
  | none => do
    let token ← check (generateToken operatorTokenPrefix entropy)
    write fun s => (trim (token ++ "\n"), { s with
      files := Function.update s.files tokenPath (some (token ++ "\n")) })

omit [Sha256] in
/-- Reads the token file; the file stays written if its token is refused. -/
def ensureOperatorCredential (tokenPath : String) (entropy : Entropy) (s : AuthState) : AuthState :=
  match ensureTokenFile tokenPath entropy s with
  | .error _ => s
  | .ok (token, s) =>
    match validateToken token operatorTokenPrefix "operator token file" with
    | .error _ => s
    | .ok () => { s with calls := s.calls ++ [.readingOperator tokenPath token] }

omit [UrlSafeNoPad] in
/-- Looks up the digest of the token: it is active, it was revoked, or it is new. -/
def readOperatorDigest (tokenPath token : String) : AuthTx Unit := do
  let credentials ← read (·.credentials)
  match credentials.find? fun c =>
    decide (c.binding = .operator) && decide (c.tokenDigest = tokenDigest token) with
  | some row =>
    ensure (row.isActive = true) (.credential
      s!"operator token file {tokenPath} holds a credential that was explicitly revoked; delete the file to provision a replacement")
  | none => write fun s => ((), { s with calls := s.calls ++ [.rotatingOperator token] })

omit [UrlSafeNoPad] in
def rotateOperatorDigest (token id : String) (now : Int) : AuthTx Unit := do
  revokeCredentials .operator now
  insertCredential .operator { id := id, token := token, createdAtMs := now }

end Calls

/-! ## Runs -/

inductive AuthStep
  | createAgent (agentId name : String) (now : Int)
  | registerAgent (agentId name issuedId : String) (entropy : Entropy) (now : Int)
  | rotateAgentCredential (agentId issuedId : String) (entropy : Entropy) (now : Int)
  | registerTrigger (triggerId : String) (input : RegisterTrigger) (issuedId : String)
      (entropy : Entropy) (now : Int)
  | retireTrigger (triggerId reason : String) (now : Int)
  | rotateTriggerCredential (triggerId issuedId : String) (entropy : Entropy) (now : Int)
  | ensureOperatorCredential (tokenPath : String) (entropy : Entropy)
  | resume (index : Nat) (id : String) (now : Int)
  | cancel (index : Nat)
  | recordTriggerOccurrence (triggerId occurrenceId : String) (now : Int)
  | replaceFile (path : String) (content : Option String)
  | writeElsewhere (store : Store)

section Steps

variable [Sha256]

/-- A call in flight goes on. -/
def AuthCall.resume (id : String) (now : Int) : AuthCall → AuthTx Unit
  | .rotatingTrigger triggerId issued => replaceTriggerCredential triggerId issued
  | .readingOperator tokenPath token => readOperatorDigest tokenPath token
  | .rotatingOperator token => rotateOperatorDigest token id now

/-- The call in flight at an index goes on, and is in flight no more. -/
def resumeCall (index : Nat) (id : String) (now : Int) (s : AuthState) : AuthState :=
  match s.calls[index]? with
  | none => s
  | some call => commit (call.resume id now) { s with calls := s.calls.eraseIdx index }

variable [UrlSafeNoPad]

def AuthStep.next : AuthStep → AuthState → AuthState
  | .createAgent agentId name now => commit (inStore (Fleetd.createAgent agentId name now))
  | .registerAgent agentId name issuedId entropy now =>
    commit (Auth.registerAgent agentId name issuedId entropy now)
  | .rotateAgentCredential agentId issuedId entropy now =>
    commit (Auth.rotateAgentCredential agentId issuedId entropy now)
  | .registerTrigger triggerId input issuedId entropy now =>
    commit (Auth.registerTrigger triggerId input issuedId entropy now)
  | .retireTrigger triggerId reason now => commit (Auth.retireTrigger triggerId reason now)
  | .rotateTriggerCredential triggerId issuedId entropy now =>
    commit (Auth.rotateTriggerCredential triggerId issuedId entropy now)
  | .ensureOperatorCredential tokenPath entropy => Auth.ensureOperatorCredential tokenPath entropy
  | .resume index id now => resumeCall index id now
  | .cancel index => fun s => { s with calls := s.calls.eraseIdx index }
  | .recordTriggerOccurrence triggerId occurrenceId now =>
    commit (inStore (Fleetd.recordTriggerOccurrence triggerId occurrenceId now))
  | .replaceFile path content => fun s => { s with files := Function.update s.files path content }
  | .writeElsewhere store => fun s =>
    if store.agents = s.store.agents ∧ store.triggers = s.store.triggers then
      { s with store := store }
    else s

end Steps

end Fleetd.Auth
