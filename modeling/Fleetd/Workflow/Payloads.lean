import Fleetd.Serde.Parser
import Fleetd.Workflow.Protocol

/-!
# The payloads of the author-review workflow

The types a payload is decoded to and written from. A struct is decoded from an object or,
as the library allows, from an array with its fields in order; where the source denies
unknown fields, neither may hold more than the struct has. An artifact carries its variant
under `artifact_type`, or as the first item of an array.
-/

namespace Fleetd.Workflow

open Serde (Value)

/-! ## Decoding -/

/-- The values given for the fields of a struct, in the order of the fields. -/
def structFields (denyUnknown : Bool) (names : List String) : Value → Option (List (Option Value))
  | .object members =>
    if denyUnknown && !members.all (fun member => names.contains member.1) then none
    else some (names.map fun name => (Value.object members).get name)
  | .array items =>
    if items.length ≤ names.length then
      some (items.map some ++ List.replicate (names.length - items.length) none)
    else none
  | _ => none

/-- A field without a default. -/
def required {α : Type} (decode : Value → Option α) (field : Option Value) : Option α :=
  field.bind decode

/-- A field with a default. -/
def defaulted {α : Type} (default : α) (decode : Value → Option α) : Option Value → Option α
  | some value => decode value
  | none => some default

/-- A text that may be null. -/
def asOptionalStr : Value → Option (Option String)
  | .null => some none
  | .string text => some (some text)
  | _ => none

/-- An unsigned 32-bit number. -/
def asU32 (value : Value) : Option Nat :=
  value.asU64.bind fun n => if n < 2 ^ 32 then some n else none

/-- An array of decodable items. -/
def asList {α : Type} (decode : Value → Option α) (value : Value) : Option (List α) :=
  value.asArray.bind fun items => items.mapM decode

/-- The variant of an internally tagged enumeration and what is left for its fields. -/
def taggedContent (tag : String) : Value → Option (String × Value)
  | .object members =>
    ((Value.object members).getStr tag).map fun variant =>
      (variant, .object (members.filter fun member => member.1 ≠ tag))
  | .array (variant :: items) => variant.asStr.map fun variant => (variant, .array items)
  | _ => none

/-- A list of texts as a value. -/
def strings (texts : List String) : Value := .array (texts.map Value.string)

/-! ## The types -/

structure RepositoryTarget where
  path : String
  baseRevision : String
  deriving DecidableEq, Repr

structure ChangeRequest where
  schemaVersion : Nat
  requestId : String
  title : String
  objective : String
  repository : RepositoryTarget
  scope : List String
  acceptanceCriteria : List String
  deriving DecidableEq, Repr

structure ChildRequest where
  requestId : String
  title : String
  objective : String
  scope : List String
  acceptanceCriteria : List String
  deriving DecidableEq, Repr

structure ArtifactReference where
  kind : String
  uri : String
  revision : String
  deriving DecidableEq, Repr

inductive ProposedArtifact
  | decomposition (schemaVersion : Nat) (requestId : String) (children : List ChildRequest)
  | change (schemaVersion : Nat) (requestId : String) (revision : Nat) (summary : String)
      (artifacts : List ArtifactReference) (evidence : List String)
  deriving DecidableEq, Repr

inductive ReviewDecision
  | approve
  | revise
  deriving DecidableEq, Repr

structure CompletedReview where
  schemaVersion : Nat
  requestId : String
  revision : Nat
  decision : ReviewDecision
  summary : String
  findings : List String
  deriving DecidableEq, Repr

/-- What identifies the assignment that a message makes. Other fields are ignored. -/
structure AssignmentIdentity where
  requestId : String
  parentRequestId : Option String
  assignment : String
  revision : Nat
  proposalMessageId : Option String
  deriving DecidableEq, Repr

/-! ## Reading them -/

def RepositoryTarget.ofValue (value : Value) : Option RepositoryTarget :=
  match structFields true ["path", "base_revision"] value with
  | some [path, baseRevision] => do
    let path ← required Value.asStr path
    let baseRevision ← required Value.asStr baseRevision
    pure { path, baseRevision }
  | _ => none

def ChangeRequest.ofValue (value : Value) : Option ChangeRequest :=
  match structFields true ["schema_version", "request_id", "title", "objective", "repository",
    "scope", "acceptance_criteria"] value with
  | some [schemaVersion, requestId, title, objective, repository, scope, acceptanceCriteria] => do
    let schemaVersion ← required asU32 schemaVersion
    let requestId ← required Value.asStr requestId
    let title ← required Value.asStr title
    let objective ← required Value.asStr objective
    let repository ← required RepositoryTarget.ofValue repository
    let scope ← required (asList Value.asStr) scope
    let acceptanceCriteria ← required (asList Value.asStr) acceptanceCriteria
    pure { schemaVersion, requestId, title, objective, repository, scope, acceptanceCriteria }
  | _ => none

def ChildRequest.ofValue (value : Value) : Option ChildRequest :=
  match structFields true ["request_id", "title", "objective", "scope", "acceptance_criteria"]
    value with
  | some [requestId, title, objective, scope, acceptanceCriteria] => do
    let requestId ← required Value.asStr requestId
    let title ← required Value.asStr title
    let objective ← required Value.asStr objective
    let scope ← required (asList Value.asStr) scope
    let acceptanceCriteria ← required (asList Value.asStr) acceptanceCriteria
    pure { requestId, title, objective, scope, acceptanceCriteria }
  | _ => none

def ArtifactReference.ofValue (value : Value) : Option ArtifactReference :=
  match structFields true ["kind", "uri", "revision"] value with
  | some [kind, uri, revision] => do
    let kind ← required Value.asStr kind
    let uri ← required Value.asStr uri
    let revision ← required Value.asStr revision
    pure { kind, uri, revision }
  | _ => none

/-- The fields of a decomposition, without its tag. -/
def decompositionOfValue (value : Value) : Option ProposedArtifact :=
  match structFields true ["schema_version", "request_id", "children"] value with
  | some [schemaVersion, requestId, children] => do
    let schemaVersion ← required asU32 schemaVersion
    let requestId ← required Value.asStr requestId
    let children ← required (asList ChildRequest.ofValue) children
    pure (.decomposition schemaVersion requestId children)
  | _ => none

/-- The fields of a change, without its tag. -/
def changeOfValue (value : Value) : Option ProposedArtifact :=
  match structFields true ["schema_version", "request_id", "revision", "summary", "artifacts",
    "evidence"] value with
  | some [schemaVersion, requestId, revision, summary, artifacts, evidence] => do
    let schemaVersion ← required asU32 schemaVersion
    let requestId ← required Value.asStr requestId
    let revision ← required asU32 revision
    let summary ← required Value.asStr summary
    let artifacts ← required (asList ArtifactReference.ofValue) artifacts
    let evidence ← required (asList Value.asStr) evidence
    pure (.change schemaVersion requestId revision summary artifacts evidence)
  | _ => none

def ProposedArtifact.ofValue (value : Value) : Option ProposedArtifact :=
  match taggedContent "artifact_type" value with
  | some ("decomposition", content) => decompositionOfValue content
  | some ("change", content) => changeOfValue content
  | _ => none

/-- The name of a decision. -/
def ReviewDecision.ofName : String → Option ReviewDecision
  | "approve" => some .approve
  | "revise" => some .revise
  | _ => none

/-- A decision is its name, or an object that holds nothing but its name without content. -/
def ReviewDecision.ofValue : Value → Option ReviewDecision
  | .string name => ReviewDecision.ofName name
  | .object [(name, .null)] => ReviewDecision.ofName name
  | _ => none

def CompletedReview.ofValue (value : Value) : Option CompletedReview :=
  match structFields true ["schema_version", "request_id", "revision", "decision", "summary",
    "findings"] value with
  | some [schemaVersion, requestId, revision, decision, summary, findings] => do
    let schemaVersion ← required asU32 schemaVersion
    let requestId ← required Value.asStr requestId
    let revision ← required asU32 revision
    let decision ← required ReviewDecision.ofValue decision
    let summary ← required Value.asStr summary
    let findings ← required (asList Value.asStr) findings
    pure { schemaVersion, requestId, revision, decision, summary, findings }
  | _ => none

def AssignmentIdentity.ofValue (value : Value) : Option AssignmentIdentity :=
  match structFields false ["request_id", "parent_request_id", "assignment", "revision",
    "proposal_message_id"] value with
  | some [requestId, parentRequestId, assignment, revision, proposalMessageId] => do
    let requestId ← required Value.asStr requestId
    let parentRequestId ← defaulted none asOptionalStr parentRequestId
    let assignment ← required Value.asStr assignment
    let revision ← defaulted 0 asU32 revision
    let proposalMessageId ← defaulted none asOptionalStr proposalMessageId
    pure { requestId, parentRequestId, assignment, revision, proposalMessageId }
  | _ => none

/-! ## Writing them -/

def RepositoryTarget.toValue (repository : RepositoryTarget) : Value := .object [
  ("path", .string repository.path),
  ("base_revision", .string repository.baseRevision)]

def ChangeRequest.toValue (request : ChangeRequest) : Value := .object [
  ("schema_version", .nat request.schemaVersion),
  ("request_id", .string request.requestId),
  ("title", .string request.title),
  ("objective", .string request.objective),
  ("repository", request.repository.toValue),
  ("scope", strings request.scope),
  ("acceptance_criteria", strings request.acceptanceCriteria)]

def ChildRequest.toValue (child : ChildRequest) : Value := .object [
  ("request_id", .string child.requestId),
  ("title", .string child.title),
  ("objective", .string child.objective),
  ("scope", strings child.scope),
  ("acceptance_criteria", strings child.acceptanceCriteria)]

def ArtifactReference.toValue (reference : ArtifactReference) : Value := .object [
  ("kind", .string reference.kind),
  ("uri", .string reference.uri),
  ("revision", .string reference.revision)]

def ProposedArtifact.toValue : ProposedArtifact → Value
  | .decomposition schemaVersion requestId children => .object [
    ("artifact_type", .string "decomposition"),
    ("schema_version", .nat schemaVersion),
    ("request_id", .string requestId),
    ("children", .array (children.map ChildRequest.toValue))]
  | .change schemaVersion requestId revision summary artifacts evidence => .object [
    ("artifact_type", .string "change"),
    ("schema_version", .nat schemaVersion),
    ("request_id", .string requestId),
    ("revision", .nat revision),
    ("summary", .string summary),
    ("artifacts", .array (artifacts.map ArtifactReference.toValue)),
    ("evidence", strings evidence)]

def ReviewDecision.name : ReviewDecision → String
  | .approve => "approve"
  | .revise => "revise"

def CompletedReview.toValue (review : CompletedReview) : Value := .object [
  ("schema_version", .nat review.schemaVersion),
  ("request_id", .string review.requestId),
  ("revision", .nat review.revision),
  ("decision", .string review.decision.name),
  ("summary", .string review.summary),
  ("findings", strings review.findings)]

end Fleetd.Workflow
