import Fleetd.Execution.SeatConfiguration
import Fleetd.Serde.Value

/-!
# The catalog of approved profiles

What a machine is willing to run. A catalog that was loaded carries the check that every backend
which a profile refers to is declared. A profile becomes the configuration of a worker once an
agent, its instructions and the route to its backend are put into it.
-/

namespace Fleetd.Worker

open Serde (Value)
open Execution
open Std (TreeMap)

def maxProfiles : Nat := 128
def maxInferenceBackends : Nat := 32
def maxProfileLabelBytes : Nat := 256
def maxProfileDescriptionBytes : Nat := 2048

/-- A backend that profiles may share, without the way its process is started. -/
structure InferenceBackendFile where
  id : String
  label : String
  deriving DecidableEq, Repr

/-- An approved profile. -/
structure RuntimeProfileFile where
  id : String
  label : String
  description : String
  inferenceBackend : Option String
  worker : Value
  deriving DecidableEq, Repr

/-- The private file of a machine. -/
structure ProfileCatalogFile where
  schemaVersion : Nat
  inferenceBackends : List InferenceBackendFile
  profiles : List RuntimeProfileFile
  deriving DecidableEq, Repr

/-- Whether the backend of a profile, if it has one, is declared. -/
def RuntimeProfileFile.Resolves (backends : TreeMap String InferenceBackendFile)
    (profile : RuntimeProfileFile) : Prop :=
  ∀ backendId, profile.inferenceBackend = some backendId → backendId ∈ backends

/-- Profiles whose backends are declared, by their ids. -/
def ResolvedProfiles (backends : TreeMap String InferenceBackendFile) : Type :=
  { profiles : TreeMap String RuntimeProfileFile //
    ∀ (id : String) (profile : RuntimeProfileFile),
      profiles[id]? = some profile → profile.Resolves backends }

/-- A catalog that was loaded. -/
structure ProfileCatalog where
  inferenceBackends : TreeMap String InferenceBackendFile
  profiles : TreeMap String RuntimeProfileFile
  resolved : ∀ (id : String) (profile : RuntimeProfileFile),
    profiles[id]? = some profile → profile.Resolves inferenceBackends

/-! ## Checks -/

def validProfileId (value : String) : Bool :=
  value ≠ "" ∧ byteLen value ≤ maxProfileIdBytes ∧ value.toList.all isProfileIdChar

/-- A text has to contain something, within bounds. -/
def validateText (label value : String) (maximum : Nat) : Except String Unit :=
  if isBlank value = true ∨ maximum < byteLen value then
    .error s!"{label} must contain between 1 and {maximum} bytes"
  else .ok ()

def validateBackend (backend : InferenceBackendFile) : Except String Unit :=
  if validProfileId backend.id = false then
    .error (s!"inference backend ID must contain 1 to {maxProfileIdBytes} ASCII letters, digits, " ++
      "dots, dashes, or underscores")
  else validateText "inference backend label" backend.label maxProfileLabelBytes

def validateProfile (profile : RuntimeProfileFile) : Except String Unit :=
  if validProfileId profile.id = false then
    .error (s!"profile ID must contain 1 to {maxProfileIdBytes} ASCII letters, digits, dots, " ++
      "dashes, or underscores")
  else do
    validateText "profile label" profile.label maxProfileLabelBytes
    validateText "profile description" profile.description maxProfileDescriptionBytes

/-! ## Profiles as workers -/

variable {W : Type} (parseWorkerConfigValue : Value → Except String W)

/-- The configuration of a worker that runs a profile for an agent. -/
def instantiateProfile (profile : RuntimeProfileFile) (agentId instructions : String)
    (inference : Option Value) : Except String W :=
  match profile.worker with
  | .object worker =>
    if (profile.worker.get "agent_id").isSome ∨ (profile.worker.get "instructions").isSome then
      .error s!"worker profile {profile.id} must not set agent_id or instructions"
    else
      let worker := Serde.insertMember "instructions" (.string instructions)
        (Serde.insertMember "agent_id" (.string agentId) worker)
      match profile.worker.get "plugin" with
      | some (.object plugin) =>
        match ((Value.object plugin).get "config").getD (.object []) with
        | .object config =>
          if ((Value.object config).get "inference").isSome then
            .error s!"worker profile {profile.id} must not pre-resolve an inference route"
          else
            let config := match inference with
              | some route => Serde.insertMember "inference" route config
              | none => config
            parseWorkerConfigValue (.object (Serde.insertMember "plugin"
              (.object (Serde.insertMember "config" (.object config) plugin)) worker))
        | _ => .error "worker profile plugin config must be a JSON object"
      | _ => .error "worker profile plugin must be a JSON object"
  | _ => .error "worker profile worker must be a JSON object"

/-! ## Loading -/

/-- Declares one more backend. -/
def addBackend (backends : TreeMap String InferenceBackendFile) (backend : InferenceBackendFile) :
    Except String (TreeMap String InferenceBackendFile) := do
  validateBackend backend
  if backend.id ∈ backends then .error s!"duplicate inference backend ID {backend.id}"
  else .ok (backends.insert backend.id backend)

/-- The backend of a profile that is not declared. -/
def unknownBackend (backends : TreeMap String InferenceBackendFile)
    (profile : RuntimeProfileFile) : Option String :=
  profile.inferenceBackend.filter fun backendId => !backends.contains backendId

theorem resolves_of_unknownBackend {backends : TreeMap String InferenceBackendFile}
    {profile : RuntimeProfileFile} (h : unknownBackend backends profile = none) :
    profile.Resolves backends := by
  intro backendId hbackend
  rw [unknownBackend, hbackend] at h
  simpa using h

/-- Approves one more profile. -/
def addProfile (schemaVersion : Nat) {backends : TreeMap String InferenceBackendFile}
    (profiles : ResolvedProfiles backends) (profile : RuntimeProfileFile) :
    Except String (ResolvedProfiles backends) := do
  validateProfile profile
  if schemaVersion = 1 ∧ profile.inferenceBackend.isSome then
    .error "worker profile catalog schema 1 cannot reference an inference backend"
  else
    match hknown : unknownBackend backends profile with
    | some backendId =>
      .error s!"worker profile {profile.id} references unknown inference backend {backendId}"
    | none => do
      let _ ← instantiateProfile parseWorkerConfigValue profile "catalog-validation" "" none
      if profile.id ∈ profiles.1 then .error s!"duplicate worker profile ID {profile.id}"
      else .ok ⟨profiles.1.insert profile.id profile, by
        intro id approved hfound
        rw [TreeMap.getElem?_insert] at hfound
        split at hfound
        · cases hfound
          exact resolves_of_unknownBackend hknown
        · exact profiles.2 id approved hfound⟩

/-- Accepts a file whose every profile can be run. -/
def loadProfileCatalog (file : ProfileCatalogFile) : Except String ProfileCatalog :=
  if file.schemaVersion ≠ 1 ∧ file.schemaVersion ≠ 2 then
    .error (s!"unsupported worker profile catalog schema version {file.schemaVersion}; " ++
      "expected 1 or 2")
  else if file.schemaVersion = 1 ∧ file.inferenceBackends ≠ [] then
    .error "worker profile catalog schema 1 cannot declare inference backends"
  else if file.profiles = [] ∨ maxProfiles < file.profiles.length then
    .error s!"worker profile catalog must contain between 1 and {maxProfiles} profiles"
  else if maxInferenceBackends < file.inferenceBackends.length then
    .error s!"worker profile catalog may contain at most {maxInferenceBackends} inference backends"
  else do
    let backends ← file.inferenceBackends.foldlM addBackend ∅
    let noProfiles : ResolvedProfiles backends := ⟨∅, fun _ _ h => by simp at h⟩
    let profiles ← file.profiles.foldlM
      (addProfile parseWorkerConfigValue file.schemaVersion) noProfiles
    .ok { inferenceBackends := backends, profiles := profiles.1, resolved := profiles.2 }

end Fleetd.Worker
