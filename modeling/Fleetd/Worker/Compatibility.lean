import Fleetd.Harness.Client
import Fleetd.Worker.Configuration
import Mathlib.Data.List.Sort
import Mathlib.Data.String.Basic

/-!
# The compatibility digest of a seat

A native session is adopted by a later generation only if the compatibility digest of the seat is
the one the session was opened under. The digest is taken of one run of bytes: the base digest, the
sandbox, the permission policy, the grants and the accepted kinds of messages, each behind a zero
byte and most of them behind a word.
-/

namespace Fleetd.Worker

open Harness

/-- The four bytes of an unsigned 32-bit value, most significant first. -/
def toBeBytes32 (value : Nat) : List UInt8 :=
  [UInt8.ofNat (value / 16777216), UInt8.ofNat (value / 65536), UInt8.ofNat (value / 256),
    UInt8.ofNat value]

/-- The accepted kinds in their order in the set. -/
def InboundAcceptance.sortedKinds (acceptance : InboundAcceptance) : List String :=
  acceptance.messageKinds.insertionSort (· ≤ ·)

/-- The bytes that a grant takes. -/
def grantBytes (grant : String) : List UInt8 := utf8Bytes "\x00" ++ utf8Bytes grant

/-- The bytes that a kind takes. -/
def kindBytes (kind : String) : List UInt8 := utf8Bytes "\x00kind\x00" ++ utf8Bytes kind

/-- The bytes that the digest is taken of. -/
def compatibilityPreimage (base : String) (mcpGrants : List String)
    (inboundAcceptance : InboundAcceptance) (sandboxProfileDigest : Option String)
    (permissionPolicy : PermissionPolicy) : List UInt8 :=
  utf8Bytes "fleetd-worker-compatibility-v4\x00" ++ utf8Bytes base ++ utf8Bytes "\x00sandbox\x00" ++
    utf8Bytes (sandboxProfileDigest.getD "unsandboxed") ++ utf8Bytes "\x00permission-policy\x00" ++
    utf8Bytes permissionPolicy.asStr ++ mcpGrants.flatMap grantBytes ++
    utf8Bytes "\x00inbound-schema\x00" ++ toBeBytes32 inboundAcceptance.schemaVersion ++
    inboundAcceptance.sortedKinds.flatMap kindBytes

def workerCompatibilityDigest [Sha256] (base : String) (mcpGrants : List String)
    (inboundAcceptance : InboundAcceptance) (sandboxProfileDigest : Option String)
    (permissionPolicy : PermissionPolicy) : String :=
  sha256Digest (compatibilityPreimage base mcpGrants inboundAcceptance sandboxProfileDigest
    permissionPolicy)

/-! ## Seats -/

/-- A configured seat with the digest that its harness describes itself by. -/
structure Seat where
  config : ContinuousWorkerConfig
  acceptance : InboundAcceptance
  profileDigest : String

/-- The digest that the operator supplied, or else that of the harness. -/
def Seat.base (seat : Seat) : String := seat.config.compatibilityDigest.getD seat.profileDigest

def Seat.preimage (seat : Seat) : List UInt8 :=
  compatibilityPreimage seat.base seat.config.mcpGrants seat.acceptance
    seat.config.sandboxProfileDigest seat.config.permissionPolicy

/-- The form of a digest of a sandbox profile. -/
def IsSha256 (digest : String) : Prop :=
  ∃ hex : List Char, digest.toList = "sha256:".toList ++ hex ∧ ∀ c ∈ hex, c ∈ hexDigits

/-- A seat that a worker is started with. -/
structure Seat.Accepted (seat : Seat) : Prop where
  config : validateConfig seat.config = .ok ()
  acceptance : ∃ kinds, InboundAcceptance.exactV1 kinds = .ok seat.acceptance
  described : validateId "profile digest" seat.profileDigest = .ok ()
  sandbox : ∀ digest ∈ seat.config.sandboxProfileDigest, IsSha256 digest

end Fleetd.Worker
