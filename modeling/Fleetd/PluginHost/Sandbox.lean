import Fleetd.Execution.Operations
import Fleetd.Policy.Seatbelt

/-!
# The sandbox of a plugin process

A sandbox is a profile that is written from the roots an operator declares, and the command that
launches the plugin under it. The strict posture denies by default and grants the declared reach; the
write-scoped posture allows by default and confines writes. The host answers what is a directory and
what a path resolves to.
-/

namespace Fleetd.PluginHost

open Policy Serde

def macosSandboxExec : String := "/usr/bin/sandbox-exec"

inductive SandboxNetwork
  | deny
  | allowOutbound
  deriving DecidableEq, Repr

inductive MacOsSeatbeltPosture
  | strict
  | writeScoped
  deriving DecidableEq, Repr

def MacOsSeatbeltPosture.asStr : MacOsSeatbeltPosture → String
  | .strict => "strict"
  | .writeScoped => "write_scoped"

structure MacOsSeatbeltSandbox where
  posture : MacOsSeatbeltPosture
  profile : String
  profileDigest : String
  deriving DecidableEq, Repr

/-- The boundary that is claimed for a posture. -/
def MacOsSeatbeltSandbox.securityScope (sandbox : MacOsSeatbeltSandbox) : String :=
  match sandbox.posture with
  | .strict => "deny_default_declared_reach"
  | .writeScoped => "writes_scoped_reads_and_network_unrestricted"

/-- The program that launches a plugin and its arguments. -/
def MacOsSeatbeltSandbox.launchCommand (sandbox : MacOsSeatbeltSandbox) (executable : String)
    (arguments : List String) : String × List String :=
  (macosSandboxExec, ["-p", sandbox.profile, executable] ++ arguments)

/-! ## Profiles -/

def seatbeltString (path : CanonicalPath) : String := printString path.text

/-- Appends one rule for each path. -/
def pushRules (opening : String) (paths : List CanonicalPath) (profile : String) : String :=
  paths.foldl (fun profile path => profile ++ opening ++ seatbeltString path ++ "))\n") profile

/-- The paths of a set in their order, each once. -/
abbrev inOrder (paths : Finset CanonicalPath) : List CanonicalPath := paths.sort

/-- The directories above the declared roots, each once. -/
def rootAncestors (roots : List CanonicalPath) : List CanonicalPath :=
  let ancestors := roots.foldl
    (fun ancestors root => root.ancestors.tail.foldl
      (fun ancestors ancestor =>
        if ancestor ≠ CanonicalPath.root then insert ancestor ancestors else ancestors) ancestors)
    (∅ : Finset CanonicalPath)
  inOrder ancestors

def strictPrelude : String :=
  "(version 1)\n" ++
    "(deny default)\n" ++
    "(allow process*)\n" ++
    "(allow signal (target same-sandbox))\n" ++
    "(allow sysctl-read)\n" ++
    "(allow mach-lookup)\n" ++
    "(allow ipc-posix*)\n" ++
    "(allow file-read-metadata)\n" ++
    "(allow file-write* (literal \"/dev/null\"))\n" ++
    "(allow file-read*\n" ++
    "(literal \"/\")\n" ++
    "(subpath \"/System\")\n" ++
    "(subpath \"/Library\")\n" ++
    "(subpath \"/usr\")\n" ++
    "(subpath \"/bin\")\n" ++
    "(subpath \"/sbin\")\n" ++
    "(subpath \"/dev\")\n" ++
    "(subpath \"/private/etc\"))\n"

def seatbeltProfile (writableRoots readOnlyRoots : List CanonicalPath) (network : SandboxNetwork) :
    String :=
  let profile := pushRules "(allow file-read* (literal "
    (rootAncestors (writableRoots ++ readOnlyRoots)) strictPrelude
  let profile := pushRules "(allow file-read* (subpath " (writableRoots ++ readOnlyRoots) profile
  let profile := pushRules "(allow file-write* (subpath " writableRoots profile
  if network = .allowOutbound then profile ++ "(allow network-outbound)\n" else profile

def writeScopedPrelude : String :=
  "(version 1)\n" ++
    "(allow default)\n" ++
    "(deny file-write*)\n" ++
    "(allow file-write* (literal \"/dev/null\"))\n"

def writeScopedProfile (writableRoots : List CanonicalPath) : String :=
  pushRules "(allow file-write* (subpath " writableRoots writeScopedPrelude

/-! ## Declared roots -/

/-- What the host answers about files. -/
structure SandboxHost where
  macos : Bool
  isFile : String → Bool
  isDir : String → Bool
  canonicalize : String → Except String CanonicalPath

def isAbsolute (root : String) : Bool := root.toList.head? = some '/'

/-- The directory that a declared root resolves to. -/
def canonicalDirectory (host : SandboxHost) (label root : String) : Except String CanonicalPath :=
  if !(isAbsolute root && host.isDir root) then
    .error s!"sandbox {label} root must be an existing absolute directory: {root}"
  else
    match host.canonicalize root with
    | .error error => .error s!"sandbox {label} root could not be canonicalized ({root}): {error}"
    | .ok path =>
      if path = CanonicalPath.root then
        .error s!"sandbox {label} root must not be the filesystem root"
      else .ok path

def canonicalDirectories (host : SandboxHost) (label : String) (roots : List String) :
    Except String (List CanonicalPath) := do
  let canonical ← roots.foldlM
    (fun canonical root => do
      let path ← canonicalDirectory host label root
      pure (insert path canonical))
    (∅ : Finset CanonicalPath)
  pure (inOrder canonical)

/-! ## Sandboxes -/

variable [Sha256]

/-- The identity of a profile: a digest of the version of its posture and its text. -/
def digestProfile (version profile : String) : String :=
  sha256Digest (utf8Bytes version ++ utf8Bytes profile)

/-- The launcher is there, on a host that has one. -/
def ensureLauncher (host : SandboxHost) : Except String Unit :=
  if !host.macos then .error "macOS Seatbelt sandbox requested on a non-macOS host"
  else if !host.isFile macosSandboxExec then
    .error s!"macOS Seatbelt launcher is unavailable: {macosSandboxExec}"
  else .ok ()

def MacOsSeatbeltSandbox.new (host : SandboxHost) (writableRoots readOnlyRoots : List String)
    (network : SandboxNetwork) : Except String MacOsSeatbeltSandbox := do
  ensureLauncher host
  let writableRoots ← canonicalDirectories host "writable" writableRoots
  if writableRoots.isEmpty then .error "sandbox requires at least one writable root"
  else
    let readOnlyRoots ← canonicalDirectories host "read-only" readOnlyRoots
    let profile := seatbeltProfile writableRoots readOnlyRoots network
    pure ⟨.strict, profile, digestProfile "fleetd-macos-seatbelt-v3\x00" profile⟩

def MacOsSeatbeltSandbox.writeScoped (host : SandboxHost) (writableRoots : List String) :
    Except String MacOsSeatbeltSandbox := do
  ensureLauncher host
  let writableRoots ← canonicalDirectories host "writable" writableRoots
  if writableRoots.isEmpty then .error "sandbox requires at least one writable root"
  else
    let profile := writeScopedProfile writableRoots
    pure ⟨.writeScoped, profile, digestProfile "fleetd-macos-seatbelt-write-scoped-v1\x00" profile⟩

end Fleetd.PluginHost
