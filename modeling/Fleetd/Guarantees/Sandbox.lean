import Fleetd.Effects.Fallible
import Fleetd.Kernel.Sha256
import Fleetd.PluginHost.Reach
import Fleetd.Refinement.Digest

/-!
# Declared reach

What an operator declares for a plugin is what its sandbox grants. The text of a profile tells the
declared roots and the network, so two sandboxes have one digest exactly if they grant the same.
-/

namespace Fleetd.PluginHost

open Effects Policy Serde

/-! ## Identity -/

/-- The paths that rules for an operation grant with all they hold. -/
def subpathsOf (operation : String) (rules : List ProfileRule) : List String :=
  rules.filterMap fun rule =>
    match rule.filters with
    | [.subpath path] => if rule.operation = operation then some path else none
    | _ => none

theorem subpathsOf_append (operation : String) (rules more : List ProfileRule) :
    subpathsOf operation (rules ++ more) = subpathsOf operation rules ++ subpathsOf operation more :=
  List.filterMap_append

/-- Rules for paths grant these paths, if they are for the operation. -/
theorem subpathsOf_paths (operation other : String) (paths : List CanonicalPath) :
    subpathsOf operation (paths.map (pathRule other .subpath)) =
      if other = operation then paths.map CanonicalPath.text else [] := by
  induction paths with
  | nil => split <;> rfl
  | cons path paths ih =>
    rw [List.map_cons, ← List.singleton_append, subpathsOf_append, ih]
    by_cases hsame : other = operation
    · rw [if_pos hsame, if_pos hsame, hsame]
      simp [subpathsOf, pathRule]
    · rw [if_neg hsame, if_neg hsame]
      simp [subpathsOf, pathRule, hsame]

theorem subpathsOf_literals (operation other : String) (paths : List CanonicalPath) :
    subpathsOf operation (paths.map (pathRule other .literal)) = [] := by
  rw [subpathsOf, List.filterMap_eq_nil_iff]
  intro rule hrule
  obtain ⟨path, _, rfl⟩ := List.mem_map.1 hrule
  rfl

/-- The declared roots are read off the rules. -/
theorem subpathsOf_strictRules (writable readOnly : List CanonicalPath) (network : SandboxNetwork) :
    subpathsOf "file-read*" (strictRules writable readOnly network) =
        (writable ++ readOnly).map CanonicalPath.text ∧
      subpathsOf "file-write*" (strictRules writable readOnly network) =
        writable.map CanonicalPath.text := by
  have hambient : ∀ operation, subpathsOf operation (⟨.deny, "default", []⟩ :: ambientRules) = [] :=
    fun _ => rfl
  have hnetwork : ∀ operation, subpathsOf operation
      (if network = .allowOutbound then [⟨.allow, "network-outbound", []⟩] else []) = [] := by
    intro operation
    cases network <;> rfl
  constructor
  · rw [strictRules, ← List.cons_append, declaredRules]
    simp only [subpathsOf_append, hambient, subpathsOf_literals, subpathsOf_paths, hnetwork]
    rw [if_pos trivial, if_neg (by decide), List.append_nil, List.append_nil]
    rfl
  · rw [strictRules, ← List.cons_append, declaredRules]
    simp only [subpathsOf_append, hambient, subpathsOf_literals, subpathsOf_paths, hnetwork]
    rw [if_pos trivial, List.append_nil]
    rfl

theorem mem_strictRules_network (writable readOnly : List CanonicalPath) (network : SandboxNetwork) :
    (∃ rule ∈ strictRules writable readOnly network, rule.operation = "network-outbound") ↔
      network = .allowOutbound := by
  have hread : "file-read*" ≠ "network-outbound" := by decide
  have hwrite : "file-write*" ≠ "network-outbound" := by decide
  have hambient : ∀ rule ∈ (⟨.deny, "default", []⟩ : ProfileRule) :: ambientRules,
      rule.operation ≠ "network-outbound" := by decide
  constructor
  · rintro ⟨rule, hrule, hoperation⟩
    rw [strictRules, ← List.cons_append] at hrule
    rcases List.mem_append.1 hrule with hrule | hrule
    · exact absurd hoperation (hambient rule hrule)
    · simp only [declaredRules, List.mem_append, List.mem_map] at hrule
      rcases hrule with ((⟨_, _, rfl⟩ | ⟨_, _, rfl⟩) | ⟨_, _, rfl⟩) | hrule
      · exact absurd hoperation hread
      · exact absurd hoperation hread
      · exact absurd hoperation hwrite
      · split at hrule
        case isTrue hallow => exact hallow
        case isFalse => cases hrule
  · rintro rfl
    refine ⟨⟨.allow, "network-outbound", []⟩, ?_, rfl⟩
    rw [strictRules, declaredRules, if_pos rfl]
    simp

/-- The text of a strict profile tells its roots and its network. -/
theorem seatbeltProfile_injective {writable writable' readOnly readOnly' : List CanonicalPath}
    {network network' : SandboxNetwork}
    (h : seatbeltProfile writable readOnly network = seatbeltProfile writable' readOnly' network') :
    writable = writable' ∧ readOnly = readOnly' ∧ network = network' := by
  have hrules : strictRules writable readOnly network = strictRules writable' readOnly' network' := by
    apply Option.some.inj
    rw [← readProfile_seatbeltProfile, ← readProfile_seatbeltProfile, h]
  obtain ⟨hreads, hwrites⟩ := subpathsOf_strictRules writable readOnly network
  obtain ⟨hreads', hwrites'⟩ := subpathsOf_strictRules writable' readOnly' network'
  rw [hrules, hreads'] at hreads
  rw [hrules, hwrites'] at hwrites
  have hwritable := List.map_injective_iff.2 CanonicalPath.text_injective hwrites
  have hboth := List.map_injective_iff.2 CanonicalPath.text_injective hreads
  subst hwritable
  refine ⟨rfl, (List.append_cancel_left hboth).symm, ?_⟩
  have hnetwork := mem_strictRules_network writable' readOnly network
  rw [hrules, mem_strictRules_network] at hnetwork
  cases network with
  | deny =>
    cases network' with
    | deny => rfl
    | allowOutbound => exact hnetwork.1 rfl
  | allowOutbound => exact (hnetwork.2 rfl).symm

theorem writeScopedProfile_injective {writable writable' : List CanonicalPath}
    (h : writeScopedProfile writable = writeScopedProfile writable') : writable = writable' := by
  have hrules : writeScopedRules writable = writeScopedRules writable' := by
    apply Option.some.inj
    rw [← readProfile_writeScopedProfile, ← readProfile_writeScopedProfile, h]
  have hpaths : ∀ roots, subpathsOf "file-write*" (writeScopedRules roots) =
      roots.map CanonicalPath.text := by
    intro roots
    rw [writeScopedRules, subpathsOf_append, subpathsOf_paths, if_pos rfl]
    rfl
  have htexts := congrArg (subpathsOf "file-write*") hrules
  rw [hpaths, hpaths] at htexts
  exact List.map_injective_iff.2 CanonicalPath.text_injective htexts

/-! ## Declarations -/

/-- The rules grant the declared roots and network, and what every plugin needs. -/
structure DeclaredReach (rules : List ProfileRule) (writable readOnly : List CanonicalPath)
    (network : SandboxNetwork) : Prop where
  writes : ∀ operation path same, Starts "file-write" operation →
    (Permits rules (onFile operation path same) ↔
      path = devNull ∨ ∃ root ∈ writable, CanonicalPath.Under root path)
  reads : ∀ operation path same, Starts "file-read" operation →
    (Permits rules (onFile operation path same) ↔
      operation = "file-read-metadata" ∨ path = CanonicalPath.root ∨
        (∃ directory ∈ systemDirectories, pathComponents directory <+: path.components) ∨
          ∃ root ∈ writable ++ readOnly, CanonicalPath.Above path root ∨ CanonicalPath.Under root path)
  outbound : ∀ request, Starts "network" request.operation →
    (Permits rules request ↔ request.operation = "network-outbound" ∧ network = .allowOutbound)
  ambient : ∀ request, ¬Starts "file-" request.operation → ¬Starts "network" request.operation →
    (Permits rules request ↔ AmbientOperation request)

/-- The rules deny writes outside the declared roots and nothing else. -/
structure ConfinedWrites (rules : List ProfileRule) (writable : List CanonicalPath) : Prop where
  writes : ∀ operation path same, Starts "file-write" operation →
    (Permits rules (onFile operation path same) ↔
      path = devNull ∨ ∃ root ∈ writable, CanonicalPath.Under root path)
  others : ∀ request, ¬Starts "file-write" request.operation → Permits rules request

/-- What an operator declares for a plugin. -/
inductive SandboxDeclaration
  | strict (writable readOnly : List String) (network : SandboxNetwork)
  | writeScoped (writable : List String)

namespace SandboxDeclaration

def build [Sha256] (host : SandboxHost) : SandboxDeclaration → Except String MacOsSeatbeltSandbox
  | .strict writable readOnly network => MacOsSeatbeltSandbox.new host writable readOnly network
  | .writeScoped writable => MacOsSeatbeltSandbox.writeScoped host writable

end SandboxDeclaration

/-- The text that a digest of a sandbox is taken of, behind the version of its posture. -/
def MacOsSeatbeltSandbox.preimage (sandbox : MacOsSeatbeltSandbox) : List UInt8 :=
  match sandbox.posture with
  | .strict => utf8Bytes "fleetd-macos-seatbelt-v3\x00" ++ utf8Bytes sandbox.profile
  | .writeScoped => utf8Bytes "fleetd-macos-seatbelt-write-scoped-v1\x00" ++ utf8Bytes sandbox.profile

/-- The paths are those that some declared directories resolve to. -/
def ResolvesTo (host : SandboxHost) (roots : List String) (paths : Finset CanonicalPath) : Prop :=
  (∀ root ∈ roots, isAbsolute root = true ∧ host.isDir root = true) ∧
    CanonicalPath.root ∉ paths ∧
    ∀ path, path ∈ paths ↔ ∃ root ∈ roots, host.canonicalize root = .ok path

theorem canonicalDirectory_ok {host : SandboxHost} {label root : String} {path : CanonicalPath} :
    canonicalDirectory host label root = .ok path ↔ (isAbsolute root = true ∧ host.isDir root = true) ∧
      host.canonicalize root = .ok path ∧ path ≠ CanonicalPath.root := by
  rw [canonicalDirectory, ← Bool.and_eq_true]
  cases isAbsolute root && host.isDir root with
  | false =>
    constructor
    · intro h
      cases h
    · rintro ⟨h, _⟩
      cases h
  | true =>
    rw [if_neg (by decide), and_iff_right rfl]
    cases host.canonicalize root with
    | error =>
      constructor
      · intro h
        cases h
      · rintro ⟨h, _⟩
        cases h
    | ok found =>
      show (if found = CanonicalPath.root then _ else _) = _ ↔ _
      split
      case isTrue hroot =>
        constructor
        · intro h
          cases h
        · rintro ⟨hfound, hne⟩
          cases hfound
          exact absurd hroot hne
      case isFalse hroot =>
        constructor
        · intro h
          cases h
          exact ⟨rfl, hroot⟩
        · exact fun h => h.1

/-- Directories that all resolve are collected once each. -/
theorem canonicalDirectories_foldlM {host : SandboxHost} {label : String} {roots : List String}
    {found resolved : Finset CanonicalPath}
    (h : roots.foldlM (fun canonical root => do
      let path ← canonicalDirectory host label root
      pure (insert path canonical)) found = .ok resolved) :
    (∀ root ∈ roots, ∃ path, canonicalDirectory host label root = .ok path) ∧
      ∀ path, path ∈ resolved ↔
        path ∈ found ∨ ∃ root ∈ roots, canonicalDirectory host label root = .ok path := by
  induction roots generalizing found with
  | nil =>
    cases h
    simp
  | cons root roots ih =>
    rw [List.foldlM_cons] at h
    cases hroot : canonicalDirectory host label root with
    | error error =>
      rw [hroot] at h
      cases h
    | ok path =>
      rw [hroot] at h
      obtain ⟨hall, hmem⟩ := ih h
      constructor
      · intro other hother
        rcases List.mem_cons.1 hother with rfl | hother
        · exact ⟨path, hroot⟩
        · exact hall other hother
      · intro other
        rw [hmem, Finset.mem_insert]
        simp only [List.mem_cons, exists_eq_or_imp, hroot, Except.ok.injEq, eq_comm (a := path)]
        tauto

theorem canonicalDirectories_ok {host : SandboxHost} {label : String} {roots : List String}
    {paths : List CanonicalPath} (h : canonicalDirectories host label roots = .ok paths) :
    ∃ resolved : Finset CanonicalPath, paths = resolved.sort ∧ ResolvesTo host roots resolved := by
  rw [canonicalDirectories] at h
  cases hfold : roots.foldlM (fun canonical root => do
      let path ← canonicalDirectory host label root
      pure (insert path canonical)) (∅ : Finset CanonicalPath) with
  | error error =>
    rw [hfold] at h
    cases h
  | ok resolved =>
    rw [hfold] at h
    cases h
    obtain ⟨hall, hmem⟩ := canonicalDirectories_foldlM hfold
    have hresolved : ∀ path, path ∈ resolved ↔
        ∃ root ∈ roots, canonicalDirectory host label root = .ok path := by
      intro path
      rw [hmem]
      exact or_iff_right (Finset.notMem_empty path)
    refine ⟨resolved, rfl, ?_, ?_, ?_⟩
    · intro root hroot
      obtain ⟨path, hpath⟩ := hall root hroot
      exact (canonicalDirectory_ok.1 hpath).1
    · intro hroot
      obtain ⟨root, _, hpath⟩ := (hresolved _).1 hroot
      exact (canonicalDirectory_ok.1 hpath).2.2 rfl
    · intro path
      rw [hresolved]
      constructor
      · rintro ⟨root, hroot, hpath⟩
        exact ⟨root, hroot, (canonicalDirectory_ok.1 hpath).2.1⟩
      · rintro ⟨root, hroot, hcanonical⟩
        obtain ⟨other, hother⟩ := hall root hroot
        obtain ⟨_, hfound, _⟩ := canonicalDirectory_ok.1 hother
        obtain rfl : other = path := Except.ok.inj (hfound.symm.trans hcanonical)
        exact ⟨root, hroot, hother⟩

/-- What a sandbox grants: the directories that its roots resolve to. -/
inductive SandboxReach
  | strict (writable readOnly : Finset CanonicalPath) (network : SandboxNetwork)
  | writeScoped (writable : Finset CanonicalPath)

/-- The sandbox with a reach. -/
def SandboxReach.sandbox [Sha256] : SandboxReach → MacOsSeatbeltSandbox
  | .strict writable readOnly network =>
    let profile := seatbeltProfile (inOrder writable) (inOrder readOnly) network
    ⟨.strict, profile, digestProfile "fleetd-macos-seatbelt-v3\x00" profile⟩
  | .writeScoped writable =>
    let profile := writeScopedProfile (inOrder writable)
    ⟨.writeScoped, profile, digestProfile "fleetd-macos-seatbelt-write-scoped-v1\x00" profile⟩

/-- A declaration has a reach, with at least one writable root. -/
inductive SandboxDeclaration.Reaches (host : SandboxHost) : SandboxDeclaration → SandboxReach → Prop
  | strict {writable readOnly : List String} {writablePaths readOnlyPaths : Finset CanonicalPath}
      {network : SandboxNetwork} (hwritable : ResolvesTo host writable writablePaths)
      (hreadOnly : ResolvesTo host readOnly readOnlyPaths) (hsome : writablePaths.Nonempty) :
      Reaches host (.strict writable readOnly network) (.strict writablePaths readOnlyPaths network)
  | writeScoped {writable : List String} {writablePaths : Finset CanonicalPath}
      (hwritable : ResolvesTo host writable writablePaths) (hsome : writablePaths.Nonempty) :
      Reaches host (.writeScoped writable) (.writeScoped writablePaths)

theorem resolvesTo_unique {host : SandboxHost} {roots : List String}
    {paths paths' : Finset CanonicalPath} (h : ResolvesTo host roots paths)
    (h' : ResolvesTo host roots paths') : paths = paths' :=
  Finset.ext fun path => (h.2.2 path).trans (h'.2.2 path).symm

/-- A declaration has at most one reach. -/
theorem SandboxDeclaration.Reaches.unique {host : SandboxHost} {declared : SandboxDeclaration}
    {reach reach' : SandboxReach} (h : declared.Reaches host reach) (h' : declared.Reaches host reach') :
    reach = reach' := by
  cases h with
  | strict hwritable hreadOnly =>
    cases h' with
    | strict hwritable' hreadOnly' =>
      rw [resolvesTo_unique hwritable hwritable', resolvesTo_unique hreadOnly hreadOnly']
  | writeScoped hwritable =>
    cases h' with
    | writeScoped hwritable' => rw [resolvesTo_unique hwritable hwritable']

/-- What is built is the sandbox with the reach of the declaration. -/
theorem SandboxDeclaration.build_ok [Sha256] {host : SandboxHost} {declared : SandboxDeclaration}
    {sandbox : MacOsSeatbeltSandbox} (h : declared.build host = .ok sandbox) :
    ∃ reach, declared.Reaches host reach ∧ sandbox = reach.sandbox := by
  have hnonempty : ∀ {paths : Finset CanonicalPath}, ¬paths.sort.isEmpty = true → paths.Nonempty := by
    intro paths hsort
    rw [Finset.nonempty_iff_ne_empty]
    rintro rfl
    rw [Finset.sort_empty] at hsort
    exact hsort rfl
  cases declared with
  | strict writable readOnly network =>
    obtain ⟨_, _, h⟩ := except_bind_ok.1 h
    obtain ⟨writablePaths, hwritable, h⟩ := except_bind_ok.1 h
    obtain ⟨writablePaths, rfl, hresolved⟩ := canonicalDirectories_ok hwritable
    split at h
    case isTrue => cases h
    case isFalse hsome =>
      obtain ⟨readOnlyPaths, hreadOnly, h⟩ := except_bind_ok.1 h
      obtain ⟨readOnlyPaths, rfl, hresolved'⟩ := canonicalDirectories_ok hreadOnly
      cases h
      exact ⟨_, .strict hresolved hresolved' (hnonempty hsome), rfl⟩
  | writeScoped writable =>
    obtain ⟨_, _, h⟩ := except_bind_ok.1 h
    obtain ⟨writablePaths, hwritable, h⟩ := except_bind_ok.1 h
    obtain ⟨writablePaths, rfl, hresolved⟩ := canonicalDirectories_ok hwritable
    split at h
    case isTrue => cases h
    case isFalse hsome =>
      cases h
      exact ⟨_, .writeScoped hresolved (hnonempty hsome), rfl⟩

/-- The digest of a sandbox is one of its version and its profile. -/
theorem digest_sandbox [Sha256] (reach : SandboxReach) :
    reach.sandbox.profileDigest = sha256Digest reach.sandbox.preimage := by
  cases reach <;> rfl

/-- The versions of the two postures keep their digests apart. -/
theorem versions_apart (profile profile' : String) :
    utf8Bytes "fleetd-macos-seatbelt-v3\x00" ++ utf8Bytes profile ≠
      utf8Bytes "fleetd-macos-seatbelt-write-scoped-v1\x00" ++ utf8Bytes profile' := by
  intro h
  have htake := congrArg (List.take 23) h
  rw [List.take_append_of_le_length (by decide), List.take_append_of_le_length (by decide)] at htake
  exact absurd htake (by decide)

theorem sort_injective {paths paths' : Finset CanonicalPath} (h : paths.sort = paths'.sort) :
    paths = paths' := by
  rw [← Finset.sort_toFinset paths (· ≤ ·), ← Finset.sort_toFinset paths' (· ≤ ·), h]

/-- The bytes that are digested tell the reach of a sandbox. -/
theorem preimage_injective [Sha256] {reach reach' : SandboxReach}
    (h : reach.sandbox.preimage = reach'.sandbox.preimage) : reach = reach' := by
  cases reach with
  | strict writable readOnly network =>
    cases reach' with
    | strict writable' readOnly' network' =>
      obtain ⟨hwritable, hreadOnly, rfl⟩ :=
        seatbeltProfile_injective (utf8Bytes_injective (List.append_cancel_left h))
      rw [sort_injective hwritable, sort_injective hreadOnly]
    | writeScoped writable' => exact absurd h (versions_apart _ _)
  | writeScoped writable =>
    cases reach' with
    | strict writable' readOnly' network' => exact absurd h.symm (versions_apart _ _)
    | writeScoped writable' =>
      have hwritable := writeScopedProfile_injective (utf8Bytes_injective (List.append_cancel_left h))
      rw [sort_injective hwritable]

/-- While the digest separates what is digested, two sandboxes have one digest exactly if their
declarations have one reach: whatever the roots are called, in which order and how often. -/
theorem sandbox_identified [Sha256] {host host' : SandboxHost} {declared declared' : SandboxDeclaration}
    {sandbox sandbox' : MacOsSeatbeltSandbox} (h : declared.build host = .ok sandbox)
    (h' : declared'.build host' = .ok sandbox')
    (hfree : Evidence.CollisionFree Sha256.hexDigest [sandbox.preimage, sandbox'.preimage]) :
    sandbox.profileDigest = sandbox'.profileDigest ↔
      ∃ reach, declared.Reaches host reach ∧ declared'.Reaches host' reach := by
  obtain ⟨reach, hreach, rfl⟩ := SandboxDeclaration.build_ok h
  obtain ⟨reach', hreach', rfl⟩ := SandboxDeclaration.build_ok h'
  rw [digest_sandbox, digest_sandbox, sha256Digest, sha256Digest, String.append_right_inj]
  constructor
  · intro hdigest
    have hpreimage := hfree _ List.mem_cons_self _
      (List.mem_cons_of_mem _ (List.mem_singleton_self _)) hdigest
    obtain rfl := preimage_injective hpreimage
    exact ⟨reach, hreach, hreach'⟩
  · rintro ⟨both, hboth, hboth'⟩
    rw [hreach.unique hboth, hreach'.unique hboth']

/-- A host on which every path is the directory of one seat. -/
def seatHost : SandboxHost where
  macos := true
  isFile _ := true
  isDir _ := true
  canonicalize _ := .ok ⟨["private", "seat"], by decide⟩

def seatReach : SandboxReach :=
  .strict {⟨["private", "seat"], by decide⟩} ∅ .deny

theorem build_seatHost {roots : List String} (hroots : roots = ["/seat"] ∨ roots = ["/seat", "/seat/."]) :
    (SandboxDeclaration.strict roots [] .deny).build seatHost = .ok seatReach.sandbox := by
  have hdirectory : ∀ root, isAbsolute root = true → canonicalDirectory seatHost "writable" root =
      .ok ⟨["private", "seat"], by decide⟩ := by
    intro root habsolute
    exact canonicalDirectory_ok.2 ⟨⟨habsolute, rfl⟩, rfl, fun h => by cases h⟩
  have hwritable : canonicalDirectories seatHost "writable" roots =
      .ok [⟨["private", "seat"], by decide⟩] := by
    have hseat := hdirectory "/seat" (by decide)
    have hdot := hdirectory "/seat/." (by decide)
    rcases hroots with rfl | rfl
    · simp [canonicalDirectories, hseat, bind, Except.bind, pure, Except.pure]
    · simp [canonicalDirectories, hseat, hdot, bind, Except.bind, pure, Except.pure]
  have hreadOnly : canonicalDirectories seatHost "read-only" [] = .ok [] := by
    simp [canonicalDirectories, pure, Except.pure, bind, Except.bind]
  have hlauncher : ensureLauncher seatHost = .ok () := rfl
  simp [SandboxDeclaration.build, MacOsSeatbeltSandbox.new, hwritable, hreadOnly, hlauncher, seatReach,
    SandboxReach.sandbox, bind, Except.bind, pure, Except.pure]

/-- A root that is named twice, in two spellings, changes nothing. -/
theorem sandbox_identified_seatHost :
    seatReach.sandbox.profileDigest = seatReach.sandbox.profileDigest ↔
      ∃ reach, (SandboxDeclaration.strict ["/seat"] [] .deny).Reaches seatHost reach ∧
        (SandboxDeclaration.strict ["/seat", "/seat/."] [] .deny).Reaches seatHost reach :=
  sandbox_identified (build_seatHost (.inl rfl)) (build_seatHost (.inr rfl)) (by
    intro x hx y hy _
    simp only [List.mem_cons, List.not_mem_nil, or_false, or_self] at hx hy
    rw [hx, hy])

end Fleetd.PluginHost
