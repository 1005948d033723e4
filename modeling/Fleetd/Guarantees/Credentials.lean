import Mathlib.Data.List.Induction
import Fleetd.Auth.Moves
import Fleetd.Evidence.HashChain
import Fleetd.Relational.Trace

/-!
# Credentials along a run

In every interleaving of the authentication calls with each other, with the token files and with
whatever else writes the database, a binding has at most one active credential, a revoked one stays
revoked, and a token authenticates exactly while the row that was issued for it is active.
-/

namespace Fleetd.Auth

open Relational Relational.Transaction

variable [Sha256] {s t : AuthState} {c : AuthStep}

/-! ## The table -/

/-- What every state of the credential table has. -/
structure Sound (s : AuthState) : Prop where
  triggers : KeyUnique Trigger.id s.store.triggers
  ids : KeyUnique AuthCredential.id s.credentials
  digests : KeyUnique AuthCredential.tokenDigest s.credentials
  active : OneLive AuthCredential.binding AuthCredential.isActive s.credentials
  refers : ∀ row ∈ s.credentials, s.Refers row.binding
  issued : ∀ row ∈ s.credentials, ∃ token, (row.id, token) ∈ s.issued ∧ row.tokenDigest = tokenDigest token
  kept : ∀ id token, (id, token) ∈ s.issued →
    ∃ row ∈ s.credentials, row.id = id ∧ row.tokenDigest = tokenDigest token

/-- A row later on: revoked rows do not change, and active ones at most become revoked. -/
structure AuthCredential.Keeps (row later : AuthCredential) : Prop where
  id : later.id = row.id
  binding : later.binding = row.binding
  tokenDigest : later.tokenDigest = row.tokenDigest
  createdAtMs : later.createdAtMs = row.createdAtMs
  revoked : row.isActive = false → later.revokedAtMs = row.revokedAtMs

omit [Sha256] in
theorem AuthCredential.Keeps.refl (row : AuthCredential) : row.Keeps row :=
  ⟨rfl, rfl, rfl, rfl, fun _ => rfl⟩

omit [Sha256] in
theorem AuthCredential.Keeps.trans (x y z : AuthCredential) (h : x.Keeps y) (h' : y.Keeps z) :
    x.Keeps z where
  id := h'.id.trans h.id
  binding := h'.binding.trans h.binding
  tokenDigest := h'.tokenDigest.trans h.tokenDigest
  createdAtMs := h'.createdAtMs.trans h.createdAtMs
  revoked hx := by
    have hy := h.revoked hx
    have hstill : y.isActive = false := by
      rw [AuthCredential.isActive, hy]
      exact hx
    exact (h'.revoked hstill).trans hy

omit [Sha256] in
/-- Revoking the active rows of a binding keeps every row. -/
theorem extends_revoked {binding : CredentialBinding} {now : Int} {rows : List AuthCredential} :
    Extends AuthCredential.Keeps rows
      (endLive AuthCredential.binding AuthCredential.isActive (AuthCredential.revoke now) binding rows) := by
  apply Extends.updateWhere AuthCredential.Keeps.refl
  intro row _ hlive
  refine ⟨rfl, rfl, rfl, rfl, ?_⟩
  intro hdead
  rw [(liveIn_iff.1 hlive).1] at hdead
  cases hdead

/-- Every move keeps the rows. -/
theorem AuthMove.extends (h : AuthMove c s t) : Extends AuthCredential.Keeps s.credentials t.credentials := by
  cases h with
  | kept hgrows hcredentials hissued =>
    rw [hcredentials]
    exact Extends.refl AuthCredential.Keeps.refl _
  | enrolled binding issued hunused hnew hrefers hgrows hcredentials hissued =>
    rw [hcredentials]
    exact Extends.append AuthCredential.Keeps.refl _ _
  | retired triggerId now hactive hrefers hretired htriggers hcredentials hissued =>
    rw [hcredentials]
    exact extends_revoked
  | replaced binding issued hunused hrefers hgrows horigin hcredentials hissued =>
    rw [hcredentials]
    exact extends_revoked.trans AuthCredential.Keeps.trans (Extends.append AuthCredential.Keeps.refl _ _)

/-- The rows after a move are the old ones and possibly one that was not used before. -/
theorem Sound.columns (h : Sound s) {rows : List AuthCredential} (binding : CredentialBinding)
    {issued : IssuedCredential} (hunused : s.Unused issued)
    (hids : rows.map AuthCredential.id = s.credentials.map AuthCredential.id)
    (hdigests : rows.map AuthCredential.tokenDigest = s.credentials.map AuthCredential.tokenDigest) :
    KeyUnique AuthCredential.id (rows ++ [AuthCredential.new binding issued]) ∧
      KeyUnique AuthCredential.tokenDigest (rows ++ [AuthCredential.new binding issued]) := by
  constructor
  · have hold : KeyUnique AuthCredential.id rows := by
      rw [KeyUnique, hids]
      exact h.ids
    apply hold.append (KeyUnique.singleton _ _)
    intro x hx y hy heq
    rw [List.mem_singleton.1 hy] at heq
    have hmem : x.id ∈ s.credentials.map AuthCredential.id := hids ▸ List.mem_map_of_mem hx
    obtain ⟨row, hrow, hid⟩ := List.mem_map.1 hmem
    exact (hunused row hrow).1 (hid.trans heq)
  · have hold : KeyUnique AuthCredential.tokenDigest rows := by
      rw [KeyUnique, hdigests]
      exact h.digests
    apply hold.append (KeyUnique.singleton _ _)
    intro x hx y hy heq
    rw [List.mem_singleton.1 hy] at heq
    have hmem : x.tokenDigest ∈ s.credentials.map AuthCredential.tokenDigest :=
      hdigests ▸ List.mem_map_of_mem hx
    obtain ⟨row, hrow, hdigest⟩ := List.mem_map.1 hmem
    exact (hunused row hrow).2 (hdigest.trans heq)

omit [Sha256] in
theorem map_revoked {κ : Type} {rows : List AuthCredential} (binding : CredentialBinding) (now : Int)
    (key : AuthCredential → κ) (hkey : ∀ row, key (row.revoke now) = key row) :
    (endLive AuthCredential.binding AuthCredential.isActive (AuthCredential.revoke now) binding rows).map
      key = rows.map key :=
  map_updateWhere fun row _ _ => hkey row

omit [Sha256] in
theorem mem_revoked {binding : CredentialBinding} {now : Int} {rows : List AuthCredential}
    {row : AuthCredential} (h : row ∈ endLive AuthCredential.binding AuthCredential.isActive
      (AuthCredential.revoke now) binding rows) :
    ∃ before ∈ rows, row.id = before.id ∧ row.binding = before.binding ∧
      row.tokenDigest = before.tokenDigest := by
  obtain ⟨before, hmem, rfl⟩ := mem_updateWhere.1 h
  refine ⟨before, hmem, ?_⟩
  split
  · exact ⟨rfl, rfl, rfl⟩
  · exact ⟨rfl, rfl, rfl⟩

omit [Sha256] in
theorem mem_revoked_of_mem {binding : CredentialBinding} {now : Int} {rows : List AuthCredential}
    {row : AuthCredential} (h : row ∈ rows) :
    ∃ later ∈ endLive AuthCredential.binding AuthCredential.isActive (AuthCredential.revoke now) binding
      rows, row.Keeps later :=
  extends_revoked.mem h

omit [Sha256] in
/-- A binding that is not referred to has no credential. -/
theorem countP_of_not_refers (hrefers : ∀ row ∈ s.credentials, s.Refers row.binding)
    {binding : CredentialBinding} (hnew : ¬s.Refers binding) :
    s.credentials.countP (liveIn AuthCredential.binding AuthCredential.isActive binding) = 0 := by
  apply List.countP_eq_zero.2
  intro row hrow hlive
  exact hnew ((liveIn_iff.1 hlive).2 ▸ hrefers row hrow)

/-- Every move keeps the table sound. -/
theorem AuthMove.sound (hmove : AuthMove c s t) (h : Sound s) : Sound t := by
  cases hmove with
  | kept hgrows hcredentials hissued =>
    constructor
    case triggers => exact hgrows.triggers h.triggers
    case ids => exact hcredentials ▸ h.ids
    case digests => exact hcredentials ▸ h.digests
    case active => exact hcredentials ▸ h.active
    case refers =>
      intro row hrow
      exact hgrows.refers _ (h.refers row (hcredentials ▸ hrow))
    case issued =>
      rw [hissued, hcredentials]
      exact h.issued
    case kept =>
      rw [hissued, hcredentials]
      exact h.kept
  | enrolled binding issued hunused hnew hrefers hgrows hcredentials hissued =>
    obtain ⟨hids, hdigests⟩ := h.columns binding hunused rfl rfl
    constructor
    case triggers => exact hgrows.triggers h.triggers
    case ids => exact hcredentials ▸ hids
    case digests => exact hcredentials ▸ hdigests
    case active =>
      rw [hcredentials]
      exact h.active.append (countP_of_not_refers h.refers hnew)
    case refers =>
      intro row hrow
      rw [hcredentials, List.mem_append, List.mem_singleton] at hrow
      rcases hrow with hrow | rfl
      · exact hgrows.refers _ (h.refers row hrow)
      · exact hrefers
    case issued =>
      rw [hissued, hcredentials]
      intro row hrow
      rw [List.mem_append, List.mem_singleton] at hrow
      rcases hrow with hrow | rfl
      · obtain ⟨token, htoken, hdigest⟩ := h.issued row hrow
        exact ⟨token, List.mem_append_left _ htoken, hdigest⟩
      · exact ⟨issued.token, List.mem_append_right _ (List.mem_singleton_self _), rfl⟩
    case kept =>
      rw [hissued, hcredentials]
      intro id token htoken
      rw [List.mem_append, List.mem_singleton, Prod.mk.injEq] at htoken
      rcases htoken with htoken | ⟨rfl, rfl⟩
      · obtain ⟨row, hrow, hfields⟩ := h.kept id token htoken
        exact ⟨row, List.mem_append_left _ hrow, hfields⟩
      · exact ⟨_, List.mem_append_right _ (List.mem_singleton_self _), rfl, rfl⟩
  | retired triggerId now hactive hrefers hretired htriggers hcredentials hissued =>
    constructor
    case triggers => exact htriggers
    case ids =>
      rw [hcredentials, KeyUnique, map_revoked _ _ _ fun _ => rfl]
      exact h.ids
    case digests =>
      rw [hcredentials, KeyUnique, map_revoked _ _ _ fun _ => rfl]
      exact h.digests
    case active =>
      rw [hcredentials]
      exact h.active.endLive (ends_revoke now) _
    case refers =>
      intro row hrow
      obtain ⟨before, hbefore, -, hbinding, -⟩ := mem_revoked (hcredentials ▸ hrow)
      rw [hbinding]
      exact hrefers _ (h.refers before hbefore)
    case issued =>
      rw [hissued]
      intro row hrow
      obtain ⟨before, hbefore, hid, -, hdigest⟩ := mem_revoked (hcredentials ▸ hrow)
      rw [hid, hdigest]
      exact h.issued before hbefore
    case kept =>
      rw [hissued, hcredentials]
      intro id token htoken
      obtain ⟨row, hrow, hid, hdigest⟩ := h.kept id token htoken
      obtain ⟨later, hlater, hkeeps⟩ := mem_revoked_of_mem hrow
      exact ⟨later, hlater, hkeeps.id.trans hid, hkeeps.tokenDigest.trans hdigest⟩
  | replaced binding issued hunused hrefers hgrows horigin hcredentials hissued =>
    obtain ⟨hids, hdigests⟩ := h.columns binding hunused
      (map_revoked binding issued.createdAtMs AuthCredential.id fun _ => rfl)
      (map_revoked binding issued.createdAtMs AuthCredential.tokenDigest fun _ => rfl)
    constructor
    case triggers => exact hgrows.triggers h.triggers
    case ids => exact hcredentials ▸ hids
    case digests => exact hcredentials ▸ hdigests
    case active =>
      rw [hcredentials]
      exact h.active.replace (ends_revoke _) (AuthCredential.new binding issued)
    case refers =>
      intro row hrow
      rw [hcredentials, List.mem_append, List.mem_singleton] at hrow
      rcases hrow with hrow | rfl
      · obtain ⟨before, hbefore, -, hbinding, -⟩ := mem_revoked hrow
        rw [hbinding]
        exact hgrows.refers _ (h.refers before hbefore)
      · exact hgrows.refers _ hrefers
    case issued =>
      rw [hissued, hcredentials]
      intro row hrow
      rw [List.mem_append, List.mem_singleton] at hrow
      rcases hrow with hrow | rfl
      · obtain ⟨before, hbefore, hid, -, hdigest⟩ := mem_revoked hrow
        obtain ⟨token, htoken, hbefore⟩ := h.issued before hbefore
        exact ⟨token, List.mem_append_left _ (hid ▸ htoken), hdigest.trans hbefore⟩
      · exact ⟨issued.token, List.mem_append_right _ (List.mem_singleton_self _), rfl⟩
    case kept =>
      rw [hissued, hcredentials]
      intro id token htoken
      rw [List.mem_append, List.mem_singleton, Prod.mk.injEq] at htoken
      rcases htoken with htoken | ⟨rfl, rfl⟩
      · obtain ⟨row, hrow, hid, hdigest⟩ := h.kept id token htoken
        obtain ⟨later, hlater, hkeeps⟩ := mem_revoked_of_mem hrow
        exact ⟨later, List.mem_append_left _ hlater, hkeeps.id.trans hid,
          hkeeps.tokenDigest.trans hdigest⟩
      · exact ⟨_, List.mem_append_right _ (List.mem_singleton_self _), rfl, rfl⟩

theorem sound_init : Sound AuthState.init where
  triggers := List.nodup_nil
  ids := List.nodup_nil
  digests := List.nodup_nil
  active := OneLive.nil
  refers _ h := absurd h List.not_mem_nil
  issued _ h := absurd h List.not_mem_nil
  kept _ _ h := absurd h List.not_mem_nil

/-! ## Authentication -/

/-- A token authenticates exactly if an active row has its digest. -/
theorem authenticate_ok (h : Sound s) {token : String} {principal : Principal} :
    authenticate token s = .ok principal ↔ token ≠ "" ∧ byteLen token ≤ maxTokenLength ∧
      ∃ row ∈ s.credentials, row.tokenDigest = tokenDigest token ∧ row.isActive = true ∧
        principal = principalFromRow row := by
  rw [authenticate]
  split
  case isTrue hbad =>
    apply iff_of_false
    · intro hok
      cases hok
    · rintro ⟨hne, hle, -⟩
      rcases hbad with hempty | hlong
      · exact hne hempty
      · omega
  case isFalse hgood =>
    rw [not_or, not_lt] at hgood
    rw [← and_assoc, and_iff_right hgood]
    cases hfind : s.credentials.find? fun c =>
        decide (c.tokenDigest = tokenDigest token) && c.isActive with
    | none =>
      apply iff_of_false
      · intro hok
        cases hok
      · rintro ⟨row, hrow, hdigest, hactive, -⟩
        have hmiss := List.find?_eq_none.1 hfind row hrow
        rw [hdigest, hactive, decide_eq_true rfl] at hmiss
        exact hmiss rfl
    | some row =>
      have hrow := List.mem_of_find?_eq_some hfind
      have hfound := List.find?_some hfind
      rw [Bool.and_eq_true, decide_eq_true_iff] at hfound
      constructor
      · intro hok
        exact ⟨row, hrow, hfound.1, hfound.2, (Except.ok.inj hok).symm⟩
      · rintro ⟨other, hother, hdigest, -, rfl⟩
        rw [h.digests.eq hrow hother (hfound.1.trans hdigest.symm)]

omit [Sha256] in
theorem credentialId_principalFromRow (row : AuthCredential) :
    (principalFromRow row).credentialId = row.id := by
  rw [principalFromRow]
  cases row.binding with
  | operator => rfl
  | agent agentId => rfl
  | trigger triggerId => rfl

omit [Sha256] in
theorem principalFromRow_eq {row other : AuthCredential} (hid : other.id = row.id)
    (hbinding : other.binding = row.binding) : principalFromRow other = principalFromRow row := by
  rw [principalFromRow, principalFromRow, hid, hbinding]

/-- A principal revalidates exactly if the row of its credential is active and names it. -/
theorem revalidatePrincipal_iff (h : Sound s) {principal : Principal} :
    revalidatePrincipal principal s = true ↔ ∃ row ∈ s.credentials, row.isActive = true ∧
      principalFromRow row = principal := by
  rw [revalidatePrincipal]
  cases hfind : s.credentials.find? fun c =>
      decide (c.id = principal.credentialId) && c.isActive with
  | none =>
    apply iff_of_false Bool.false_ne_true
    rintro ⟨row, hrow, hactive, rfl⟩
    have hmiss := List.find?_eq_none.1 hfind row hrow
    rw [credentialId_principalFromRow, hactive, decide_eq_true rfl] at hmiss
    exact hmiss rfl
  | some row =>
    have hrow := List.mem_of_find?_eq_some hfind
    have hfound := List.find?_some hfind
    rw [Bool.and_eq_true, decide_eq_true_iff] at hfound
    show decide (principalFromRow row = principal) = true ↔ _
    rw [decide_eq_true_iff]
    constructor
    · intro hprincipal
      exact ⟨row, hrow, hfound.2, hprincipal⟩
    · rintro ⟨other, hother, -, rfl⟩
      rw [credentialId_principalFromRow] at hfound
      rw [h.ids.eq hrow hother hfound.1]

/-! ## Runs -/

variable [UrlSafeNoPad]

/-- The state after a run from an empty database. -/
def authRun (cs : List AuthStep) : AuthState := runFrom AuthStep.next AuthState.init cs

theorem Sound.next (h : Sound s) (c : AuthStep) : Sound (c.next s) :=
  (moves_next h.triggers c).sound h

theorem sound_run (cs : List AuthStep) : Sound (authRun cs) :=
  runFrom_induction Sound (fun _ => True) (fun c _ _ h => h.next c) sound_init fun _ _ => trivial

/-- The rows of a run are kept by all that follows. -/
theorem extends_run (cs ds : List AuthStep) :
    Extends AuthCredential.Keeps (authRun cs).credentials (authRun (cs ++ ds)).credentials := by
  induction ds using List.reverseRecOn with
  | nil =>
    rw [List.append_nil]
    exact Extends.refl AuthCredential.Keeps.refl _
  | append_singleton ds d ih =>
    have hnext := (moves_next (sound_run (cs ++ ds)).triggers d).extends
    have hrun : authRun (cs ++ (ds ++ [d])) = d.next (authRun (cs ++ ds)) := by
      rw [← List.append_assoc]
      exact runFrom_snoc _ _ _ _
    rw [hrun]
    exact ih.trans AuthCredential.Keeps.trans hnext

/-- In every run a binding has at most one active credential, rows are kept and revoked ones do not
come back, a token authenticates exactly the row that was issued for it while that is active, and a
principal revalidates exactly while its token authenticates it. -/
theorem credentials_sound (cs : List AuthStep) :
    let s := authRun cs
    (∀ row ∈ s.credentials, ∀ other ∈ s.credentials, row.isActive = true → other.isActive = true →
        row.binding = other.binding → row = other) ∧
      (∀ row ∈ s.credentials, s.Refers row.binding) ∧
      (∀ ds, Extends AuthCredential.Keeps s.credentials (authRun (cs ++ ds)).credentials) ∧
      (∀ token principal, authenticate token s = .ok principal → ∀ ds,
        (revalidatePrincipal principal (authRun (cs ++ ds)) = true ↔
          authenticate token (authRun (cs ++ ds)) = .ok principal)) ∧
      ∀ token, Evidence.CollisionFree tokenDigest (token :: s.issued.map Prod.snd) → ∀ principal,
        (authenticate token s = .ok principal ↔ token ≠ "" ∧ byteLen token ≤ maxTokenLength ∧
          ∃ row ∈ s.credentials, row.isActive = true ∧ (row.id, token) ∈ s.issued ∧
            principal = principalFromRow row) := by
  intro s
  have hsound : Sound s := sound_run cs
  have hnodup : s.credentials.Nodup := List.Nodup.of_map _ hsound.ids
  refine ⟨?_, hsound.refers, extends_run cs, ?_, ?_⟩
  · intro row hrow other hother hactive hactive' hbinding
    exact hsound.active.eq hnodup hrow hother hactive hactive' hbinding
  · intro token principal hauth ds
    have hlater := sound_run (cs ++ ds)
    obtain ⟨hne, hle, row, hrow, hdigest, -, rfl⟩ := (authenticate_ok hsound).1 hauth
    obtain ⟨later, hmem, hkeeps⟩ := (extends_run cs ds).mem hrow
    have hprincipal := principalFromRow_eq hkeeps.id hkeeps.binding
    rw [revalidatePrincipal_iff hlater, authenticate_ok hlater]
    constructor
    · rintro ⟨found, hfound, hactive, heq⟩
      have hid : found.id = later.id := by
        rw [← credentialId_principalFromRow, heq, credentialId_principalFromRow, hkeeps.id]
      rw [hlater.ids.eq hfound hmem hid] at hactive
      exact ⟨hne, hle, later, hmem, hkeeps.tokenDigest.trans hdigest, hactive, hprincipal.symm⟩
    · rintro ⟨-, -, found, hfound, hfoundDigest, hactive, heq⟩
      exact ⟨found, hfound, hactive, heq.symm⟩
  · intro token hfree principal
    rw [authenticate_ok hsound]
    constructor
    · rintro ⟨hne, hle, row, hrow, hdigest, hactive, rfl⟩
      obtain ⟨other, hissued, hother⟩ := hsound.issued row hrow
      have hsame : token = other := hfree token List.mem_cons_self other
        (List.mem_cons_of_mem _ (List.mem_map_of_mem hissued)) (hdigest.symm.trans hother)
      exact ⟨hne, hle, row, hrow, hactive, hsame ▸ hissued, rfl⟩
    · rintro ⟨hne, hle, row, hrow, hactive, hissued, rfl⟩
      obtain ⟨other, hother, hid, hdigest⟩ := hsound.kept row.id token hissued
      rw [hsound.ids.eq hother hrow hid] at hdigest
      exact ⟨hne, hle, row, hrow, hdigest, hactive, rfl⟩

end Fleetd.Auth
