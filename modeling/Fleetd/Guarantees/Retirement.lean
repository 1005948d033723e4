import Fleetd.Guarantees.Credentials

/-!
# Retired triggers

Retirement revokes the credential of a trigger, and a retired trigger is refused another. The
rotation reads the state of the trigger before its transaction, though: it is exactly a rotation that
commits after the retirement that leaves a retired trigger with an active credential, for good.
-/

namespace Fleetd.Auth

open Relational Relational.Transaction

variable [Sha256] {s t : AuthState} {c : AuthStep}

/-- A rotation that read its trigger as active commits on a retired one. -/
def Revives (c : AuthStep) (s : AuthState) : Prop :=
  ∃ index id now triggerId issued, c = .resume index id now ∧
    s.calls[index]? = some (.rotatingTrigger triggerId issued) ∧ s.Retired triggerId ∧ s.Unused issued

omit [Sha256] in
/-- No retired trigger has an active credential. -/
def RetiredSilent (s : AuthState) : Prop :=
  ∀ triggerId, s.Retired triggerId → ∀ row ∈ s.credentials, row.binding = .trigger triggerId →
    row.isActive = false

omit [Sha256] in
/-- A retired trigger is referred to. -/
theorem AuthState.Retired.refers {triggerId : String} (h : s.Retired triggerId) :
    s.Refers (.trigger triggerId) := by
  obtain ⟨trigger, htrigger, hid, -⟩ := h
  exact ⟨trigger, htrigger, hid⟩

omit [Sha256] in
/-- Revocation leaves silent what was silent. -/
theorem silent_revoked {binding : CredentialBinding} {now : Int} {triggerId : String}
    {rows : List AuthCredential} (h : ∀ row ∈ rows, row.binding = .trigger triggerId → row.isActive = false)
    {row : AuthCredential} (hrow : row ∈ endLive AuthCredential.binding AuthCredential.isActive
      (AuthCredential.revoke now) binding rows) (hbinding : row.binding = .trigger triggerId) :
    row.isActive = false := by
  obtain ⟨before, hbefore, rfl⟩ := mem_updateWhere.1 hrow
  by_cases hlive : liveIn AuthCredential.binding AuthCredential.isActive binding before = true
  · rw [if_pos hlive]
    rfl
  · rw [if_neg hlive] at hbinding ⊢
    exact h before hbefore hbinding

omit [Sha256] in
/-- Revocation of another binding leaves an active row alone. -/
theorem mem_revoked_other {binding : CredentialBinding} {now : Int} {rows : List AuthCredential}
    {row : AuthCredential} (hrow : row ∈ rows) (hbinding : row.binding ≠ binding) :
    row ∈ endLive AuthCredential.binding AuthCredential.isActive (AuthCredential.revoke now) binding
      rows := by
  apply mem_updateWhere_of_neg hrow
  rw [Bool.eq_false_iff]
  intro hlive
  exact hbinding (liveIn_iff.1 hlive).2

/-- A move revives nothing unless it is such a rotation. -/
theorem AuthMove.silent (hmove : AuthMove c s t) (h : RetiredSilent s) (hc : ¬Revives c s) :
    RetiredSilent t := by
  intro triggerId hretired row hrow hbinding
  cases hmove with
  | kept hgrows hcredentials hissued =>
    exact h triggerId ((hgrows.retired _).1 hretired) row (hcredentials ▸ hrow) hbinding
  | enrolled binding issued hunused hnew hrefers hgrows hcredentials hissued =>
    have hbefore := (hgrows.retired _).1 hretired
    rw [hcredentials, List.mem_append, List.mem_singleton] at hrow
    rcases hrow with hrow | rfl
    · exact h triggerId hbefore row hrow hbinding
    · have hsame : binding = .trigger triggerId := hbinding
      exact absurd (hsame ▸ hbefore.refers) hnew
  | retired other now hactive hrefers hretiredNow htriggers hcredentials hissued =>
    rw [hcredentials] at hrow
    rcases (hretiredNow triggerId).1 hretired with hbefore | rfl
    · exact silent_revoked (h triggerId hbefore) hrow hbinding
    · exact not_live_of_mem_endLive (ends_revoke now) hrow hbinding
  | replaced binding issued hunused hrefers hgrows horigin hcredentials hissued =>
    have hbefore := (hgrows.retired _).1 hretired
    rw [hcredentials, List.mem_append, List.mem_singleton] at hrow
    rcases hrow with hrow | rfl
    · exact silent_revoked (h triggerId hbefore) hrow hbinding
    · obtain ⟨index, id, now, rfl, hcall⟩ := horigin triggerId hbinding
      exact absurd ⟨index, id, now, triggerId, issued, rfl, hcall, hbefore, hunused⟩ hc

/-- A retired trigger with an active credential keeps one. -/
theorem AuthMove.revived (hmove : AuthMove c s t) (h : ¬RetiredSilent s) : ¬RetiredSilent t := by
  intro hsilent
  apply h
  intro triggerId hretired row hrow hbinding
  cases hmove with
  | kept hgrows hcredentials hissued =>
    exact hsilent triggerId ((hgrows.retired _).2 hretired) row (hcredentials ▸ hrow) hbinding
  | enrolled binding issued hunused hnew hrefers hgrows hcredentials hissued =>
    apply hsilent triggerId ((hgrows.retired _).2 hretired) row _ hbinding
    rw [hcredentials]
    exact List.mem_append_left _ hrow
  | retired other now hactive hrefers hretiredNow htriggers hcredentials hissued =>
    have hother : row.binding ≠ .trigger other := by
      rw [hbinding]
      intro heq
      cases heq
      exact hactive hretired
    apply hsilent triggerId ((hretiredNow triggerId).2 (.inl hretired)) row _ hbinding
    rw [hcredentials]
    exact mem_revoked_other hrow hother
  | replaced binding issued hunused hrefers hgrows horigin hcredentials hissued =>
    have hafter := (hgrows.retired _).2 hretired
    by_cases hsame : row.binding = binding
    · -- the new row is active in the place of this one
      have hnew : (AuthCredential.new binding issued).isActive = false := by
        apply hsilent triggerId hafter _ _ (hsame.symm.trans hbinding)
        rw [hcredentials]
        exact List.mem_append_right _ (List.mem_singleton_self _)
      cases hnew
    · apply hsilent triggerId hafter row _ hbinding
      rw [hcredentials]
      exact List.mem_append_left _ (mem_revoked_other hrow hsame)

variable [UrlSafeNoPad]

/-- Such a rotation commits, and its credential is active. -/
theorem revived_of_revives (h : Revives c s) : ¬RetiredSilent (c.next s) := by
  obtain ⟨index, id, now, triggerId, issued, rfl, hcall, hretired, hunused⟩ := h
  let rest : AuthState := { s with calls := s.calls.eraseIdx index }
  let revoked : AuthState := { rest with
    credentials := endLive AuthCredential.binding AuthCredential.isActive
      (AuthCredential.revoke issued.createdAtMs) (.trigger triggerId) rest.credentials }
  let next : AuthState := { revoked with
    credentials := revoked.credentials ++ [AuthCredential.new (.trigger triggerId) issued]
    issued := revoked.issued ++ [(issued.id, issued.token)] }
  have hunused' : revoked.Unused issued := by
    intro row hrow
    obtain ⟨before, hbefore, hid, -, hdigest⟩ := mem_revoked hrow
    rw [hid, hdigest]
    exact hunused before hbefore
  have hok : replaceTriggerCredential triggerId issued rest = .ok ((), next) := by
    rw [replaceTriggerCredential, bind_ok]
    exact ⟨(), revoked, revokeCredentials_ok.2 rfl,
      insertCredential_ok.2 ⟨hunused', hretired.refers, rfl⟩⟩
  have hnext : AuthStep.next (.resume index id now) s = next := by
    show resumeCall index id now s = next
    rw [resumeCall, hcall]
    exact commit_of_ok hok
  rw [hnext]
  intro hsilent
  have hnew := hsilent triggerId hretired (AuthCredential.new (.trigger triggerId) issued)
    (List.mem_append_right _ (List.mem_singleton_self _)) rfl
  cases hnew

/-- A rotation that is overtaken by the retirement of its trigger. -/
def overtakenRun : List AuthStep :=
  let store : Store := { Store.empty with
    agents := [⟨"a", "alice", 1⟩]
    channels := [⟨"c", "work", .shared, none, 1, none⟩] }
  [.createAgent "a" "alice" 1,
    .writeElsewhere store,
    .registerTrigger "t" ⟨"nightly", "c", "a", ["work.requested"]⟩ "first" (.ok [1]) 2,
    .rotateTriggerCredential "t" "second" (.ok [2]) 3,
    .retireTrigger "t" "done" 4,
    .resume 0 "" 5]

-- The retired trigger is left with the second credential.
example : let _ : Sha256 := ⟨fun bytes => String.ofList (bytes.map fun b => Char.ofNat b.toNat)⟩
    let _ : UrlSafeNoPad := ⟨fun bytes => String.ofList (bytes.map fun b => Char.ofNat (48 + b.toNat)),
      fun _ => none⟩
    (authRun overtakenRun).credentials.map (fun row => (row.id, row.isActive)) =
      [("first", false), ("second", true)] := by
  decide +kernel

end Fleetd.Auth
