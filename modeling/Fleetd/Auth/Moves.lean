import Fleetd.Auth.Credential
import Fleetd.System.Triggers

/-!
# What the authentication steps do

Every step leaves the credentials as they are, enrols a new agent or trigger with its first one,
retires a trigger with its last one, or replaces the one of a binding.
-/

namespace Fleetd.Auth

open Relational Relational.Transaction

variable {s t : AuthState}

/-! ## Statements -/

theorem inStore_ok {α : Type} {x : Tx α} {a : α} :
    inStore x s = .ok (a, t) ↔ ∃ store, x s.store = .ok (a, store) ∧ t = { s with store := store } := by
  rw [inStore]
  cases x s.store with
  | error error =>
    apply iff_of_false
    · intro h
      cases h
    · rintro ⟨_, h, _⟩
      cases h
  | ok result =>
    obtain ⟨b, store⟩ := result
    constructor
    · intro h
      cases h
      exact ⟨store, rfl, rfl⟩
    · rintro ⟨_, h, rfl⟩
      cases h
      rfl

theorem revokeCredentials_ok {binding : CredentialBinding} {now : Int} {u : Unit} :
    revokeCredentials binding now s = .ok (u, t) ↔ t = { s with
      credentials := endLive AuthCredential.binding AuthCredential.isActive
        (AuthCredential.revoke now) binding s.credentials } := by
  rw [revokeCredentials, write_ok, Prod.mk.injEq]
  exact ⟨fun h => h.2.symm, fun h => ⟨rfl, h.symm⟩⟩

/-- Revocation ends a row in its slot. -/
theorem ends_revoke (now : Int) :
    Ends AuthCredential.binding AuthCredential.isActive (AuthCredential.revoke now) where
  dead _ := rfl
  slot _ := rfl

/-- The trigger is there and was retired. -/
def AuthState.Retired (triggerId : String) (s : AuthState) : Prop :=
  ∃ trigger ∈ s.store.triggers, trigger.id = triggerId ∧ trigger.state ≠ .active

section Unused

variable [Sha256]

/-- No row has the identity or the digest of an issued credential. -/
def AuthState.Unused (issued : IssuedCredential) (s : AuthState) : Prop :=
  ∀ c ∈ s.credentials, c.id ≠ issued.id ∧ c.tokenDigest ≠ tokenDigest issued.token

theorem insertCredential_ok {binding : CredentialBinding} {issued : IssuedCredential} {u : Unit} :
    insertCredential binding issued s = .ok (u, t) ↔ s.Unused issued ∧ s.Refers binding ∧ t = { s with
      credentials := s.credentials ++ [AuthCredential.new binding issued]
      issued := s.issued ++ [(issued.id, issued.token)] } := by
  simp only [insertCredential, bind_ok, read_ok, ensure_ok, write_ok, Prod.mk.injEq]
  constructor
  · rintro ⟨_, _, ⟨rfl, rfl⟩, _, _, ⟨hunused, rfl⟩, _, _, ⟨hrefers, rfl⟩, _, rfl⟩
    exact ⟨hunused, hrefers, rfl⟩
  · rintro ⟨hunused, hrefers, rfl⟩
    exact ⟨_, _, ⟨rfl, rfl⟩, (), _, ⟨hunused, rfl⟩, (), _, ⟨hrefers, rfl⟩, trivial, rfl⟩

/-- Revocation uses no identity and no digest. -/
theorem unused_revoked {issued : IssuedCredential} {binding : CredentialBinding} {now : Int}
    (h : ∀ c ∈ endLive AuthCredential.binding AuthCredential.isActive (AuthCredential.revoke now)
      binding s.credentials, c.id ≠ issued.id ∧ c.tokenDigest ≠ tokenDigest issued.token) :
    s.Unused issued := by
  intro c hc
  by_cases hlive : liveIn AuthCredential.binding AuthCredential.isActive binding c = true
  · exact h (c.revoke now) (mem_updateWhere_of_pos hc hlive)
  · exact h c (mem_updateWhere_of_neg hc (Bool.eq_false_iff.2 hlive))

end Unused

/-! ## Agents and triggers -/

/-- What is referred to stays, and the same triggers are retired. -/
structure Grows (s t : AuthState) : Prop where
  refers : ∀ binding, s.Refers binding → t.Refers binding
  retired : ∀ triggerId, t.Retired triggerId ↔ s.Retired triggerId
  triggers : KeyUnique Trigger.id s.store.triggers → KeyUnique Trigger.id t.store.triggers

theorem Grows.refl (s : AuthState) : Grows s s := ⟨fun _ => id, fun _ => Iff.rfl, id⟩

theorem grows_of_eq (hagents : t.store.agents = s.store.agents)
    (htriggers : t.store.triggers = s.store.triggers) : Grows s t where
  refers binding h := by
    cases binding with
    | operator => trivial
    | agent agentId =>
      show ∃ a ∈ t.store.agents, _
      rw [hagents]
      exact h
    | trigger triggerId =>
      show ∃ x ∈ t.store.triggers, _
      rw [htriggers]
      exact h
  retired triggerId := by rw [AuthState.Retired, AuthState.Retired, htriggers]
  triggers h := htriggers ▸ h

theorem grows_of_agent {agent : Agent} (hagents : t.store.agents = s.store.agents ++ [agent])
    (htriggers : t.store.triggers = s.store.triggers) : Grows s t where
  refers binding h := by
    cases binding with
    | operator => trivial
    | agent agentId =>
      obtain ⟨a, ha, hid⟩ := h
      exact ⟨a, hagents ▸ List.mem_append_left _ ha, hid⟩
    | trigger triggerId =>
      show ∃ x ∈ t.store.triggers, _
      rw [htriggers]
      exact h
  retired triggerId := by rw [AuthState.Retired, AuthState.Retired, htriggers]
  triggers h := htriggers ▸ h

theorem grows_of_trigger {trigger : Trigger} (hagents : t.store.agents = s.store.agents)
    (htriggers : t.store.triggers = s.store.triggers ++ [trigger]) (hactive : trigger.state = .active)
    (hnew : ∀ x ∈ s.store.triggers, x.id ≠ trigger.id) : Grows s t where
  refers binding h := by
    cases binding with
    | operator => trivial
    | agent agentId =>
      show ∃ a ∈ t.store.agents, _
      rw [hagents]
      exact h
    | trigger triggerId =>
      obtain ⟨x, hx, hid⟩ := h
      exact ⟨x, htriggers ▸ List.mem_append_left _ hx, hid⟩
  retired triggerId := by
    constructor
    · rintro ⟨x, hx, hid, hretired⟩
      rw [htriggers, List.mem_append, List.mem_singleton] at hx
      rcases hx with hx | rfl
      · exact ⟨x, hx, hid, hretired⟩
      · exact absurd hactive hretired
    · rintro ⟨x, hx, hid, hretired⟩
      exact ⟨x, htriggers ▸ List.mem_append_left _ hx, hid, hretired⟩
  triggers h := by
    rw [htriggers]
    apply h.append (KeyUnique.singleton _ _)
    intro x hx y hy
    rw [List.mem_singleton.1 hy]
    exact hnew x hx

/-- Rewriting triggers without their identities and states. -/
theorem grows_of_update {p : Trigger → Bool} {f : Trigger → Trigger}
    (hagents : t.store.agents = s.store.agents)
    (htriggers : t.store.triggers = updateWhere p f s.store.triggers)
    (hf : ∀ x, (f x).id = x.id ∧ (f x).state = x.state) : Grows s t := by
  have hrow : ∀ x, (if p x then f x else x).id = x.id ∧ (if p x then f x else x).state = x.state := by
    intro x
    by_cases hp : p x = true
    · rw [if_pos hp]
      exact hf x
    · rw [if_neg hp]
      exact ⟨rfl, rfl⟩
  have hmem : ∀ x ∈ s.store.triggers, (if p x then f x else x) ∈ t.store.triggers := by
    intro x hx
    rw [htriggers]
    exact mem_updateWhere.2 ⟨x, hx, rfl⟩
  constructor
  case refers =>
    intro binding h
    cases binding with
    | operator => trivial
    | agent agentId =>
      show ∃ a ∈ t.store.agents, _
      rw [hagents]
      exact h
    | trigger triggerId =>
      obtain ⟨x, hx, hid⟩ := h
      exact ⟨_, hmem x hx, (hrow x).1.trans hid⟩
  case retired =>
    intro triggerId
    constructor
    · rintro ⟨x, hx, hid, hretired⟩
      rw [htriggers] at hx
      obtain ⟨y, hy, rfl⟩ := mem_updateWhere.1 hx
      rw [(hrow y).1] at hid
      rw [(hrow y).2] at hretired
      exact ⟨y, hy, hid, hretired⟩
    · rintro ⟨x, hx, hid, hretired⟩
      exact ⟨_, hmem x hx, (hrow x).1.trans hid, (hrow x).2 ▸ hretired⟩
  case triggers =>
    intro h
    rw [htriggers]
    exact h.updateWhere fun x _ _ => (hf x).1

/-! ## Steps -/

section Steps

variable [Sha256]

/-- What a step does to the credentials. -/
inductive AuthMove (c : AuthStep) (s t : AuthState) : Prop
  | kept (hgrows : Grows s t) (hcredentials : t.credentials = s.credentials)
      (hissued : t.issued = s.issued)
  | enrolled (binding : CredentialBinding) (issued : IssuedCredential) (hunused : s.Unused issued)
      (hnew : ¬s.Refers binding) (hrefers : t.Refers binding) (hgrows : Grows s t)
      (hcredentials : t.credentials = s.credentials ++ [AuthCredential.new binding issued])
      (hissued : t.issued = s.issued ++ [(issued.id, issued.token)])
  | retired (triggerId : String) (now : Int) (hactive : ¬s.Retired triggerId)
      (hrefers : ∀ binding, s.Refers binding → t.Refers binding)
      (hretired : ∀ other, t.Retired other ↔ s.Retired other ∨ other = triggerId)
      (htriggers : KeyUnique Trigger.id t.store.triggers)
      (hcredentials : t.credentials = endLive AuthCredential.binding AuthCredential.isActive
        (AuthCredential.revoke now) (.trigger triggerId) s.credentials)
      (hissued : t.issued = s.issued)
  | replaced (binding : CredentialBinding) (issued : IssuedCredential) (hunused : s.Unused issued)
      (hrefers : s.Refers binding) (hgrows : Grows s t)
      (horigin : ∀ triggerId, binding = .trigger triggerId → ∃ index id now,
        c = .resume index id now ∧ s.calls[index]? = some (.rotatingTrigger triggerId issued))
      (hcredentials : t.credentials = endLive AuthCredential.binding AuthCredential.isActive
        (AuthCredential.revoke issued.createdAtMs) binding s.credentials ++
          [AuthCredential.new binding issued])
      (hissued : t.issued = s.issued ++ [(issued.id, issued.token)])

variable {c : AuthStep}

theorem AuthMove.refl (s : AuthState) : AuthMove c s s := .kept (Grows.refl s) rfl rfl

/-- A transaction that was rolled back moves nothing. -/
theorem moves_commit {α : Type} {x : AuthTx α} (h : ∀ a t, x s = .ok (a, t) → AuthMove c s t) :
    AuthMove c s (commit x s) := by
  rcases commit_cases x s with ⟨a, hok⟩ | ⟨-, hsame⟩
  · exact h a _ hok
  · rw [hsame]
    exact .refl s

omit [Sha256] in
theorem createAgent_ok {id name : String} {now : Int} {agent : Agent} {store store' : Store}
    (h : createAgent id name now store = .ok (agent, store')) :
    (∀ a ∈ store.agents, a.id ≠ agent.id) ∧ store'.agents = store.agents ++ [agent] ∧
      store'.triggers = store.triggers := by
  simp only [createAgent, bind_ok, check_ok, read_ok, ensure_ok, write_ok, pure_ok,
    Prod.mk.injEq] at h
  obtain ⟨_, _, ⟨_, rfl⟩, _, _, ⟨rfl, rfl⟩, _, _, ⟨hunique, rfl⟩, _, _, ⟨_, rfl⟩, rfl, rfl⟩ := h
  exact ⟨fun a ha => (hunique a ha).1, rfl, rfl⟩

omit [Sha256] in
theorem registerTrigger_ok {id : String} {input : RegisterTrigger} {now : Int} {trigger : Trigger}
    {store store' : Store} (h : Fleetd.registerTrigger id input now store = .ok (trigger, store')) :
    (∀ x ∈ store.triggers, x.id ≠ trigger.id) ∧ trigger.state = .active ∧
      store'.agents = store.agents ∧ store'.triggers = store.triggers ++ [trigger] := by
  simp only [Fleetd.registerTrigger, bind_ok, check_ok, read_ok, ensure_ok, write_ok, pure_ok,
    Prod.mk.injEq] at h
  obtain ⟨_, _, ⟨hnew, rfl⟩, _, _, ⟨rfl, rfl⟩, _, _, ⟨hunique, rfl⟩, _, _, ⟨_, rfl⟩, _, _,
    ⟨_, rfl⟩, rfl, rfl⟩ := h
  have hactive : Trigger.state _ = .active := (newTrigger_ok hnew).2.1
  exact ⟨fun x hx => (hunique x hx).1, hactive, rfl, rfl⟩

theorem moves_createAgent {agentId name : String} {now : Int} :
    AuthMove c s (commit (inStore (createAgent agentId name now)) s) := by
  apply moves_commit
  intro agent t h
  obtain ⟨store, hok, rfl⟩ := inStore_ok.1 h
  obtain ⟨-, hagents, htriggers⟩ := createAgent_ok hok
  exact .kept (grows_of_agent hagents htriggers) rfl rfl

variable [UrlSafeNoPad]

theorem moves_registerAgent {agentId name issuedId : String} {entropy : Entropy} {now : Int} :
    AuthMove c s (commit (registerAgent agentId name issuedId entropy now) s) := by
  apply moves_commit
  rintro result t h
  simp only [registerAgent, bind_ok, check_ok, pure_ok] at h
  obtain ⟨_, _, hname, issued, _, ⟨_, rfl⟩, agent, _, hagent, _, _, hinsert, -, rfl⟩ := h
  obtain ⟨_, hcheck, rfl⟩ := inStore_ok.1 hname
  obtain ⟨-, rfl⟩ := check_ok.1 hcheck
  obtain ⟨store, hok, rfl⟩ := inStore_ok.1 hagent
  obtain ⟨hunused, hrefers, rfl⟩ := insertCredential_ok.1 hinsert
  obtain ⟨hnew, hagents, htriggers⟩ := createAgent_ok hok
  refine .enrolled (.agent agent.id) issued hunused ?_ hrefers (grows_of_agent hagents htriggers) rfl rfl
  rintro ⟨a, ha, hid⟩
  exact hnew a ha hid

theorem moves_registerTrigger {triggerId issuedId : String} {input : RegisterTrigger}
    {entropy : Entropy} {now : Int} :
    AuthMove c s (commit (registerTrigger triggerId input issuedId entropy now) s) := by
  apply moves_commit
  rintro result t h
  simp only [registerTrigger, bind_ok, check_ok, pure_ok] at h
  obtain ⟨issued, _, ⟨_, rfl⟩, trigger, _, htrigger, _, _, hinsert, -, rfl⟩ := h
  obtain ⟨store, hok, rfl⟩ := inStore_ok.1 htrigger
  obtain ⟨hunused, hrefers, rfl⟩ := insertCredential_ok.1 hinsert
  obtain ⟨hnew, hactive, hagents, htriggers⟩ := registerTrigger_ok hok
  refine .enrolled (.trigger trigger.id) issued hunused ?_ hrefers
    (grows_of_trigger hagents htriggers hactive hnew) rfl rfl
  rintro ⟨x, hx, hid⟩
  exact hnew x hx hid

omit [UrlSafeNoPad] in
/-- Revoking and issuing within one transaction replaces the credential of a binding. -/
theorem moves_replace {binding : CredentialBinding} {mid : AuthState} {u v : Unit}
    (issued : IssuedCredential) (before : AuthState) (hstore : before.store = s.store) (hcredentials : before.credentials = s.credentials)
    (hissued : before.issued = s.issued)
    (hrevoke : revokeCredentials binding issued.createdAtMs before = .ok (u, mid))
    (hinsert : insertCredential binding issued mid = .ok (v, t))
    (horigin : ∀ triggerId, binding = .trigger triggerId → ∃ index id now,
      c = .resume index id now ∧ s.calls[index]? = some (.rotatingTrigger triggerId issued)) :
    AuthMove c s t := by
  obtain rfl := revokeCredentials_ok.1 hrevoke
  obtain ⟨hunused, hrefers, rfl⟩ := insertCredential_ok.1 hinsert
  have hgrows : Grows s before := grows_of_eq (congrArg _ hstore) (congrArg _ hstore)
  have hrefers' : s.Refers binding := by
    cases binding with
    | operator => trivial
    | agent agentId =>
      show ∃ a ∈ s.store.agents, _
      rw [← hstore]
      exact hrefers
    | trigger triggerId =>
      show ∃ x ∈ s.store.triggers, _
      rw [← hstore]
      exact hrefers
  refine .replaced binding issued (unused_revoked (hcredentials ▸ hunused)) hrefers'
    ⟨hgrows.refers, hgrows.retired, hgrows.triggers⟩ horigin ?_ ?_
  · rw [hcredentials]
  · rw [hissued]

theorem moves_rotateAgentCredential {agentId issuedId : String} {entropy : Entropy} {now : Int} :
    AuthMove c s (commit (rotateAgentCredential agentId issuedId entropy now) s) := by
  apply moves_commit
  rintro result t h
  simp only [rotateAgentCredential, bind_ok, check_ok, read_ok, ensure_ok, pure_ok] at h
  obtain ⟨issued, _, ⟨_, rfl⟩, _, _, ⟨rfl, rfl⟩, _, _, ⟨_, rfl⟩, _, mid, hrevoke, _, _, hinsert, -, rfl⟩ := h
  exact moves_replace _ _ rfl rfl rfl hrevoke hinsert fun _ h => CredentialBinding.noConfusion h

/-- The call waits with what it read. -/
theorem moves_rotateTriggerCredential {triggerId issuedId : String} {entropy : Entropy} {now : Int} :
    AuthMove c s (commit (rotateTriggerCredential triggerId issuedId entropy now) s) := by
  apply moves_commit
  rintro result t h
  simp only [rotateTriggerCredential, getTrigger, bind_ok, check_ok, ensure_ok, write_ok,
    Prod.mk.injEq] at h
  obtain ⟨issued, _, ⟨_, rfl⟩, trigger, _, hread, _, _, ⟨_, rfl⟩, -, rfl⟩ := h
  obtain ⟨store, hok, rfl⟩ := inStore_ok.1 hread
  simp only [triggerInTransaction, bind_ok, read_ok, require_ok] at hok
  obtain ⟨_, _, ⟨_, rfl⟩, _, rfl⟩ := hok
  exact .kept (grows_of_eq rfl rfl) rfl rfl

omit [UrlSafeNoPad] in
/-- A trigger that was active is retired with its credential; otherwise nothing changes. -/
theorem moves_retireTrigger (hunique : KeyUnique Trigger.id s.store.triggers)
    {triggerId reason : String} {now : Int} :
    AuthMove c s (commit (retireTrigger triggerId reason now) s) := by
  apply moves_commit
  rintro result t h
  simp only [retireTrigger, retireTriggerRow, bind_ok, ensure_ok, read_ok] at h
  obtain ⟨_, _, ⟨_, rfl⟩, moved, _, ⟨rfl, rfl⟩, _, mid, hretire, hrevoke⟩ := h
  obtain ⟨store, hok, rfl⟩ := inStore_ok.1 hretire
  rw [write_ok, Prod.mk.injEq] at hok
  obtain ⟨-, rfl⟩ := hok
  by_cases hmoved : (s.store.triggers.any fun x =>
      decide (x.id = triggerId) && decide (x.state = .active)) = true
  · rw [hmoved, if_pos rfl] at hrevoke
    obtain rfl := revokeCredentials_ok.1 hrevoke
    obtain ⟨trigger, hmem, hselected⟩ := List.any_eq_true.1 hmoved
    rw [Bool.and_eq_true, decide_eq_true_iff, decide_eq_true_iff] at hselected
    refine .retired triggerId now ?_ ?_ ?_ ?_ rfl rfl
    · rintro ⟨x, hx, hid, hretired⟩
      rw [hunique.eq hx hmem (hid.trans hselected.1.symm)] at hretired
      exact hretired hselected.2
    · intro binding hrefers
      cases binding with
      | operator => trivial
      | agent agentId => exact hrefers
      | trigger other =>
        obtain ⟨x, hx, hid⟩ := hrefers
        refine ⟨_, mem_updateWhere.2 ⟨x, hx, rfl⟩, ?_⟩
        split
        · exact hid
        · exact hid
    · intro other
      constructor
      · rintro ⟨x, hx, hid, hretired⟩
        obtain ⟨y, hy, rfl⟩ := mem_updateWhere.1 hx
        by_cases hy' : (decide (y.id = triggerId) && decide (y.state = .active)) = true
        · rw [if_pos hy'] at hid
          rw [Bool.and_eq_true, decide_eq_true_iff, decide_eq_true_iff] at hy'
          exact .inr (hid.symm.trans hy'.1)
        · rw [if_neg hy'] at hid hretired
          exact .inl ⟨y, hy, hid, hretired⟩
      · rintro (⟨x, hx, hid, hretired⟩ | rfl)
        · refine ⟨x, mem_updateWhere_of_neg hx ?_, hid, hretired⟩
          rw [decide_eq_false hretired, Bool.and_false]
        · refine ⟨_, mem_updateWhere_of_pos hmem ?_, hselected.1, TriggerState.noConfusion⟩
          rw [decide_eq_true hselected.1, decide_eq_true hselected.2]
          rfl
    · exact hunique.updateWhere fun x _ _ => rfl
  · rw [Bool.eq_false_iff.2 hmoved, if_neg Bool.false_ne_true, pure_ok] at hrevoke
    obtain ⟨-, rfl⟩ := hrevoke
    have hsame := updateWhere_eq_self (f := fun x : Trigger =>
      { x with state := .retired now reason, updatedAtMs := now })
      (List.any_eq_false.1 (Bool.eq_false_iff.2 hmoved) · · |> Bool.eq_false_iff.2)
    exact .kept (grows_of_eq rfl hsame) rfl rfl

omit [UrlSafeNoPad] in
/-- A call in flight goes on with one statement of its own. -/
theorem moves_resume {index : Nat} {id : String} {now : Int} :
    AuthMove (.resume index id now) s (resumeCall index id now s) := by
  rw [resumeCall]
  cases hcall : s.calls[index]? with
  | none => exact .refl s
  | some call =>
    let rest : AuthState := { s with calls := s.calls.eraseIdx index }
    have hrolled : AuthMove (.resume index id now) s rest := .kept (grows_of_eq rfl rfl) rfl rfl
    show AuthMove (.resume index id now) s (commit (call.resume id now) rest)
    rcases commit_cases (call.resume id now) rest with ⟨u, hok⟩ | ⟨-, hsame⟩
    · generalize commit (call.resume id now) rest = final at hok ⊢
      cases call with
      | rotatingTrigger triggerId issued =>
        simp only [AuthCall.resume, replaceTriggerCredential, bind_ok] at hok
        obtain ⟨_, mid, hrevoke, hinsert⟩ := hok
        refine moves_replace issued rest rfl rfl rfl hrevoke hinsert ?_
        intro other hother
        cases hother
        exact ⟨index, id, now, rfl, hcall⟩
      | rotatingOperator token =>
        simp only [AuthCall.resume, rotateOperatorDigest, bind_ok] at hok
        obtain ⟨_, mid, hrevoke, hinsert⟩ := hok
        exact moves_replace ⟨id, token, now⟩ rest rfl rfl rfl hrevoke hinsert
          fun _ h => CredentialBinding.noConfusion h
      | readingOperator tokenPath token =>
        simp only [AuthCall.resume, readOperatorDigest, bind_ok, read_ok] at hok
        obtain ⟨_, _, ⟨rfl, rfl⟩, hok⟩ := hok
        generalize List.find? _ rest.credentials = found at hok
        cases found with
        | some row =>
          rw [ensure_ok] at hok
          rw [← hok.2]
          exact hrolled
        | none =>
          rw [write_ok, Prod.mk.injEq] at hok
          rw [← hok.2]
          exact .kept (grows_of_eq rfl rfl) rfl rfl
    · rw [hsame]
      exact hrolled

omit [Sha256] in
/-- Only the file and the calls in flight change when an operator's token is read. -/
theorem ensureOperatorCredential_same [Sha256] (tokenPath : String) (entropy : Entropy) (s : AuthState) :
    (ensureOperatorCredential tokenPath entropy s).store = s.store ∧
      (ensureOperatorCredential tokenPath entropy s).credentials = s.credentials ∧
      (ensureOperatorCredential tokenPath entropy s).issued = s.issued := by
  rw [ensureOperatorCredential]
  cases hfile : ensureTokenFile tokenPath entropy s with
  | error error => exact ⟨rfl, rfl, rfl⟩
  | ok result =>
    obtain ⟨token, t⟩ := result
    have hsame : t.store = s.store ∧ t.credentials = s.credentials ∧ t.issued = s.issued := by
      simp only [ensureTokenFile, bind_ok, read_ok] at hfile
      obtain ⟨_, _, ⟨rfl, rfl⟩, hfile⟩ := hfile
      cases hcontent : s.files tokenPath with
      | some content =>
        rw [hcontent, pure_ok] at hfile
        rw [← hfile.2]
        exact ⟨rfl, rfl, rfl⟩
      | none =>
        rw [hcontent] at hfile
        simp only [bind_ok, check_ok, write_ok, Prod.mk.injEq] at hfile
        obtain ⟨_, _, ⟨_, rfl⟩, -, rfl⟩ := hfile
        exact ⟨rfl, rfl, rfl⟩
    dsimp only
    split
    · exact hsame
    · exact hsame

/-- Every step makes one of the moves. -/
theorem moves_next (hunique : KeyUnique Trigger.id s.store.triggers) (c : AuthStep) :
    AuthMove c s (c.next s) := by
  cases c with
  | createAgent agentId name now => exact moves_createAgent
  | registerAgent agentId name issuedId entropy now => exact moves_registerAgent
  | rotateAgentCredential agentId issuedId entropy now => exact moves_rotateAgentCredential
  | registerTrigger triggerId input issuedId entropy now => exact moves_registerTrigger
  | retireTrigger triggerId reason now => exact moves_retireTrigger hunique
  | rotateTriggerCredential triggerId issuedId entropy now => exact moves_rotateTriggerCredential
  | ensureOperatorCredential tokenPath entropy =>
    obtain ⟨hstore, hcredentials, hissued⟩ := ensureOperatorCredential_same tokenPath entropy s
    exact .kept (grows_of_eq (congrArg _ hstore) (congrArg _ hstore)) hcredentials hissued
  | resume index id now => exact moves_resume
  | cancel index => exact .kept (grows_of_eq rfl rfl) rfl rfl
  | recordTriggerOccurrence triggerId occurrenceId now =>
    show AuthMove _ s (commit (inStore (Fleetd.recordTriggerOccurrence triggerId occurrenceId now)) s)
    apply moves_commit
    intro created t h
    obtain ⟨store, hok, rfl⟩ := inStore_ok.1 h
    rw [Fleetd.recordTriggerOccurrence, write_ok, Prod.mk.injEq] at hok
    obtain ⟨-, rfl⟩ := hok
    exact .kept (grows_of_update rfl rfl fun x => ⟨rfl, rfl⟩) rfl rfl
  | replaceFile path content => exact .kept (grows_of_eq rfl rfl) rfl rfl
  | writeElsewhere store =>
    show AuthMove _ s (if store.agents = s.store.agents ∧ store.triggers = s.store.triggers then
      { s with store := store } else s)
    split
    case isTrue h => exact .kept (grows_of_eq h.1 h.2) rfl rfl
    case isFalse => exact .refl s

end Steps

end Fleetd.Auth
