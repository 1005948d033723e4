import Fleetd.Stream.GrantBroker

/-!
# The broker's counters tell the truth

In every interleaving of issues, redeems and drops, the counters of the broker are the numbers of
unused grants and of live slots, no bound is exceeded, no counter that is adjusted is missing, and
each grant goes through one life: issued, then pruned, or consumed and checked before it expired,
then redeemed once and dropped once.
-/

namespace Fleetd

open Relational Tally

/-- The lives a grant can have so far. -/
inductive GrantLifeline : List GrantEvent → Prop
  | unborn : GrantLifeline []
  | issued (expiresAt) : GrantLifeline [.issued expiresAt]
  | pruned (expiresAt) : GrantLifeline [.issued expiresAt, .pruned]
  | consumed (expiresAt) : GrantLifeline [.issued expiresAt, .consumed]
  | refused (expiresAt error) : GrantLifeline [.issued expiresAt, .consumed, .rejected error]
  | checked {expiresAt now} (h : now < expiresAt) :
    GrantLifeline [.issued expiresAt, .consumed, .checked now]
  | rejected {expiresAt now} (h : now < expiresAt) (error) :
    GrantLifeline [.issued expiresAt, .consumed, .checked now, .rejected error]
  | cancelled {expiresAt now} (h : now < expiresAt) :
    GrantLifeline [.issued expiresAt, .consumed, .checked now, .cancelled]
  | redeemed {expiresAt now} (h : now < expiresAt) :
    GrantLifeline [.issued expiresAt, .consumed, .checked now, .redeemed]
  | dropped {expiresAt now} (h : now < expiresAt) :
    GrantLifeline [.issued expiresAt, .consumed, .checked now, .redeemed, .dropped]

/-! ## Where a grant is -/

/-- An unused grant and its life so far. -/
def unusedPlace (entry : (_ : String) × GrantRecord) : Nat × List GrantEvent :=
  (entry.2.issue, [.issued entry.2.expiresAt])

/-- A redeem under way and the life of its grant so far. -/
def Redemption.place (r : Redemption) : Nat × List GrantEvent :=
  (r.record.issue, match r.stage with
    | .consumed => [.issued r.record.expiresAt, .consumed]
    | .revalidating now => [.issued r.record.expiresAt, .consumed, .checked now]
    | .reserving now => [.issued r.record.expiresAt, .consumed, .checked now])

/-- A live slot and the life of its grant so far. -/
def RedeemedStreamGrant.place (g : RedeemedStreamGrant) : Nat × List GrantEvent :=
  (g.issue, [.issued g.expiresAt, .consumed, .checked g.checkedAt, .redeemed])

/-- Every grant that the broker still has to do with. -/
def grantPlaces (unused : List ((_ : String) × GrantRecord)) (redeeming : List Redemption)
    (live : List RedeemedStreamGrant) : List (Nat × List GrantEvent) :=
  unused.map unusedPlace ++ (redeeming.map Redemption.place ++ live.map RedeemedStreamGrant.place)

def BrokerSystem.places (w : BrokerSystem) : List (Nat × List GrantEvent) :=
  grantPlaces w.state.unused.entries w.redeeming w.live

/-- The credentials of the unused grants. -/
def BrokerState.unusedCredentials (state : BrokerState) : List String :=
  state.unused.entries.map fun entry => entry.2.credentialId

/-- The credentials of the live slots. -/
def BrokerSystem.liveCredentials (w : BrokerSystem) : List String :=
  w.live.map fun g => g.activeSlot.credentialId

/-- The invariant of the broker. -/
structure BrokerInvariant (limits : BrokerLimits) (w : BrokerSystem) : Prop where
  calm : w.panicked = false
  tracks : Tracks GrantLifeline w.issues w.places w.history
  unusedTally : Tallies w.state.unusedByCredential w.state.unusedCredentials
  activeTally : Tallies w.state.activeByCredential w.liveCredentials
  activeTotal : w.state.activeTotal = w.live.length
  unusedBound : w.state.unused.entries.length ≤ limits.unusedTotal
  unusedPerCredential : ∀ c, w.state.unusedCredentials.count c ≤ limits.unusedPerCredential
  activeBound : w.live.length ≤ limits.activeTotal
  activePerCredential : ∀ c, w.liveCredentials.count c ≤ limits.activePerCredential

section Steps

variable {limits : BrokerLimits} {w : BrokerSystem} {state : BrokerState} {digest : String}
  {record : GrantRecord}

/-! ## Under the lock -/

/-- A grant that is there is taken out with its counter. -/
theorem takeUnused_ok (hlookup : state.unused.lookup digest = some record)
    (htally : Tallies state.unusedByCredential state.unusedCredentials) :
    ∃ counts, state.takeUnused digest record = some { state with
        unused := state.unused.erase digest, unusedByCredential := counts } ∧
      Tallies counts ((state.unused.erase digest).entries.map fun entry => entry.2.credentialId) := by
  have hperm := (entries_perm_erase hlookup).map fun entry => entry.2.credentialId
  obtain ⟨counts, hcounts, hnext⟩ := (htally.perm hperm).decrement
  refine ⟨counts, ?_, hnext⟩
  rw [BrokerState.takeUnused, hcounts]
  rfl

/-- Some grants are taken out with their counters, and the others stay. -/
theorem removeAll_ok (digests : List String)
    (htally : Tallies state.unusedByCredential state.unusedCredentials) :
    ∃ next, state.removeAll digests = some next ∧
      Tallies next.unusedByCredential next.unusedCredentials ∧
      next.unused.entries =
        state.unused.entries.filter (fun entry => decide (entry.1 ∉ digests)) ∧
      next.activeByCredential = state.activeByCredential ∧ next.activeTotal = state.activeTotal := by
  induction digests generalizing state with
  | nil => exact ⟨state, rfl, htally, by simp, rfl, rfl⟩
  | cons digest rest ih =>
    rw [BrokerState.removeAll]
    cases hlookup : state.unused.lookup digest with
    | none =>
      obtain ⟨next, hnext, htally', hentries, hactive, htotal⟩ := ih htally
      refine ⟨next, hnext, htally', hentries.trans ?_, hactive, htotal⟩
      refine List.filter_congr fun entry hentry => ?_
      have hne : entry.1 ≠ digest := fun heq => by
        have hmem := AList.mem_lookup_iff.mpr hentry
        rw [heq, hlookup] at hmem
        cases hmem
      simp [hne]
    | some record =>
      obtain ⟨counts, htake, hcounts⟩ := takeUnused_ok hlookup htally
      obtain ⟨next, hnext, htally', hentries, hactive, htotal⟩ :=
        @ih { state with unused := state.unused.erase digest, unusedByCredential := counts } hcounts
      refine ⟨next, by simp only [htake]; exact hnext, htally', hentries.trans ?_, hactive, htotal⟩
      simp only [entries_erase, List.filter_filter]
      refine List.filter_congr fun entry _ => ?_
      simp [Bool.and_comm]

/-- Pruning takes out exactly the expired grants. -/
theorem pruneExpired_ok (now : Nat)
    (htally : Tallies state.unusedByCredential state.unusedCredentials) :
    ∃ next, state.pruneExpired now = some next ∧
      Tallies next.unusedByCredential next.unusedCredentials ∧
      next.unused.entries =
        state.unused.entries.filter (fun entry => !decide (entry.2.expiresAt ≤ now)) ∧
      next.activeByCredential = state.activeByCredential ∧ next.activeTotal = state.activeTotal := by
  obtain ⟨next, hnext, htally', hentries, hactive, htotal⟩ :=
    removeAll_ok ((state.expired now).map Sigma.fst) htally
  refine ⟨next, hnext, htally', hentries.trans ?_, hactive, htotal⟩
  refine List.filter_congr fun entry hentry => ?_
  have hiff : entry.1 ∈ (state.expired now).map Sigma.fst ↔ entry.2.expiresAt ≤ now := by
    constructor
    · intro hmem
      obtain ⟨other, hother, heq⟩ := List.mem_map.mp hmem
      obtain ⟨hother, hexpired⟩ := List.mem_filter.mp hother
      -- Keys are unique, so the expired entry of this digest is this entry.
      have hlookup := AList.mem_lookup_iff.mpr hother
      rw [heq, Option.mem_def.mp (AList.mem_lookup_iff.mpr hentry)] at hlookup
      have hsame : entry.2 = other.2 := Option.some.inj hlookup
      simpa [hsame] using hexpired
    · intro hexpired
      exact List.mem_map.mpr ⟨entry, List.mem_filter.mpr ⟨hentry, by simpa using hexpired⟩, rfl⟩
  rw [← decide_not, decide_eq_decide.mpr (not_congr hiff)]

/-- A slot is reserved below both bounds. -/
theorem reserveActive_ok {credentialId : String} {next : BrokerState} {slot : ActiveStreamSlot}
    (h : state.reserveActive limits credentialId = .ok (next, slot)) :
    state.activeTotal < limits.activeTotal ∧
      (state.activeByCredential.lookup credentialId).getD 0 < limits.activePerCredential ∧
      slot = ⟨credentialId⟩ ∧ next = { state with
        activeTotal := state.activeTotal + 1
        activeByCredential := increment state.activeByCredential credentialId } := by
  unfold BrokerState.reserveActive at h
  simp only at h
  split at h
  · cases h
  · rename_i hbelow
    cases h
    simp only [not_or, Nat.not_le] at hbelow
    exact ⟨hbelow.1, hbelow.2, rfl, rfl⟩

/-- The slot of a counted credential is released with its counter. -/
theorem releaseActive_ok {credentialId : String} {keys : List String}
    (htally : Tallies state.activeByCredential (credentialId :: keys))
    (htotal : 0 < state.activeTotal) :
    ∃ counts, Tallies counts keys ∧ state.releaseActive credentialId = some { state with
      activeByCredential := counts, activeTotal := state.activeTotal - 1 } := by
  obtain ⟨counts, hcounts, hnext⟩ := htally.decrement
  refine ⟨counts, hnext, ?_⟩
  rw [BrokerState.releaseActive, hcounts]
  exact if_neg (Nat.ne_of_gt htotal)

/-! ## The places of a step -/

variable {unused unused' : List ((_ : String) × GrantRecord)} {redeeming redeeming' : List Redemption}
  {live live' : List RedeemedStreamGrant}

/-- An unused grant is a place. -/
theorem grantPlaces_unused {entry : (_ : String) × GrantRecord} (h : unused.Perm (entry :: unused')) :
    (grantPlaces unused redeeming live).Perm
      (unusedPlace entry :: grantPlaces unused' redeeming live) :=
  (h.map unusedPlace).append_right _

/-- A redeem under way is a place. -/
theorem grantPlaces_thread (r : Redemption) (h : redeeming.Perm (r :: redeeming')) :
    (grantPlaces unused redeeming live).Perm (r.place :: grantPlaces unused redeeming' live) := by
  have hperm := (h.map Redemption.place).append_right (live.map RedeemedStreamGrant.place)
  exact (hperm.append_left _).trans List.perm_middle

/-- A live slot is a place. -/
theorem grantPlaces_live (g : RedeemedStreamGrant) (h : live.Perm (g :: live')) :
    (grantPlaces unused redeeming live).Perm (g.place :: grantPlaces unused redeeming live') := by
  have hperm := (h.map RedeemedStreamGrant.place).append_left (redeeming.map Redemption.place)
  exact ((hperm.trans List.perm_middle).append_left _).trans List.perm_middle

/-! ## Each step -/

/-- A step of a redeem outside the lock leaves the counters. -/
theorem BrokerInvariant.retrack {redeeming : List Redemption} {history : List (Nat × GrantEvent)}
    (h : BrokerInvariant limits w)
    (htracks : Tracks GrantLifeline w.issues
      (grantPlaces w.state.unused.entries redeeming w.live) history) :
    BrokerInvariant limits { w with redeeming := redeeming, history := history } :=
  ⟨h.calm, htracks, h.unusedTally, h.activeTally, h.activeTotal, h.unusedBound,
    h.unusedPerCredential, h.activeBound, h.activePerCredential⟩

/-- A redeem that is given up is no place any more. -/
theorem BrokerInvariant.giveUp {thread : Nat} {r : Redemption} {event : GrantEvent}
    (h : BrokerInvariant limits w) (hthread : w.redeeming[thread]? = some r)
    (hlawful : GrantLifeline (r.place.2 ++ [event])) :
    BrokerInvariant limits (w.giveUp thread r.record event) :=
  h.retrack ((h.tracks.perm (grantPlaces_thread _ (perm_cons_eraseIdx hthread))).drop hlawful)

/-- The life of a grant that is being redeemed. -/
theorem BrokerInvariant.thread {thread : Nat} {r : Redemption} (h : BrokerInvariant limits w)
    (hthread : w.redeeming[thread]? = some r) : GrantLifeline r.place.2 := by
  have hplaced := (h.tracks.perm (grantPlaces_thread _ (perm_cons_eraseIdx hthread))).placed r.place (List.mem_cons_self ..)
  exact hplaced ▸ h.tracks.lawful r.place.1

theorem BrokerInvariant.check (h : BrokerInvariant limits w) (thread now : Nat) :
    BrokerInvariant limits (w.check thread now) := by
  unfold BrokerSystem.check
  split
  · rename_i record protocol hthread
    split
    · exact h.giveUp hthread (.refused _ _)
    · rename_i hvalid
      have hbefore : now < record.expiresAt := by
        simp only [not_or, Nat.not_le] at hvalid
        exact hvalid.1
      have hlawful : GrantLifeline ([.issued record.expiresAt, .consumed] ++ [.checked now]) :=
        .checked hbefore
      have htracks := (h.tracks.perm (grantPlaces_thread _ (perm_cons_eraseIdx hthread))).move hlawful
      exact h.retrack (htracks.perm
        (grantPlaces_thread ⟨record, protocol, .revalidating now⟩ (.refl _)).symm)
  · exact h

theorem BrokerInvariant.revalidated (h : BrokerInvariant limits w) (thread : Nat)
    (answer : Option Bool) : BrokerInvariant limits (w.revalidated thread answer) := by
  unfold BrokerSystem.revalidated
  split
  · rename_i record protocol checkedAt hthread
    have hchecked : checkedAt < record.expiresAt := by
      cases h.thread hthread
      assumption
    split
    · exact h.giveUp hthread (.rejected hchecked _)
    · exact h.giveUp hthread (.rejected hchecked _)
    · have htracks := h.tracks.perm (grantPlaces_thread _ (perm_cons_eraseIdx hthread))
      exact h.retrack (htracks.perm
        (grantPlaces_thread ⟨record, protocol, .reserving checkedAt⟩ (.refl _)).symm)
  · exact h

theorem BrokerInvariant.cancelled (h : BrokerInvariant limits w) (thread : Nat) :
    BrokerInvariant limits (w.cancelled thread) := by
  unfold BrokerSystem.cancelled
  split
  · rename_i record protocol checkedAt hthread
    have hchecked : checkedAt < record.expiresAt := by
      cases h.thread hthread
      assumption
    exact h.giveUp hthread (.cancelled hchecked)
  · exact h

theorem BrokerInvariant.reserve (h : BrokerInvariant limits w) (thread : Nat) :
    BrokerInvariant limits (w.reserve limits thread) := by
  unfold BrokerSystem.reserve
  split
  · rename_i record protocol checkedAt hthread
    have hchecked : checkedAt < record.expiresAt := by
      cases h.thread hthread
      assumption
    split
    · rename_i error hfull
      exact h.giveUp hthread (.rejected hchecked error)
    · rename_i state slot hok
      obtain ⟨htotal, hcredential, rfl, rfl⟩ := reserveActive_ok hok
      rw [h.activeTally.getD] at hcredential
      rw [h.activeTotal] at htotal
      have hlawful : GrantLifeline
          ([.issued record.expiresAt, .consumed, .checked checkedAt] ++ [.redeemed]) :=
        .redeemed hchecked
      have htracks := (h.tracks.perm (grantPlaces_thread _ (perm_cons_eraseIdx hthread))).move hlawful
      refine ⟨h.calm, ?_, h.unusedTally, h.activeTally.increment _, ?_, h.unusedBound,
        h.unusedPerCredential, htotal, fun c => ?_⟩
      · exact htracks.perm (grantPlaces_live ⟨record.authorization, ⟨record.credentialId⟩,
          record.issue, record.expiresAt, checkedAt⟩ (.refl _)).symm
      · exact congrArg (· + 1) h.activeTotal
      · change (record.credentialId :: w.liveCredentials).count c ≤ _
        by_cases hc : record.credentialId = c
        · subst hc
          rw [List.count_cons_self]
          exact hcredential
        · rw [List.count_cons_of_ne hc]
          exact h.activePerCredential c
  · exact h

theorem BrokerInvariant.dropSlot (h : BrokerInvariant limits w) (slot : Nat) :
    BrokerInvariant limits (w.dropSlot slot) := by
  unfold BrokerSystem.dropSlot
  split
  · exact h
  · rename_i g hslot
    have hperm := perm_cons_eraseIdx hslot
    have hlength : w.live.length = (w.live.eraseIdx slot).length + 1 := hperm.length_eq
    have hcredentials : w.liveCredentials.Perm
        (g.activeSlot.credentialId :: (w.live.eraseIdx slot).map fun g => g.activeSlot.credentialId) :=
      hperm.map _
    have htotal := h.activeTotal
    obtain ⟨counts, hcounts, hrelease⟩ :=
      releaseActive_ok (h.activeTally.perm hcredentials) (by omega)
    have hplace := (h.tracks.perm (grantPlaces_live _ (perm_cons_eraseIdx hslot))).placed g.place (List.mem_cons_self ..)
    have hchecked : g.checkedAt < g.expiresAt := by
      have hlife := h.tracks.lawful g.place.1
      rw [hplace] at hlife
      cases hlife
      assumption
    have htracks := (h.tracks.perm (grantPlaces_live _ (perm_cons_eraseIdx hslot))).drop (.dropped hchecked)
    rw [hrelease]
    refine ⟨h.calm, htracks, h.unusedTally, hcounts, ?_, h.unusedBound, h.unusedPerCredential, ?_,
      fun c => ?_⟩
    · change w.state.activeTotal - 1 = (w.live.eraseIdx slot).length
      omega
    · change (w.live.eraseIdx slot).length ≤ _
      have := h.activeBound
      omega
    · have := h.activePerCredential c
      rw [hcredentials.count_eq] at this
      exact List.count_le_count_cons.trans this

/-- Pruning keeps the invariant. -/
theorem BrokerInvariant.prune {now : Nat} {next : BrokerState} (h : BrokerInvariant limits w)
    (hprune : w.state.pruneExpired now = some next) :
    BrokerInvariant limits { w with
      state := next
      history := w.history ++ (w.state.expired now).map fun entry => (entry.2.issue, .pruned) } := by
  obtain ⟨next', hnext', htally, hentries, hactive, htotal⟩ := pruneExpired_ok now h.unusedTally
  cases Option.some.inj (hprune.symm.trans hnext')
  have hsplit := List.filter_append_perm (fun entry => decide (entry.2.expiresAt ≤ now))
    w.state.unused.entries
  rw [← hentries] at hsplit
  have hplaces : w.places.Perm ((w.state.expired now).map unusedPlace ++
      grantPlaces next.unused.entries w.redeeming w.live) := by
    have hmapped := ((hsplit.symm.map unusedPlace).append_right
      (w.redeeming.map Redemption.place ++ w.live.map RedeemedStreamGrant.place))
    rwa [List.map_append, List.append_assoc] at hmapped
  have hgone := (h.tracks.perm hplaces).dropAll .pruned fun place hplace => by
    obtain ⟨entry, _, rfl⟩ := List.mem_map.mp hplace
    exact .pruned _
  rw [List.map_map] at hgone
  have hsublist : next.unused.entries.Sublist w.state.unused.entries := by
    rw [hentries]
    exact List.filter_sublist
  refine ⟨h.calm, hgone, htally, ?_, ?_, hsublist.length_le.trans h.unusedBound, fun c => ?_,
    h.activeBound, h.activePerCredential⟩
  · exact hactive ▸ h.activeTally
  · exact htotal.trans h.activeTotal
  · exact ((hsublist.map _).count_le c).trans (h.unusedPerCredential c)

variable [Sha256] [UrlSafeNoPad]

theorem BrokerInvariant.redeem (h : BrokerInvariant limits w) (grant protocol : String) :
    BrokerInvariant limits (w.redeem grant protocol) := by
  unfold BrokerSystem.redeem
  split
  · exact h
  · rename_i digest record hfound
    have hlookup : w.state.unused.lookup digest = some record := by
      simp only [Option.bind_eq_some_iff, Option.map_eq_some_iff, Prod.mk.injEq] at hfound
      obtain ⟨_, _, _, hlookup, rfl, rfl⟩ := hfound
      exact hlookup
    obtain ⟨counts, htake, hcounts⟩ := takeUnused_ok hlookup h.unusedTally
    have hperm := entries_perm_erase hlookup
    have hlawful : GrantLifeline ([.issued record.expiresAt] ++ [.consumed]) := .consumed _
    have htracks := (h.tracks.perm (grantPlaces_unused hperm)).move hlawful
    rw [htake]
    refine ⟨h.calm, htracks.perm (grantPlaces_thread ⟨record, protocol, .consumed⟩ (.refl _)).symm,
      hcounts, h.activeTally, h.activeTotal, ?_,
      fun c => ?_, h.activeBound, h.activePerCredential⟩
    · have hlength := hperm.length_eq
      have hbound := h.unusedBound
      change (w.state.unused.erase digest).entries.length ≤ _
      simp only [List.length_cons] at hlength
      omega
    · have hcredentials := hperm.map fun entry => entry.2.credentialId
      have hbound := h.unusedPerCredential c
      rw [BrokerState.unusedCredentials, hcredentials.count_eq] at hbound
      exact List.count_le_count_cons.trans hbound

/-- A drawn digest is not in use. -/
theorem generateUniqueGrant_fresh {existing : AList fun _ : String => GrantRecord}
    {fill : Nat → Option (Vector UInt8 32)} {attempts : Nat} {grant : String}
    (h : generateUniqueGrant existing fill attempts = .ok (grant, digest)) : digest ∉ existing := by
  induction attempts with
  | zero => cases h
  | succ attempts ih =>
    rw [generateUniqueGrant] at h
    split at h
    · cases h
    · simp only at h
      split at h
      · exact ih h
      · cases h
        assumption

theorem BrokerInvariant.issue (h : BrokerInvariant limits w) (authorization : AuthorizedChannelStream)
    (protocol : String) (now : Nat) (fill : Nat → Option (Vector UInt8 32)) :
    BrokerInvariant limits (w.issue limits authorization protocol now fill).2 := by
  unfold BrokerSystem.issue
  split
  · exact h
  · split
    · rename_i hnone
      obtain ⟨_, hok, _⟩ := pruneExpired_ok now h.unusedTally
      rw [hnone] at hok
      cases hok
    · rename_i state hprune
      have hpruned := h.prune hprune
      simp only
      split
      · rename_i hcapacity
        split
        · exact hpruned
        · rename_i grant digest hdraw
          have hfresh := generateUniqueGrant_fresh hdraw
          have htracks := hpruned.tracks.add (.issued (now + limits.grantLifetime)) (.issued _)
          simp only [BrokerState.hasUnusedCapacity, Bool.and_eq_true, decide_eq_true_eq,
            hpruned.unusedTally.getD] at hcapacity
          have hentries := AList.entries_insert_of_notMem (b :=
            (⟨w.issues, authorization, protocol, now + limits.grantLifetime⟩ : GrantRecord)) hfresh
          refine ⟨h.calm, ?_, ?_, hpruned.activeTally, hpruned.activeTotal, ?_, fun c => ?_,
            hpruned.activeBound, hpruned.activePerCredential⟩
          · exact htracks.perm (grantPlaces_unused (.of_eq hentries)).symm
          · rw [BrokerState.unusedCredentials, hentries]
            exact hpruned.unusedTally.increment _
          · rw [hentries]
            exact hcapacity.1
          · rw [BrokerState.unusedCredentials, hentries]
            change (authorization.credentialId :: state.unusedCredentials).count c ≤ _
            by_cases hc : authorization.credentialId = c
            · subst hc
              rw [List.count_cons_self]
              exact hcapacity.2
            · rw [List.count_cons_of_ne hc]
              exact hpruned.unusedPerCredential c
      · exact hpruned

/-- Every step keeps the invariant. -/
theorem BrokerStep.invariant (step : BrokerStep) (h : BrokerInvariant limits w) :
    BrokerInvariant limits (step.next limits w) := by
  cases step with
  | issue authorization protocol now fill => exact h.issue authorization protocol now fill
  | redeem grant protocol => exact h.redeem grant protocol
  | check thread now => exact h.check thread now
  | revalidated thread answer => exact h.revalidated thread answer
  | cancelled thread => exact h.cancelled thread
  | reserve thread => exact h.reserve thread
  | dropSlot slot => exact h.dropSlot slot

end Steps

/-! ## Every run -/

/-- What the broker promises at every time. -/
structure BrokerPromises (limits : BrokerLimits) (w : BrokerSystem) : Prop where
  calm : w.panicked = false
  unusedTally : Tallies w.state.unusedByCredential
    (w.state.unused.entries.map fun entry => entry.2.credentialId)
  activeTally : Tallies w.state.activeByCredential (w.live.map fun g => g.activeSlot.credentialId)
  activeTotal : w.state.activeTotal = w.live.length
  unusedBound : w.state.unused.entries.length ≤ limits.unusedTotal
  unusedPerCredential : ∀ c,
    (w.state.unusedByCredential.lookup c).getD 0 ≤ limits.unusedPerCredential
  activeBound : w.state.activeTotal ≤ limits.activeTotal
  activePerCredential : ∀ c,
    (w.state.activeByCredential.lookup c).getD 0 ≤ limits.activePerCredential
  redeemedOnce : ∀ id, (lifeline w.history id).count .redeemed ≤ 1
  redeemedInTime : ∀ id before later, lifeline w.history id = before ++ .redeemed :: later →
    ∃ expiresAt now, now < expiresAt ∧ before = [.issued expiresAt, .consumed, .checked now]
  consumed : ∀ id, .consumed ∈ lifeline w.history id →
    ∀ entry ∈ w.state.unused.entries, entry.2.issue ≠ id
  rejected : ∀ id error, .rejected error ∈ lifeline w.history id →
    .consumed ∈ lifeline w.history id ∧ .redeemed ∉ lifeline w.history id
  emptied : (∀ id, lifeline w.history id ≠ [] →
      .consumed ∈ lifeline w.history id ∨ .pruned ∈ lifeline w.history id) →
    (∀ id, .redeemed ∈ lifeline w.history id → .dropped ∈ lifeline w.history id) →
    w.state = .empty

section Runs

variable {limits : BrokerLimits} {w : BrokerSystem} {line : List GrantEvent}

/-- A grant is redeemed at most once in its life. -/
theorem GrantLifeline.redeemed_once (h : GrantLifeline line) : line.count .redeemed ≤ 1 := by
  cases h <;> simp

/-- A grant is redeemed after a clock reading before its expiry. -/
theorem GrantLifeline.redeemed_inTime {before later : List GrantEvent} (h : GrantLifeline line)
    (hline : line = before ++ .redeemed :: later) :
    ∃ expiresAt now, now < expiresAt ∧ before = [.issued expiresAt, .consumed, .checked now] := by
  have hfirst : ∀ (expiresAt now : Nat) (rest : List GrantEvent), .redeemed ∉ rest →
      [.issued expiresAt, .consumed, .checked now] ++ .redeemed :: rest =
        before ++ .redeemed :: later →
      before = [.issued expiresAt, .consumed, .checked now] := by
    intro expiresAt now rest hrest heq
    exact ((List.append_cons_inj_of_notMem (by simp) hrest).mp heq).1.symm
  have hmem : GrantEvent.redeemed ∈ line := by
    rw [hline]
    exact List.mem_append_right _ (List.mem_cons_self ..)
  cases h with
  | @redeemed expiresAt now hlt =>
    exact ⟨expiresAt, now, hlt, hfirst expiresAt now [] (by simp) hline⟩
  | @dropped expiresAt now hlt =>
    exact ⟨expiresAt, now, hlt, hfirst expiresAt now [.dropped] (by simp) hline⟩
  | _ => simp at hmem

/-- A redeem that is rejected has consumed its grant for good. -/
theorem GrantLifeline.rejected_consumed {error : StreamGrantBrokerError} (h : GrantLifeline line)
    (hmem : .rejected error ∈ line) : .consumed ∈ line ∧ .redeemed ∉ line := by
  cases h <;> simp_all

/-- The life of an unused grant is its issue. -/
theorem BrokerInvariant.unused (h : BrokerInvariant limits w) {entry : (_ : String) × GrantRecord}
    (hentry : entry ∈ w.state.unused.entries) :
    lifeline w.history entry.2.issue = [.issued entry.2.expiresAt] :=
  h.tracks.placed (unusedPlace entry) (List.mem_append_left _ (List.mem_map_of_mem hentry))

/-- The life of the grant of a live slot ends with its redemption so far. -/
theorem BrokerInvariant.live (h : BrokerInvariant limits w) {g : RedeemedStreamGrant}
    (hlive : g ∈ w.live) : lifeline w.history g.issue =
      [.issued g.expiresAt, .consumed, .checked g.checkedAt, .redeemed] :=
  h.tracks.placed g.place (List.mem_append_right _ (List.mem_append_right _ (List.mem_map_of_mem hlive)))

/-- When every grant is used up and every slot dropped, nothing is left. -/
theorem BrokerInvariant.emptied (h : BrokerInvariant limits w)
    (hunused : ∀ id, lifeline w.history id ≠ [] →
      .consumed ∈ lifeline w.history id ∨ .pruned ∈ lifeline w.history id)
    (hlive : ∀ id, .redeemed ∈ lifeline w.history id → .dropped ∈ lifeline w.history id) :
    w.state = .empty := by
  have hentries : w.state.unused.entries = [] := by
    refine List.eq_nil_iff_forall_not_mem.mpr fun entry hentry => ?_
    have hused := hunused entry.2.issue (by simp [h.unused hentry])
    simp [h.unused hentry] at hused
  have hslots : w.live = [] := by
    refine List.eq_nil_iff_forall_not_mem.mpr fun g hg => ?_
    have hdropped := hlive g.issue (by simp [h.live hg])
    simp [h.live hg] at hdropped
  have hunusedTally := h.unusedTally
  have hactiveTally := h.activeTally
  have htotal := h.activeTotal
  rw [BrokerState.unusedCredentials, hentries] at hunusedTally
  rw [BrokerSystem.liveCredentials, hslots] at hactiveTally
  rw [hslots] at htotal
  exact BrokerState.ext (AList.ext hentries) hunusedTally.empty hactiveTally.empty htotal

/-- The invariant gives the promises. -/
theorem BrokerInvariant.promises (h : BrokerInvariant limits w) : BrokerPromises limits w where
  calm := h.calm
  unusedTally := h.unusedTally
  activeTally := h.activeTally
  activeTotal := h.activeTotal
  unusedBound := h.unusedBound
  unusedPerCredential c := h.unusedTally.getD c ▸ h.unusedPerCredential c
  activeBound := h.activeTotal ▸ h.activeBound
  activePerCredential c := h.activeTally.getD c ▸ h.activePerCredential c
  redeemedOnce id := (h.tracks.lawful id).redeemed_once
  redeemedInTime id _ _ hline := (h.tracks.lawful id).redeemed_inTime hline
  consumed id hconsumed entry hentry heq := by
    have hissued := h.unused hentry
    rw [heq] at hissued
    simp [hissued] at hconsumed
  rejected id _ hrejected := (h.tracks.lawful id).rejected_consumed hrejected
  emptied := h.emptied

end Runs

end Fleetd
