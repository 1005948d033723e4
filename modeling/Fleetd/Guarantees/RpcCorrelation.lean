import Fleetd.Harness.PeerMoves

/-!
# Correlation of calls and responses

A call to a plugin process that returns a result returns that of a response with its own identifier,
and no identifier is answered twice. A peer that has failed stays so with an empty pending table:
every call then ends with an error, and no call is left to wait for a reply that no one will give.
Only a call whose response was taken in before the failure may still return its result after it.
-/

namespace Fleetd.Harness

open Serde (Value)
open Effects Relational

variable {R : Type}

/-! ## Correlation -/

/-- The request of a call. -/
def Call.request (call : Call R) : Value := requestFrame call.id call.method call.params

/-- Whether a step starts a call. -/
def PeerAction.isCall : PeerAction R → Bool
  | .call _ _ _ _ => true
  | _ => false

/-- Whether a step is one that a task takes by itself: it needs nothing from outside, and no time. -/
def PeerAction.isOwn : PeerAction R → Bool
  | .register _ => true
  | .write _ none => true
  | .receive _ => true
  | .failAll _ => true
  | .drain _ => true
  | .deliver => true
  | .readerDrain => true
  | _ => false

/-- The responses that were taken in along a run. -/
def responses (actions : List (PeerAction R)) : List Handed :=
  outputsFrom Peer.step handedBy .start actions

/-- Calls and responses belong together. -/
structure Correlated (actions : List (PeerAction R)) : Prop where
  /-- A result is that of a response with the identifier that the call has sent. -/
  result : ∀ (number : Nat) (call : Call R) result, (Peer.run actions).calls[number]? = some call →
    call.stage = .returned (.ok result) → call.request ∈ (Peer.run actions).sent ∧
      ∃ before line after value, actions = before ++ .frame line :: after ∧
        line.response = some (call.id, .ok value) ∧ call.decode value = .ok result ∧
        ⟨call.id, number, .ok value⟩ ∈ responses actions
  /-- No two calls have the same identifier. -/
  ids : ((Peer.run actions).calls.map (·.id)).Nodup
  /-- No identifier is answered twice. -/
  once : ((responses actions).map (·.id)).Nodup
  /-- A response is for the call with its identifier. -/
  own : ∀ entry ∈ responses actions, TaskIs (Peer.run actions).calls entry.call (·.id = entry.id)
  /-- A response under an identifier that no call waits for changes no call. -/
  unknown : ∀ before line after id reply, actions = before ++ .frame line :: after →
    line.response = some (id, reply) → (Peer.run before).state.pending.lookup id = none →
    (Peer.run (before ++ [.frame line])).calls = (Peer.run before).calls ∧
      responses (before ++ [.frame line]) = responses before
  /-- After a failure the pending table is empty, nothing is taken in any more, and calls end with
  an error, later ones and those whose response was not taken in before. -/
  failed : ∀ before after, actions = before ++ after → (Peer.run before).state.failure ≠ none →
    (Peer.run actions).state.failure ≠ none ∧ (Peer.run actions).state.pending = ∅ ∧
      responses actions = responses before ∧
      ∀ (number : Nat) (call : Call R) result, (Peer.run actions).calls[number]? = some call →
        call.stage = .returned result → (∀ entry ∈ responses before, entry.call ≠ number) →
        ∃ error, result = .error error
  /-- After a failure, every call that is not dropped returns without waiting for anyone outside. -/
  returns : (Peer.run actions).state.failure ≠ none → ∀ (number : Nat) (call : Call R),
    (Peer.run actions).calls[number]? = some call → call.stage ≠ .dropped →
    ∃ more : List (PeerAction R), (∀ action ∈ more, action.isOwn = true) ∧
      TaskIs (Peer.run (actions ++ more)).calls number fun call => ∃ result, call.stage = .returned result

/-! ## The invariant -/

/-- A call that has entered the pending table, or never will. -/
def Call.Registered (call : Call R) : Prop := call.stage ≠ .numbered

/-- A call that listens and has no reply yet. -/
def Call.Open (call : Call R) : Prop := call.listens = true ∧ call.slot = none

/-- A call that will tell another one about a failure. -/
def Call.Tells (number : Nat) (call : Call R) : Prop :=
  ∃ message senders error, call.stage = .draining message senders error ∧ number ∈ senders

/-- Someone has a reply for a call, or will tell it about a failure. -/
def Peer.Held (number : Nat) (peer : Peer R) : Prop :=
  (∃ id, peer.state.pending.lookup id = some number) ∨
  (∃ reply, peer.reader = .delivering number reply) ∨
  (∃ message senders, peer.reader = .draining message senders ∧ number ∈ senders) ∨
  ∃ other, TaskIs peer.calls other (Call.Tells number)

/-- What a peer and the responses that were taken in have to do with each other. -/
structure PeerHeld (peer : Peer R) (handed : List Handed) : Prop where
  next : peer.nextId = peer.calls.length + 1
  numbers : ∀ (number : Nat) (call : Call R), peer.calls[number]? = some call → call.id = number + 1
  pending : ∀ id number, peer.state.pending.lookup id = some number →
    id = number + 1 ∧ TaskIs peer.calls number Call.Registered
  own : ∀ entry ∈ handed, entry.id = entry.call + 1 ∧
    TaskIs peer.calls entry.call Call.Registered ∧ peer.state.pending.lookup entry.id = none
  once : (handed.map (·.id)).Nodup
  failed : peer.state.failure ≠ none → peer.state.pending = ∅
  delivering : ∀ number reply, peer.reader = .delivering number reply →
    ⟨number + 1, number, reply⟩ ∈ handed
  slots : ∀ (number : Nat) (call : Call R) value, peer.calls[number]? = some call →
    call.slot = some (.ok value) → ⟨number + 1, number, .ok value⟩ ∈ handed
  waiting : ∀ (number : Nat) (call : Call R), peer.calls[number]? = some call → call.stage = .waiting →
    call.request ∈ peer.sent
  returned : ∀ (number : Nat) (call : Call R) result, peer.calls[number]? = some call →
    call.stage = .returned (.ok result) → call.request ∈ peer.sent ∧
      ∃ value, call.decode value = .ok result ∧ ⟨number + 1, number, .ok value⟩ ∈ handed
  held : ∀ number, TaskIs peer.calls number Call.Open → peer.Held number

/-- A call that has come to an end without a result, or fails the peer, waits for nothing. -/
theorem CallStage.ne_of_done {stage : CallStage R}
    (h : stage.Inert ∨ ∃ message senders error, stage = .draining message senders error) :
    stage ≠ .numbered ∧ stage ≠ .writing ∧ stage ≠ .waiting ∧
      ∀ result, stage ≠ .returned (.ok result) := by
  obtain hinert | ⟨message, senders, error, rfl⟩ := h
  · refine ⟨?_, ?_, ?_, ?_⟩
    · rintro rfl
      exact hinert
    · rintro rfl
      exact hinert
    · rintro rfl
      exact hinert
    · rintro result rfl
      exact hinert
  · simp

/-- A call listens while it writes its frame and while it waits. -/
theorem Call.listens_iff {call : Call R} :
    call.listens = true ↔ call.stage = .writing ∨ call.stage = .waiting := by
  unfold Call.listens
  cases call.stage with
  | writing => simp
  | waiting => simp
  | _ => simp

section Entries
variable {peer peer' : Peer R} {number : Nat} {call after : Call R} {out : List Handed}

/-- A call keeps its identifier, its request and how its result is decoded. -/
theorem CallMove.constant (h : CallMove peer peer' number call after) :
    after.id = call.id ∧ after.request = call.request ∧ after.decode = call.decode := by
  cases h with
  | same => exact ⟨rfl, rfl, rfl⟩
  | registered => exact ⟨rfl, rfl, rfl⟩
  | wrote => exact ⟨rfl, rfl, rfl⟩
  | given => exact ⟨rfl, rfl, rfl⟩
  | received => exact ⟨rfl, rfl, rfl⟩
  | ended => exact ⟨rfl, rfl, rfl⟩

/-- A call enters the pending table once. -/
theorem CallMove.registered_of_registered (h : CallMove peer peer' number call after)
    (hcall : call.Registered) : after.Registered := by
  cases h with
  | same => exact hcall
  | registered => exact fun h => by cases h
  | wrote => exact fun h => by cases h
  | given => exact hcall
  | received => exact fun h => by cases h
  | ended hdone => exact (CallStage.ne_of_done hdone).1

/-- Calls that have entered the pending table, or never will, stay so. -/
theorem PeerMove.registered_before (h : PeerMove peer out peer')
    (hcall : TaskIs peer.calls number Call.Registered) :
    TaskIs peer'.calls number Call.Registered := by
  obtain ⟨call, hcall, hregistered⟩ := hcall
  obtain ⟨after, hafter, hmove⟩ := h.entry_of_before hcall
  exact ⟨after, hafter, hmove.registered_of_registered hregistered⟩

/-- Frames that were written stay written. -/
theorem PeerMove.sent_subset (h : PeerMove peer out peer') : peer.sent ⊆ peer'.sent := by
  cases h with
  | wrote => exact List.subset_append_left _ _
  | _ => exact List.Subset.refl _

/-- A call that starts to listen has just entered the pending table. -/
theorem CallMove.open_before (h : CallMove peer peer' number call after) (hopen : after.Open) :
    call.Open ∨ peer'.state.pending.lookup call.id = some number := by
  cases h with
  | same => exact .inl hopen
  | registered _ hpending => exact .inr hpending
  | wrote hstage => exact .inl ⟨by rw [Call.listens, hstage], hopen.2⟩
  | given => exact absurd hopen.2 (by simp)
  | received => exact absurd (Call.listens_iff.1 hopen.1) (by simp)
  | ended hdone =>
    obtain ⟨-, hwriting, hwaiting, -⟩ := CallStage.ne_of_done hdone
    exact absurd (Call.listens_iff.1 hopen.1) (by simp [hwriting, hwaiting])

end Entries

/-! ## No reply is lost -/

section Replies
variable {peer peer' : Peer R} {number : Nat} {out : List Handed}

/-- A reply does not move a call. -/
@[simp] theorem Call.give_stage (call : Call R) (reply : Reply) :
    (call.give reply).stage = call.stage := by
  unfold Call.give
  split <;> rfl

/-- A call that is offered a reply has one, or does not listen. -/
theorem Call.not_open_give (call : Call R) (reply : Reply) : ¬ (call.give reply).Open := by
  unfold Call.give
  split
  · rintro ⟨-, hslot⟩
    cases hslot
  · rename_i hnot
    exact hnot

/-- A call of the pending table is one of those that a failure tells. -/
theorem Peer.mem_senders {id : Nat} (h : peer.state.pending.lookup id = some number) :
    number ∈ peer.senders :=
  List.mem_map.2 ⟨⟨id, number⟩, AList.mem_lookup_iff.1 h, rfl⟩

/-- What a call tells is read off its stage. -/
theorem tells_give (call : Call R) (reply : Reply) :
    (call.give reply).Tells number ↔ call.Tells number := by
  rw [Call.Tells, Call.give_stage]
  rfl

/-- A call that tells others about a failure goes on with it, unless it is the one that moves. -/
theorem tells_setStage {other moved : Nat} {call : Call R} {stage : CallStage R}
    (found : peer.calls[moved]? = some call) (idle : ¬ call.Tells number)
    (h : TaskIs peer.calls other (Call.Tells number)) :
    TaskIs (peer.setStage moved stage).calls other (Call.Tells number) := by
  refine taskIs_modify.2 (.inr ⟨?_, h⟩)
  rintro rfl
  obtain ⟨same, hsame, htells⟩ := h
  obtain rfl := Option.some.inj (found.symm.trans hsame)
  exact idle htells

/-- A call that is not about to tell anyone. -/
theorem not_tells_of_stage {call : Call R}
    (h : ∀ message sender rest error, call.stage ≠ .draining message (sender :: rest) error) :
    ¬ call.Tells number := by
  rintro ⟨message, senders, error, hstage, hmem⟩
  cases senders with
  | nil => exact absurd hmem List.not_mem_nil
  | cons sender rest => exact h _ _ _ _ hstage

/-- A move keeps whoever has a reply for a call, or gives the reply. -/
theorem PeerMove.held (h : PeerMove peer out peer')
    (fresh : ∀ (other : Nat) (call : Call R), peer.calls[other]? = some call → call.stage = .numbered →
      peer.state.pending.lookup call.id = none)
    (hheld : peer.Held number) (hopen : TaskIs peer'.calls number Call.Open) : peer'.Held number := by
  cases h with
  | started =>
    obtain hpending | hdelivering | hdraining | ⟨other, htells⟩ := hheld
    · exact .inl hpending
    · exact .inr (.inl hdelivering)
    · exact .inr (.inr (.inl hdraining))
    · exact .inr (.inr (.inr ⟨other, taskIs_append.2 (.inl htells)⟩))
  | @registered moved call hfound hstage hunfailed =>
    obtain ⟨id, hpending⟩ | hdelivering | hdraining | ⟨other, htells⟩ := hheld
    · refine .inl ⟨id, ?_⟩
      have hid : id ≠ call.id := by
        rintro rfl
        rw [fresh moved call hfound hstage] at hpending
        cases hpending
      exact (AList.lookup_insert_ne hid).trans hpending
    · exact .inr (.inl hdelivering)
    · exact .inr (.inr (.inl hdraining))
    · exact .inr (.inr (.inr ⟨other, tells_setStage hfound (not_tells_of_stage (by simp [hstage])) htells⟩))
  | wrote hfound hstage =>
    obtain hpending | hdelivering | hdraining | ⟨other, htells⟩ := hheld
    · exact .inl hpending
    · exact .inr (.inl hdelivering)
    · exact .inr (.inr (.inl hdraining))
    · exact .inr (.inr (.inr ⟨other, tells_setStage hfound (not_tells_of_stage (by simp [hstage])) htells⟩))
  | received hfound hstage _ =>
    obtain hpending | hdelivering | hdraining | ⟨other, htells⟩ := hheld
    · exact .inl hpending
    · exact .inr (.inl hdelivering)
    · exact .inr (.inr (.inl hdraining))
    · exact .inr (.inr (.inr ⟨other, tells_setStage hfound (not_tells_of_stage (by simp [hstage])) htells⟩))
  | ended hfound _ hidle =>
    obtain hpending | hdelivering | hdraining | ⟨other, htells⟩ := hheld
    · exact .inl hpending
    · exact .inr (.inl hdelivering)
    · exact .inr (.inr (.inl hdraining))
    · exact .inr (.inr (.inr ⟨other, tells_setStage hfound (not_tells_of_stage hidle) htells⟩))
  | @failed moved call message error hfound hstage =>
    obtain ⟨id, hpending⟩ | hdelivering | hdraining | ⟨other, htells⟩ := hheld
    · refine .inr (.inr (.inr ⟨moved, taskIs_modify.2 (.inl ⟨rfl, call, hfound, ?_⟩)⟩))
      exact ⟨message, peer.senders, error, rfl, Peer.mem_senders hpending⟩
    · exact .inr (.inl hdelivering)
    · exact .inr (.inr (.inl hdraining))
    · exact .inr (.inr (.inr ⟨other, tells_setStage hfound (not_tells_of_stage (by simp [hstage])) htells⟩))
  | @told moved call message sender rest error hfound hstage =>
    obtain hpending | hdelivering | hdraining | ⟨other, htells⟩ := hheld
    · exact .inl hpending
    · exact .inr (.inl hdelivering)
    · exact .inr (.inr (.inl hdraining))
    · refine .inr (.inr (.inr ⟨other, (taskIs_modify_iff fun call => tells_give call _).2 ?_⟩))
      by_cases hother : moved = other
      · subst hother
        obtain ⟨same, hsame, _, senders, _, hsenders, hmem⟩ := htells
        obtain rfl := Option.some.inj (hfound.symm.trans hsame)
        cases hstage.symm.trans hsenders
        obtain rfl | hrest := List.mem_cons.1 hmem
        · obtain ⟨-, _, -, htold⟩ | ⟨hne, -⟩ := taskIs_modify.1 hopen
          · exact absurd htold (Call.not_open_give _ _)
          · exact absurd rfl hne
        · exact taskIs_modify.2 (.inl ⟨rfl, call, hfound, message, rest, error, rfl, hrest⟩)
      · exact taskIs_modify.2 (.inr ⟨hother, htells⟩)
  | @handed id found reply hreading hlookup =>
    obtain ⟨other, hpending⟩ | ⟨_, hdelivering⟩ | ⟨_, _, hdraining, _⟩ | htells := hheld
    · by_cases hid : other = id
      · subst hid
        obtain rfl := Option.some.inj (hlookup.symm.trans hpending)
        exact .inr (.inl ⟨reply, rfl⟩)
      · exact .inl ⟨other, (AList.lookup_erase_ne hid).trans hpending⟩
    · cases hreading.symm.trans hdelivering
    · cases hreading.symm.trans hdraining
    · exact .inr (.inr (.inr htells))
  | delivered hreader =>
    obtain hpending | ⟨_, hdelivering⟩ | ⟨_, _, hdraining, _⟩ | ⟨other, htells⟩ := hheld
    · exact .inl hpending
    · cases hreader.symm.trans hdelivering
      obtain ⟨-, _, -, htold⟩ | ⟨hne, -⟩ := taskIs_modify.1 hopen
      · exact absurd htold (Call.not_open_give _ _)
      · exact absurd rfl hne
    · cases hreader.symm.trans hdraining
    · exact .inr (.inr (.inr ⟨other, (taskIs_modify_iff fun call => tells_give call _).2 htells⟩))
  | readerFailed hreader =>
    obtain ⟨id, hpending⟩ | ⟨_, hdelivering⟩ | ⟨_, _, hdraining, _⟩ | htells := hheld
    · exact .inr (.inr (.inl ⟨_, _, rfl, Peer.mem_senders hpending⟩))
    · cases hreader.symm.trans hdelivering
    · cases hreader.symm.trans hdraining
    · exact .inr (.inr (.inr htells))
  | @readerTold message sender rest hreader =>
    obtain hpending | ⟨_, hdelivering⟩ | ⟨_, senders, hdraining, hmem⟩ | ⟨other, htells⟩ := hheld
    · exact .inl hpending
    · cases hreader.symm.trans hdelivering
    · cases hreader.symm.trans hdraining
      obtain rfl | hrest := List.mem_cons.1 hmem
      · obtain ⟨-, _, -, htold⟩ | ⟨hne, -⟩ := taskIs_modify.1 hopen
        · exact absurd htold (Call.not_open_give _ _)
        · exact absurd rfl hne
      · exact .inr (.inr (.inl ⟨message, rest, rfl, hrest⟩))
    · exact .inr (.inr (.inr ⟨other, (taskIs_modify_iff fun call => tells_give call _).2 htells⟩))
  | quiet hsame =>
    obtain hpending | ⟨reply, hdelivering⟩ | ⟨message, senders, hdraining, hmem⟩ | htells := hheld
    · exact .inl hpending
    · obtain rfl | ⟨hquiet, -⟩ := hsame
      · exact .inr (.inl ⟨reply, hdelivering⟩)
      · rw [hdelivering] at hquiet
        exact absurd hquiet id
    · obtain rfl | ⟨hquiet, -⟩ := hsame
      · exact .inr (.inr (.inl ⟨message, senders, hdraining, hmem⟩))
      · rw [hdraining] at hquiet
        cases senders with
        | nil => exact absurd hmem List.not_mem_nil
        | cons sender rest => exact absurd hquiet id
    · exact .inr (.inr (.inr htells))

end Replies

/-! ## Moves keep the invariant -/

section Steps
variable {peer peer' : Peer R} {out handed : List Handed}

/-- What is pending after a move was pending before, or has just been entered by its call. -/
theorem PeerMove.pending (h : PeerMove peer out peer') {id number : Nat}
    (hpending : peer'.state.pending.lookup id = some number) :
    peer.state.pending.lookup id = some number ∨ ∃ call : Call R, peer.calls[number]? = some call ∧
      call.id = id ∧ call.stage = .numbered ∧ TaskIs peer'.calls number Call.Registered := by
  cases h with
  | @registered moved call hfound hstage _ =>
    by_cases hid : id = call.id
    · subst hid
      obtain rfl : moved = number := Option.some.inj ((AList.lookup_insert _).symm.trans hpending)
      refine .inr ⟨call, hfound, rfl, hstage, taskIs_modify.2 (.inl ⟨rfl, call, hfound, ?_⟩)⟩
      exact fun h => by cases h
    · exact .inl ((AList.lookup_insert_ne hid).symm.trans hpending)
  | failed => cases hpending
  | readerFailed => cases hpending
  | @handed erased =>
    by_cases hid : id = erased
    · subst hid
      exact absurd ((AList.lookup_erase _ _).symm.trans hpending) (by simp)
    · exact .inl ((AList.lookup_erase_ne hid).symm.trans hpending)
  | started => exact .inl hpending
  | wrote => exact .inl hpending
  | received => exact .inl hpending
  | ended => exact .inl hpending
  | told => exact .inl hpending
  | delivered => exact .inl hpending
  | readerTold => exact .inl hpending
  | quiet => exact .inl hpending

/-- A peer that has failed stays so. -/
theorem PeerMove.failure (h : PeerMove peer out peer') (hfailure : peer.state.failure ≠ none) :
    peer'.state.failure ≠ none := by
  cases h with
  | failed => simp [Peer.setStage, Peer.setCall, Peer.fail]
  | readerFailed => simp [Peer.fail]
  | _ => exact hfailure

/-- A peer that has failed has an empty table. -/
theorem PeerMove.emptied (h : PeerMove peer out peer')
    (before : peer.state.failure ≠ none → peer.state.pending = ∅)
    (hfailure : peer'.state.failure ≠ none) : peer'.state.pending = ∅ := by
  cases h with
  | failed => rfl
  | readerFailed => rfl
  | registered _ _ hunfailed => exact absurd hunfailed hfailure
  | handed _ hfound =>
    rw [before hfailure] at hfound
    cases hfound
  | _ => exact before hfailure

/-- A reply that the reader holds after a move was held before, or has just been taken in. -/
theorem PeerMove.delivering (h : PeerMove peer out peer') {number : Nat} {reply : Reply}
    (hreader : peer'.reader = .delivering number reply) :
    peer.reader = .delivering number reply ∨ ∃ id, peer.state.pending.lookup id = some number ∧
      (⟨id, number, reply⟩ : Handed) ∈ out := by
  cases h with
  | handed _ hfound =>
    cases hreader
    exact .inr ⟨_, hfound, List.mem_cons_self⟩
  | delivered => cases hreader
  | readerFailed => cases hreader
  | readerTold => cases hreader
  | @quiet reader _ hsame =>
    obtain rfl | ⟨-, hquiet⟩ := hsame
    · exact .inl hreader
    · obtain rfl : reader = .delivering number reply := hreader
      exact absurd hquiet id
  | _ => exact .inl hreader

/-- The numbers that calls get follow one another, as long as there are enough of them. -/
theorem PeerMove.next (h : PeerMove peer out peer') (hbound : peer'.calls.length < u64Max)
    (before : peer.nextId = peer.calls.length + 1) : peer'.nextId = peer'.calls.length + 1 := by
  cases h with
  | started =>
    rw [List.length_append, List.length_singleton] at hbound ⊢
    rw [before]
    exact Nat.mod_eq_of_lt (by omega)
  | quiet => exact before
  | handed => exact before
  | readerFailed => exact before
  | registered => simpa [Peer.setStage, Peer.setCall] using before
  | wrote => simpa [Peer.setStage, Peer.setCall] using before
  | received => simpa [Peer.setStage, Peer.setCall] using before
  | ended => simpa [Peer.setStage, Peer.setCall] using before
  | failed => simpa [Peer.setStage, Peer.setCall, Peer.fail] using before
  | told => simpa [Peer.setStage, Peer.setCall, Peer.tell] using before
  | delivered => simpa [Peer.setCall] using before
  | readerTold => simpa [Peer.setCall, Peer.tell] using before

/-- A response that is taken in was pending, and is not any more. -/
theorem PeerMove.taken (h : PeerMove peer out peer') : out = [] ∨ ∃ entry, out = [entry] ∧
    peer.state.pending.lookup entry.id = some entry.call ∧
    peer'.state.pending.lookup entry.id = none := by
  cases h with
  | handed _ hfound => exact .inr ⟨_, rfl, hfound, AList.lookup_erase _ _⟩
  | _ => exact .inl rfl

/-- What a call makes of its reply is a result only for a response with one. -/
theorem Call.finish_ok {call : Call R} {reply : Reply} {result : R} (h : call.finish reply = .ok result) :
    ∃ value, reply = .ok value ∧ call.decode value = .ok result := by
  cases reply with
  | ok value => exact ⟨value, rfl, h⟩
  | error error =>
    cases error with
    | remote => cases h
    | protocol => cases h

/-- Every move keeps the invariant, as long as there are numbers for the calls. -/
theorem PeerHeld.next_held (h : PeerHeld peer handed) (hmove : PeerMove peer out peer')
    (hbound : peer'.calls.length < u64Max) : PeerHeld peer' (handed ++ out) := by
  constructor
  case next => exact hmove.next hbound h.next
  case numbers =>
    intro number after hafter
    obtain ⟨call, hcall, hentry⟩ | ⟨rfl, hid, -⟩ := hmove.entry hafter
    · exact hentry.constant.1.trans (h.numbers number call hcall)
    · exact hid.trans h.next
  case pending =>
    intro id number hpending
    obtain hbefore | ⟨call, hcall, rfl, -, hregistered⟩ := hmove.pending hpending
    · obtain ⟨hid, hregistered⟩ := h.pending id number hbefore
      exact ⟨hid, hmove.registered_before hregistered⟩
    · exact ⟨h.numbers number call hcall, hregistered⟩
  case own =>
    intro entry hentry
    obtain hold | hnew := List.mem_append.1 hentry
    · obtain ⟨hid, hregistered, hnone⟩ := h.own entry hold
      refine ⟨hid, hmove.registered_before hregistered, ?_⟩
      cases hlookup : peer'.state.pending.lookup entry.id with
      | none => rfl
      | some number =>
        obtain hbefore | ⟨call, hcall, hcallId, hstage, -⟩ := hmove.pending hlookup
        · cases hnone.symm.trans hbefore
        · obtain rfl : number = entry.call := by
            have hnumber := h.numbers number call hcall
            omega
          obtain ⟨same, hsame, hne⟩ := hregistered
          obtain rfl := Option.some.inj (hcall.symm.trans hsame)
          exact absurd hstage hne
    · obtain hnil | ⟨taken, hout, hpending, hgone⟩ := hmove.taken
      · rw [hnil] at hnew
        exact absurd hnew List.not_mem_nil
      · rw [hout, List.mem_singleton] at hnew
        subst hnew
        obtain ⟨hid, hregistered⟩ := h.pending _ _ hpending
        exact ⟨hid, hmove.registered_before hregistered, hgone⟩
  case once =>
    obtain hnil | ⟨taken, hout, hpending, -⟩ := hmove.taken
    · rw [hnil, List.append_nil]
      exact h.once
    · rw [hout, List.map_append, List.nodup_append]
      refine ⟨h.once, List.nodup_singleton _, ?_⟩
      rintro id hid _ hlast rfl
      obtain ⟨entry, hentry, rfl⟩ := List.mem_map.1 hid
      rw [List.map_singleton, List.mem_singleton] at hlast
      have hnone := (h.own entry hentry).2.2
      rw [hlast, hpending] at hnone
      cases hnone
  case failed => exact hmove.emptied h.failed
  case delivering =>
    intro number reply hreader
    obtain hbefore | ⟨id, hpending, hmem⟩ := hmove.delivering hreader
    · exact List.mem_append_left _ (h.delivering number reply hbefore)
    · obtain rfl := (h.pending id number hpending).1
      exact List.mem_append_right _ hmem
  case slots =>
    intro number after value hafter hslot
    apply List.mem_append_left
    obtain ⟨call, hcall, hentry⟩ | ⟨-, -, hnone, -⟩ := hmove.entry hafter
    · cases hentry with
      | given _ _ hsource =>
        cases hslot
        obtain hreader | ⟨_, hprotocol⟩ := hsource
        · exact h.delivering number _ hreader
        · cases hprotocol
      | same => exact h.slots number _ value hcall hslot
      | registered => exact h.slots number _ value hcall hslot
      | wrote => exact h.slots number _ value hcall hslot
      | received => exact h.slots number _ value hcall hslot
      | ended => exact h.slots number _ value hcall hslot
    · cases hnone.symm.trans hslot
  case waiting =>
    intro number after hafter hstage
    obtain ⟨call, hcall, hentry⟩ | ⟨-, -, -, hnumbered | hinert⟩ := hmove.entry hafter
    · cases hentry with
      | same => exact hmove.sent_subset (h.waiting number _ hcall hstage)
      | given => exact hmove.sent_subset (h.waiting number call hcall hstage)
      | wrote _ hsent => exact hsent
      | registered => cases hstage
      | received => cases hstage
      | ended hdone => exact absurd hstage (CallStage.ne_of_done hdone).2.2.1
    · cases hnumbered.symm.trans hstage
    · exact absurd hstage (CallStage.ne_of_done (.inl hinert)).2.2.1
  case returned =>
    intro number after result hafter hstage
    obtain ⟨call, hcall, hentry⟩ | ⟨-, -, -, hnumbered | hinert⟩ := hmove.entry hafter
    · have hbefore : call.stage = .returned (.ok result) → call.request ∈ peer'.sent ∧
          ∃ value, call.decode value = .ok result ∧
            (⟨number + 1, number, .ok value⟩ : Handed) ∈ handed ++ out := by
        intro hreturned
        obtain ⟨hsent, value, hdecode, hmem⟩ := h.returned number call result hcall hreturned
        exact ⟨hmove.sent_subset hsent, value, hdecode, List.mem_append_left _ hmem⟩
      cases hentry with
      | same => exact hbefore hstage
      | given => exact hbefore hstage
      | wrote => cases hstage
      | registered => cases hstage
      | ended hdone => exact absurd hstage ((CallStage.ne_of_done hdone).2.2.2 result)
      | received hwaiting hslot =>
        have hfinish := CallStage.returned.inj hstage
        obtain ⟨value, rfl, hdecode⟩ := Call.finish_ok hfinish
        refine ⟨hmove.sent_subset (h.waiting number call hcall hwaiting), value, hdecode, ?_⟩
        exact List.mem_append_left _ (h.slots number call value hcall hslot)
    · cases hnumbered.symm.trans hstage
    · exact absurd hstage ((CallStage.ne_of_done (.inl hinert)).2.2.2 result)
  case held =>
    rintro number ⟨after, hafter, hopen⟩
    obtain ⟨call, hcall, hentry⟩ | ⟨-, -, -, hnumbered | hinert⟩ := hmove.entry hafter
    · obtain hbefore | hpending := hentry.open_before hopen
      · refine hmove.held ?_ (h.held number ⟨call, hcall, hbefore⟩) ⟨after, hafter, hopen⟩
        intro other numbered hother hstage
        cases hlookup : peer.state.pending.lookup numbered.id with
        | none => rfl
        | some found =>
          obtain ⟨hid, same, hsame, hregistered⟩ := h.pending _ _ hlookup
          obtain rfl : found = other := by
            have hnumber := h.numbers other numbered hother
            omega
          obtain rfl := Option.some.inj (hother.symm.trans hsame)
          exact absurd hstage hregistered
      · exact .inl ⟨call.id, hpending⟩
    · exact absurd (Call.listens_iff.1 hopen.1) (by simp [hnumbered])
    · obtain ⟨-, hwriting, hwaiting, -⟩ := CallStage.ne_of_done (.inl hinert)
      exact absurd (Call.listens_iff.1 hopen.1) (by simp [hwriting, hwaiting])

/-- Nothing has happened at first. -/
theorem peerHeld_start : PeerHeld (.start : Peer R) [] := by
  constructor
  case next => rfl
  case numbers =>
    intro _ _ h
    cases h
  case pending =>
    intro _ _ h
    cases h
  case own =>
    intro _ h
    cases h
  case once => exact List.nodup_nil
  case failed =>
    intro h
    exact absurd rfl h
  case delivering =>
    intro _ _ h
    cases h
  case slots =>
    intro _ _ _ h
    cases h
  case waiting =>
    intro _ _ h
    cases h
  case returned =>
    intro _ _ _ h
    cases h
  case held =>
    rintro _ ⟨_, h, -⟩
    cases h

end Steps

/-! ## Calls that are left return -/

section Returns
variable {peer : Peer R} {number : Nat} {call : Call R}

/-- The peer after some steps from where it is. -/
def Peer.goOn (peer : Peer R) (more : List (PeerAction R)) : Peer R := runFrom Peer.step peer more

/-- A call gets somewhere by steps that tasks take by themselves. -/
def Peer.Reaches (peer : Peer R) (number : Nat) (P : Call R → Prop) : Prop :=
  ∃ more : List (PeerAction R), (∀ action ∈ more, action.isOwn = true) ∧
    TaskIs (peer.goOn more).calls number P

/-- One step, and then further ones. -/
theorem Peer.Reaches.step {P : Call R → Prop} (action : PeerAction R) (own : action.isOwn = true)
    (h : (Peer.step action peer).Reaches number P) : peer.Reaches number P := by
  obtain ⟨more, hmore, hreached⟩ := h
  refine ⟨action :: more, ?_, hreached⟩
  intro other hother
  obtain rfl | hother := List.mem_cons.1 hother
  · exact own
  · exact hmore other hother

/-- Where a call is already. -/
theorem Peer.Reaches.here {P : Call R → Prop} (h : TaskIs peer.calls number P) : peer.Reaches number P :=
  ⟨[], fun _ hmem => absurd hmem List.not_mem_nil, h⟩

/-- The entry of the call that changes. -/
theorem getElem?_setCall_self {f : Call R → Call R} (found : peer.calls[number]? = some call) :
    (peer.setCall number f).calls[number]? = some (f call) := by
  simp [Peer.setCall, found]

/-- The entry of another call. -/
theorem getElem?_setCall_ne {f : Call R → Call R} {other : Nat} (hother : other ≠ number) :
    (peer.setCall other f).calls[number]? = peer.calls[number]? := by
  simp [Peer.setCall, hother]

/-- A call that listens and has no reply takes one. -/
theorem Call.give_of_open (hopen : call.Open) (reply : Reply) :
    call.give reply = { call with slot := some reply } := if_pos hopen

variable (call) in
/-- A call that has its reply returns. -/
theorem reaches_returned_of_slot {reply : Reply} (found : peer.calls[number]? = some call)
    (listens : call.listens = true) (slot : call.slot = some reply) :
    peer.Reaches number fun call => ∃ result, call.stage = .returned result := by
  have hreceives : ∀ {waiting : Peer R} (call : Call R), waiting.calls[number]? = some call →
      call.stage = .waiting → call.slot = some reply →
      waiting.Reaches number fun call => ∃ result, call.stage = .returned result := by
    intro waiting call hcall hstage hslot
    refine .step (.receive number) rfl (.here ?_)
    refine taskIs_modify.2 (.inl ⟨rfl, call, hcall, call.finish reply, ?_⟩)
    simp only [hstage, hslot]
  obtain hwriting | hwaiting := Call.listens_iff.1 listens
  · refine .step (.write number none) rfl ?_
    refine hreceives { call with stage := .waiting } ?_ rfl slot
    simp only [Peer.step, Peer.write, found, hwriting]
    exact getElem?_setCall_self found
  · exact hreceives call found hwaiting slot

variable (call) in
/-- A call that tells others about a failure comes to an end with it. -/
theorem reaches_returned_of_draining {message : String} {senders : List Nat} {error : PluginError}
    (found : peer.calls[number]? = some call) (stage : call.stage = .draining message senders error) :
    peer.Reaches number fun call => ∃ result, call.stage = .returned result := by
  induction senders generalizing peer call with
  | nil =>
    refine .step (.drain number) rfl (.here ?_)
    simp only [Peer.step, Peer.drain, found, stage]
    exact taskIs_modify.2 (.inl ⟨rfl, call, found, .error error, rfl⟩)
  | cons sender rest ih =>
    refine .step (.drain number) rfl ?_
    simp only [Peer.step, Peer.drain, found, stage]
    obtain ⟨after, hafter, hstage⟩ : TaskIs (Peer.tell message sender
        (peer.setStage number (.draining message rest error))).calls number
        (·.stage = .draining message rest error) := by
      refine (taskIs_modify_iff fun call => by rw [Call.give_stage]).2 ?_
      exact taskIs_modify.2 (.inl ⟨rfl, call, found, rfl⟩)
    exact ih _ hafter hstage

variable (peer) in
/-- A call after another one was told, or it itself. -/
theorem told_cases (sender : Nat) (message : String) (found : peer.calls[number]? = some call)
    (hopen : call.Open) :
    (sender = number ∧ ∃ reply, (peer.tell message sender).calls[number]? =
      some { call with slot := some reply }) ∨
    (sender ≠ number ∧ (peer.tell message sender).calls[number]? = some call) := by
  by_cases hsender : sender = number
  · subst hsender
    refine .inl ⟨rfl, .error (.protocol message), (getElem?_setCall_self found).trans ?_⟩
    rw [Call.give_of_open hopen]
  · exact .inr ⟨hsender, (getElem?_setCall_ne hsender).trans found⟩

/-- A call that the reader will tell about a failure returns. -/
theorem reaches_returned_of_readerDraining {message : String} {senders : List Nat}
    (found : peer.calls[number]? = some call) (hopen : call.Open)
    (reader : peer.reader = .draining message senders) (hmem : number ∈ senders) :
    peer.Reaches number fun call => ∃ result, call.stage = .returned result := by
  induction senders generalizing peer with
  | nil => exact absurd hmem List.not_mem_nil
  | cons sender rest ih =>
    refine .step .readerDrain rfl ?_
    simp only [Peer.step, Peer.readerDrain, reader]
    obtain ⟨rfl, reply, htold⟩ | ⟨hsender, hsame⟩ :=
      told_cases { peer with reader := .draining message rest } sender message found hopen
    · exact reaches_returned_of_slot _ htold hopen.1 rfl
    · obtain rfl | hrest := List.mem_cons.1 hmem
      · exact absurd rfl hsender
      · exact ih hsame rfl hrest

/-- A call that another one will tell about a failure returns. -/
theorem reaches_returned_of_told {other : Nat} {teller : Call R} {message : String}
    {senders : List Nat} {error : PluginError} (found : peer.calls[number]? = some call)
    (hopen : call.Open) (telling : peer.calls[other]? = some teller)
    (stage : teller.stage = .draining message senders error) (hmem : number ∈ senders) :
    peer.Reaches number fun call => ∃ result, call.stage = .returned result := by
  induction senders generalizing peer teller with
  | nil => exact absurd hmem List.not_mem_nil
  | cons sender rest ih =>
    have hother : other ≠ number := by
      rintro rfl
      obtain rfl := Option.some.inj (telling.symm.trans found)
      exact absurd (Call.listens_iff.1 hopen.1) (by simp [stage])
    refine .step (.drain other) rfl ?_
    simp only [Peer.step, Peer.drain, telling, stage]
    have hkept : (peer.setStage other (.draining message rest error)).calls[number]? = some call :=
      (getElem?_setCall_ne hother).trans found
    obtain ⟨rfl, reply, htold⟩ | ⟨hsender, hsame⟩ :=
      told_cases _ sender message hkept hopen
    · exact reaches_returned_of_slot _ htold hopen.1 rfl
    · obtain rfl | hrest := List.mem_cons.1 hmem
      · exact absurd rfl hsender
      · obtain ⟨after, hafter, hstage⟩ : TaskIs (Peer.tell message sender
            (peer.setStage other (.draining message rest error))).calls other
            (·.stage = .draining message rest error) := by
          refine (taskIs_modify_iff fun call => by rw [Call.give_stage]).2 ?_
          exact taskIs_modify.2 (.inl ⟨rfl, teller, telling, rfl⟩)
        exact ih hsame hafter hstage hrest

/-- Every call of a failed peer that is not dropped returns without waiting for anyone outside. -/
theorem PeerHeld.reaches_returned {handed : List Handed} (h : PeerHeld peer handed)
    (hfailure : peer.state.failure ≠ none) (found : peer.calls[number]? = some call)
    (dropped : call.stage ≠ .dropped) :
    peer.Reaches number fun call => ∃ result, call.stage = .returned result := by
  have hlistens : call.listens = true →
      peer.Reaches number fun call => ∃ result, call.stage = .returned result := by
    intro hlistens
    cases hslot : call.slot with
    | some reply => exact reaches_returned_of_slot call found hlistens hslot
    | none =>
      have hopen : call.Open := ⟨hlistens, hslot⟩
      obtain ⟨id, hpending⟩ | ⟨reply, hreader⟩ | ⟨message, senders, hreader, hmem⟩ |
        ⟨other, teller, htelling, message, senders, error, hstage, hmem⟩ :=
          h.held number ⟨call, found, hopen⟩
      · rw [h.failed hfailure] at hpending
        cases hpending
      · refine .step .deliver rfl ?_
        simp only [Peer.step, Peer.deliver, hreader]
        refine reaches_returned_of_slot { call with slot := some reply } ?_ hlistens rfl
        rw [← Call.give_of_open hopen]
        exact getElem?_setCall_self found
      · exact reaches_returned_of_readerDraining found hopen hreader hmem
      · exact reaches_returned_of_told found hopen htelling hstage hmem
  cases hstage : call.stage with
  | numbered =>
    obtain ⟨failure, hsome⟩ := Option.ne_none_iff_exists'.1 hfailure
    refine .step (.register number) rfl (.here ?_)
    simp only [Peer.step, Peer.register, found, hstage, hsome]
    exact taskIs_modify.2 (.inl ⟨rfl, call, found, .error (.protocol failure), rfl⟩)
  | writing => exact hlistens (Call.listens_iff.2 (.inl hstage))
  | waiting => exact hlistens (Call.listens_iff.2 (.inr hstage))
  | failing message error =>
    refine .step (.failAll number) rfl ?_
    simp only [Peer.step, Peer.failAll, found, hstage]
    refine reaches_returned_of_draining
      { call with stage := .draining message peer.senders error } ?_ rfl
    exact getElem?_setCall_self found
  | draining message senders error => exact reaches_returned_of_draining call found hstage
  | returned result => exact .here ⟨call, found, result, hstage⟩
  | dropped => exact absurd hstage dropped

end Returns

/-! ## Runs -/

/-- A frame changes no call by itself. -/
theorem Peer.calls_frame (line : Line) (peer : Peer R) : (peer.frame line).calls = peer.calls := by
  unfold Peer.frame
  split
  · rfl
  · split <;> rfl
  · split <;> rfl
  · rfl

/-- Only a step that starts a call adds an entry. -/
theorem Peer.length_step (action : PeerAction R) (peer : Peer R) :
    (Peer.step action peer).calls.length = peer.calls.length + [action].countP PeerAction.isCall := by
  have hset : ∀ (number : Nat) (f : Call R → Call R) (peer : Peer R),
      (peer.setCall number f).calls.length = peer.calls.length := fun number f peer =>
    List.length_modify f peer.calls number
  cases action with
  | call method params deadline decode => simp [Peer.step, Peer.call, PeerAction.isCall]
  | register number =>
    simp only [Peer.step, Peer.register]
    split
    · split
      · split
        · exact hset _ _ _
        · exact hset _ _ _
      · rfl
    · rfl
  | write number failure =>
    simp only [Peer.step, Peer.write]
    split
    · split
      · exact hset _ _ _
      · exact hset _ _ _
      · rfl
    · rfl
  | failAll number =>
    simp only [Peer.step, Peer.failAll]
    split
    · split
      · exact hset _ _ _
      · rfl
    · rfl
  | drain number =>
    simp only [Peer.step, Peer.drain]
    split
    · split
      · exact (hset _ _ _).trans (hset _ _ _)
      · exact hset _ _ _
      · rfl
    · rfl
  | timeout number => exact hset _ _ _
  | receive number => exact hset _ _ _
  | closed number => exact hset _ _ _
  | drop number => exact hset _ _ _
  | frame line => exact congrArg List.length (Peer.calls_frame line peer)
  | eof =>
    simp only [Peer.step, Peer.eof]
    split <;> rfl
  | deliver =>
    simp only [Peer.step, Peer.deliver]
    split
    · exact hset _ _ _
    · rfl
  | readerFail =>
    simp only [Peer.step, Peer.readerFail]
    split <;> rfl
  | readerDrain =>
    simp only [Peer.step, Peer.readerDrain]
    split
    · exact hset _ _ _
    · rfl
    · rfl
  | takeNotification => rfl

/-- A run has as many entries as calls. -/
theorem Peer.length_run (actions : List (PeerAction R)) :
    (Peer.run actions).calls.length = actions.countP PeerAction.isCall := by
  induction actions using List.reverseRecOn with
  | nil => rfl
  | append_singleton actions action ih =>
    rw [Peer.run, runFrom_snoc, Peer.length_step, List.countP_append]
    exact congrArg (· + _) ih

/-- The invariant holds along a run, as long as there are numbers for the calls. -/
theorem peerHeld_run {actions : List (PeerAction R)} (h : actions.countP PeerAction.isCall < u64Max) :
    PeerHeld (Peer.run actions) (responses actions) := by
  induction actions using List.reverseRecOn with
  | nil => exact peerHeld_start
  | append_singleton actions action ih =>
    have hlength := Peer.length_run (actions ++ [action])
    rw [Peer.run, runFrom_snoc] at hlength
    rw [Peer.run, runFrom_snoc, responses, outputsFrom_snoc]
    refine (ih ?_).next_held (Peer.step_move action _) (hlength ▸ h)
    exact Nat.lt_of_le_of_lt ((List.sublist_append_left _ _).countP_le) h

/-- A peer that has failed takes in no response, and stays failed. -/
theorem failed_run {actions : List (PeerAction R)} {before after : List (PeerAction R)}
    (hsplit : actions = before ++ after) (h : actions.countP PeerAction.isCall < u64Max)
    (hfailure : (Peer.run before).state.failure ≠ none) :
    (Peer.run actions).state.failure ≠ none ∧ responses actions = responses before := by
  subst hsplit
  induction after using List.reverseRecOn with
  | nil => exact ⟨by rwa [List.append_nil], by rw [List.append_nil]⟩
  | append_singleton after action ih =>
    rw [← List.append_assoc] at h ⊢
    have hlt : (before ++ after).countP PeerAction.isCall < u64Max :=
      Nat.lt_of_le_of_lt ((List.sublist_append_left _ _).countP_le) h
    obtain ⟨hstill, hsame⟩ := ih hlt
    have hmove := Peer.step_move action (Peer.run (before ++ after))
    rw [Peer.run, runFrom_snoc, responses, outputsFrom_snoc]
    refine ⟨hmove.failure hstill, ?_⟩
    obtain hnil | ⟨entry, -, hpending, -⟩ := hmove.taken
    · exact (congrArg (responses (before ++ after) ++ ·) hnil).trans ((List.append_nil _).trans hsame)
    · rw [(peerHeld_run hlt).failed hstill] at hpending
      cases hpending

/-- A response that was taken in came in a frame. -/
theorem frame_of_mem_responses {actions : List (PeerAction R)} {entry : Handed}
    (h : entry ∈ responses actions) : ∃ before line after, actions = before ++ .frame line :: after ∧
      line.response = some (entry.id, entry.reply) := by
  obtain ⟨before, action, after, rfl, hentry⟩ := mem_outputsFrom h
  cases action with
  | frame line =>
    refine ⟨before, line, after, rfl, ?_⟩
    simp only [handedBy] at hentry
    split at hentry
    · rename_i id reply _ hresponse
      rw [Option.mem_toList, Option.map_eq_some_iff] at hentry
      obtain ⟨number, -, rfl⟩ := hentry
      exact hresponse
    · exact absurd hentry List.not_mem_nil
  | _ => exact absurd hentry List.not_mem_nil

/-- Calls and responses belong together in every run with fewer calls than there are numbers. -/
theorem peer_correlated (actions : List (PeerAction R))
    (hcalls : actions.countP PeerAction.isCall < u64Max) : Correlated actions := by
  have hheld := peerHeld_run hcalls
  constructor
  case result =>
    intro number call result hcall hstage
    obtain ⟨hsent, value, hdecode, hmem⟩ := hheld.returned number call result hcall hstage
    obtain ⟨before, line, after, hsplit, hresponse⟩ := frame_of_mem_responses hmem
    rw [hheld.numbers number call hcall]
    exact ⟨hsent, before, line, after, value, hsplit, hresponse, hdecode, hmem⟩
  case ids =>
    have hids : (Peer.run actions).calls.map (·.id) =
        (List.range (Peer.run actions).calls.length).map (· + 1) := by
      apply List.ext_getElem?
      intro number
      rw [List.getElem?_map, List.getElem?_map]
      cases hcall : (Peer.run actions).calls[number]? with
      | none =>
        rw [List.getElem?_eq_none (by simpa using List.getElem?_eq_none_iff.1 hcall)]
        rfl
      | some call =>
        obtain ⟨hlt, -⟩ := List.getElem?_eq_some_iff.1 hcall
        rw [List.getElem?_range hlt]
        exact congrArg some (hheld.numbers number call hcall)
    rw [hids]
    exact List.nodup_range.map fun _ _ h => Nat.succ.inj h
  case once => exact hheld.once
  case own =>
    intro entry hentry
    obtain ⟨hid, ⟨call, hcall, -⟩, -⟩ := hheld.own entry hentry
    exact ⟨call, hcall, (hheld.numbers _ call hcall).trans hid.symm⟩
  case unknown =>
    intro before line after id reply _ hresponse hlookup
    rw [Peer.run, runFrom_snoc, responses, outputsFrom_snoc]
    refine ⟨Peer.calls_frame line _, ?_⟩
    have hnone : handedBy (.frame line) (Peer.run before) = [] := by
      simp only [handedBy, hresponse]
      split
      · rename_i hreply
        cases hreply
        rw [hlookup]
        rfl
      · rfl
    exact (congrArg (responses before ++ ·) hnone).trans (List.append_nil _)
  case failed =>
    intro before after hsplit hfailure
    obtain ⟨hstill, hsame⟩ := failed_run hsplit hcalls hfailure
    refine ⟨hstill, hheld.failed hstill, hsame, ?_⟩
    intro number call result hcall hstage hnone
    cases result with
    | error error => exact ⟨error, rfl⟩
    | ok result =>
      obtain ⟨-, value, -, hmem⟩ := hheld.returned number call result hcall hstage
      exact absurd rfl (hnone _ (hsame ▸ hmem))
  case returns =>
    intro hfailure number call hcall hdropped
    obtain ⟨more, hown, hreturned⟩ := hheld.reaches_returned hfailure hcall hdropped
    refine ⟨more, hown, ?_⟩
    rw [Peer.run, runFrom_append]
    exact hreturned

/-! ## A response that was taken in before a failure -/

/-- A call of the sample, whose results are taken as they are. -/
def sampleCall (method : String) : PeerAction Value := .call method .null "1s" .ok

/-- The response of the sample to a call. -/
def sampleResponse (id : Nat) : Line :=
  .parsed (.object [("jsonrpc", .string "2.0"), ("id", .nat id), ("result", .string "done")])

/-- Two calls wait for their responses. -/
def waitingRun : List (PeerAction Value) := [
  sampleCall "a", .register 0, .write 0 none, sampleCall "b", .register 1, .write 1 none]

/-- The response to the second call comes first. -/
def answeredRun : List (PeerAction Value) := waitingRun ++ [
  .frame (sampleResponse 2), .deliver, .receive 1, .frame (sampleResponse 1), .deliver, .receive 0]

set_option maxRecDepth 100000 in
/-- Two calls of the sample return. -/
theorem peer_correlated_answeredRun : Correlated answeredRun ∧
    (Peer.run answeredRun).calls.map (·.stage) =
      [.returned (.ok (.string "done")), .returned (.ok (.string "done"))] :=
  ⟨peer_correlated answeredRun (by decide +kernel), by decide +kernel⟩

/-- The second call fails the peer while the reader is about to hand over the first response. -/
def failedRun : List (PeerAction Value) := waitingRun ++ [
  .frame (sampleResponse 1), .timeout 1, .failAll 1]

set_option maxRecDepth 100000 in
/-- A call that still waits when its peer has failed may return a result. -/
theorem waiting_returns_failedRun : ¬ ∀ before after : List (PeerAction Value),
    (before ++ after).countP PeerAction.isCall < u64Max → (Peer.run before).state.failure ≠ none →
    ∀ number, TaskIs (Peer.run before).calls number (·.stage = .waiting) →
    ¬ ∃ result, TaskIs (Peer.run (before ++ after)).calls number (·.stage = .returned (.ok result)) := by
  intro h
  refine h failedRun [.deliver, .receive 0] (by decide +kernel) (by decide +kernel) 0
    (by decide +kernel) ⟨.string "done", ?_⟩
  decide +kernel

end Fleetd.Harness
