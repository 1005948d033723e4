import Fleetd.Harness.Peer

/-!
# What a step of the peer does

Every step of the peer is one of a few moves, and each move does one of a few things to the entry of
a call. A response that the reader takes in is the only way in which a call gets something from the
process.
-/

namespace Fleetd.Harness

open Serde (Value)
open Effects

variable {R : Type}

/-- A response that the reader takes in: its identifier, the call that is kept under it, and the
reply. -/
structure Handed where
  id : Nat
  call : Nat
  reply : Reply
  deriving DecidableEq, Repr

/-- The response that a step takes in. -/
def handedBy : PeerAction R → Peer R → List Handed
  | .frame line, peer =>
    match peer.reader, line.response with
    | .reading, some (id, reply) =>
      ((peer.state.pending.lookup id).map fun number => ⟨id, number, reply⟩).toList
    | _, _ => []
  | _, _ => []

/-! ## Moves -/

/-- A stage in which a call waits for nothing and has no result. -/
def CallStage.Inert : CallStage R → Prop
  | .failing _ _ => True
  | .dropped => True
  | .returned (.error _) => True
  | _ => False

/-- The reader holds no reply. -/
def ReaderStage.Quiet : ReaderStage → Prop
  | .delivering _ _ => False
  | .draining _ (_ :: _) => False
  | _ => True

/-- The moves of the peer, with the response that is taken in. -/
inductive PeerMove (peer : Peer R) : List Handed → Peer R → Prop
  | started {method : String} {params : Value} {deadline : String}
      {decode : Value → Except PluginError R} {stage : CallStage R}
      (fresh : stage = .numbered ∨ stage.Inert) : PeerMove peer [] { peer with
        nextId := (peer.nextId + 1) % (u64Max + 1)
        calls := peer.calls ++ [⟨peer.nextId, method, params, deadline, decode, none, stage⟩] }
  | registered {number : Nat} {call : Call R} (found : peer.calls[number]? = some call)
      (stage : call.stage = .numbered) (unfailed : peer.state.failure = none) :
      PeerMove peer [] (Peer.setStage number .writing { peer with
        state := { peer.state with pending := peer.state.pending.insert call.id number } })
  | wrote {number : Nat} {call : Call R} (found : peer.calls[number]? = some call)
      (stage : call.stage = .writing) : PeerMove peer [] (Peer.setStage number .waiting { peer with
        sent := peer.sent ++ [requestFrame call.id call.method call.params] })
  | received {number : Nat} {call : Call R} {reply : Reply} (found : peer.calls[number]? = some call)
      (stage : call.stage = .waiting) (slot : call.slot = some reply) :
      PeerMove peer [] (peer.setStage number (.returned (call.finish reply)))
  | ended {number : Nat} {call : Call R} {stage : CallStage R}
      (found : peer.calls[number]? = some call) (inert : stage.Inert)
      (idle : ∀ message sender rest error, call.stage ≠ .draining message (sender :: rest) error) :
      PeerMove peer [] (peer.setStage number stage)
  | failed {number : Nat} {call : Call R} {message : String} {error : PluginError}
      (found : peer.calls[number]? = some call) (stage : call.stage = .failing message error) :
      PeerMove peer [] (Peer.setStage number (.draining message peer.senders error)
        (peer.fail message))
  | told {number : Nat} {call : Call R} {message : String} {sender : Nat} {rest : List Nat}
      {error : PluginError} (found : peer.calls[number]? = some call)
      (stage : call.stage = .draining message (sender :: rest) error) :
      PeerMove peer [] (Peer.tell message sender (peer.setStage number (.draining message rest error)))
  | handed {id number : Nat} {reply : Reply} (reading : peer.reader = .reading)
      (found : peer.state.pending.lookup id = some number) : PeerMove peer [⟨id, number, reply⟩] { peer with
        state := { peer.state with pending := peer.state.pending.erase id }
        reader := .delivering number reply }
  | delivered {number : Nat} {reply : Reply} (delivering : peer.reader = .delivering number reply) :
      PeerMove peer [] (Peer.setCall number (Call.give reply) { peer with reader := .reading })
  | readerFailed {message : String} (failing : peer.reader = .failing message) :
      PeerMove peer [] { peer.fail message with reader := .draining message peer.senders }
  | readerTold {message : String} {sender : Nat} {rest : List Nat}
      (draining : peer.reader = .draining message (sender :: rest)) :
      PeerMove peer [] (Peer.tell message sender { peer with reader := .draining message rest })
  | quiet {reader : ReaderStage} {notifications : List PluginNotification}
      (same : reader = peer.reader ∨ peer.reader.Quiet ∧ reader.Quiet) :
      PeerMove peer [] { peer with reader, notifications }

namespace Peer
variable (peer : Peer R)

/-- A step that is not enabled. -/
theorem move_refl : PeerMove peer [] peer := .quiet (.inl rfl)

/-- An entry that is changed is one that is there. -/
theorem setCall_eq {number : Nat} {f : Call R → Call R} {call : Call R} {stage : CallStage R}
    (found : peer.calls[number]? = some call) (h : f call = { call with stage }) :
    peer.setCall number f = peer.setStage number stage := by
  have hcalls : peer.calls.modify number f = peer.calls.modify number fun call => { call with stage } := by
    apply List.ext_getElem?
    intro other
    rw [List.getElem?_modify, List.getElem?_modify]
    by_cases hother : number = other
    · subst hother
      rw [found]
      simp [h]
    · simp only [if_neg hother]
  rw [setCall, setStage, setCall, hcalls]

/-- An entry that is not changed. -/
theorem setCall_self {number : Nat} {f : Call R → Call R}
    (h : ∀ call, peer.calls[number]? = some call → f call = call) : peer.setCall number f = peer := by
  have hcalls : peer.calls.modify number f = peer.calls := by
    apply List.ext_getElem?
    intro other
    rw [List.getElem?_modify]
    cases hother : peer.calls[other]? with
    | none => rfl
    | some call =>
      split
      · rename_i hsame
        subst hsame
        exact congrArg some (h call hother)
      · rfl
  rw [setCall, hcalls]

/-- A change of one entry that leaves it alone or ends the call. -/
theorem move_setCall {number : Nat} {f : Call R → Call R}
    (h : ∀ call, peer.calls[number]? = some call → f call = call ∨ ∃ stage, f call = { call with stage } ∧
      stage.Inert ∧ ∀ message sender rest error, call.stage ≠ .draining message (sender :: rest) error) :
    PeerMove peer [] (peer.setCall number f) := by
  cases hfound : peer.calls[number]? with
  | none =>
    rw [peer.setCall_self fun call hcall => by rw [hfound] at hcall; cases hcall]
    exact peer.move_refl
  | some call =>
    obtain hself | ⟨stage, hstage, hinert, hidle⟩ := h call hfound
    · rw [peer.setCall_self fun other hother => by
        obtain rfl : call = other := Option.some.inj (hfound.symm.trans hother)
        exact hself]
      exact peer.move_refl
    · rw [peer.setCall_eq hfound hstage]
      exact .ended hfound hinert hidle

theorem move_call (method : String) (params : Value) (deadline : String)
    (decode : Value → Except PluginError R) :
    PeerMove peer [] (peer.call method params deadline decode) := by
  refine .started ?_
  split
  · exact .inr trivial
  · split
    · exact .inr trivial
    · exact .inl rfl

theorem move_register (number : Nat) : PeerMove peer [] (peer.register number) := by
  unfold register
  split
  · rename_i call hfound
    split
    · rename_i hstage
      split
      · rename_i failure hfailure
        exact .ended hfound trivial (by simp [hstage])
      · rename_i hfailure
        exact .registered hfound hstage hfailure
    · exact peer.move_refl
  · exact peer.move_refl

theorem move_write (number : Nat) (failure : Option String) :
    PeerMove peer [] (peer.write number failure) := by
  unfold write
  split
  · rename_i call hfound
    split
    · rename_i hstage
      exact .wrote hfound hstage
    · rename_i message hstage
      refine peer.move_setCall fun other hother => .inr ⟨_, rfl, trivial, ?_⟩
      obtain rfl : call = other := Option.some.inj (hfound.symm.trans hother)
      simp [hstage]
    · exact peer.move_refl
  · exact peer.move_refl

theorem move_timeout (number : Nat) : PeerMove peer [] (peer.timeout number) := by
  refine peer.move_setCall fun call _ => ?_
  split
  · rename_i hstage
    exact .inr ⟨_, rfl, trivial, by simp [hstage]⟩
  · rename_i hstage hslot
    exact .inr ⟨_, rfl, trivial, by simp [hstage]⟩
  · exact .inl rfl

theorem move_closed (number : Nat) : PeerMove peer [] (peer.closed number) := by
  refine peer.move_setCall fun call _ => ?_
  split
  · rename_i hstage hslot
    split
    · exact .inl rfl
    · exact .inr ⟨_, rfl, trivial, by simp [hstage]⟩
  · exact .inl rfl

theorem move_drop (number : Nat) : PeerMove peer [] (peer.drop number) := by
  refine peer.move_setCall fun call _ => ?_
  split
  · rename_i hstage
    exact .inr ⟨_, rfl, trivial, by simp [hstage]⟩
  · rename_i hstage
    exact .inr ⟨_, rfl, trivial, by simp [hstage]⟩
  · rename_i hstage
    exact .inr ⟨_, rfl, trivial, by simp [hstage]⟩
  · rename_i hstage
    exact .inr ⟨_, rfl, trivial, by simp [hstage]⟩
  · exact .inl rfl

theorem move_receive (number : Nat) : PeerMove peer [] (peer.receive number) := by
  cases hfound : peer.calls[number]? with
  | none =>
    rw [receive, peer.setCall_self fun call hcall => by rw [hfound] at hcall; cases hcall]
    exact peer.move_refl
  | some call =>
    by_cases hready : ∃ reply, call.stage = .waiting ∧ call.slot = some reply
    · obtain ⟨reply, hstage, hslot⟩ := hready
      have hreturns : peer.receive number =
          peer.setStage number (.returned (call.finish reply)) := by
        rw [receive]
        refine peer.setCall_eq hfound ?_
        simp [hstage, hslot]
      rw [hreturns]
      exact .received hfound hstage hslot
    · rw [receive, peer.setCall_self]
      · exact peer.move_refl
      · intro other hother
        obtain rfl : call = other := Option.some.inj (hfound.symm.trans hother)
        split
        · rename_i reply hstage hslot
          exact absurd ⟨reply, hstage, hslot⟩ hready
        · rfl

theorem move_failAll (number : Nat) : PeerMove peer [] (peer.failAll number) := by
  unfold failAll
  split
  · rename_i call hfound
    split
    · rename_i message error hstage
      exact .failed hfound hstage
    · exact peer.move_refl
  · exact peer.move_refl

theorem move_drain (number : Nat) : PeerMove peer [] (peer.drain number) := by
  unfold drain
  split
  · rename_i call hfound
    split
    · rename_i message sender rest error hstage
      exact .told hfound hstage
    · rename_i message error hstage
      exact .ended hfound trivial (by simp [hstage])
    · exact peer.move_refl
  · exact peer.move_refl

theorem move_frame (line : Line) : PeerMove peer (handedBy (.frame line) peer) (peer.frame line) := by
  by_cases hreading : peer.reader = .reading
  · have hquiet : ∀ message, PeerMove peer [] { peer with reader := .failing message } := by
      intro message
      refine .quiet (.inr ⟨?_, trivial⟩)
      rw [hreading]
      trivial
    cases hincoming : line.incoming with
    | error message =>
      simp only [frame, handedBy, Line.response, hreading, hincoming]
      exact hquiet message
    | ok incoming =>
      cases incoming with
      | notification notification =>
        simp only [frame, handedBy, Line.response, hreading, hincoming]
        split
        · exact .quiet (.inl hreading.symm)
        · exact hquiet _
      | response id reply =>
        cases hlookup : peer.state.pending.lookup id with
        | some number =>
          simp only [frame, handedBy, Line.response, hreading, hincoming, hlookup]
          exact .handed hreading hlookup
        | none =>
          simp only [frame, handedBy, Line.response, hreading, hincoming, hlookup]
          exact hquiet _
  · have hframe : peer.frame line = peer := by
      unfold frame
      split
      · rename_i hreader _
        exact absurd hreader hreading
      · rename_i hreader _
        exact absurd hreader hreading
      · rename_i hreader _
        exact absurd hreader hreading
      · rfl
    have hnone : handedBy (.frame line) peer = [] := by
      simp only [handedBy]
      split
      · rename_i hreader _
        exact absurd hreader hreading
      · rfl
    rw [hframe, hnone]
    exact peer.move_refl

theorem move_eof : PeerMove peer [] peer.eof := by
  unfold eof
  split
  · rename_i hreading
    exact .quiet (.inr ⟨hreading ▸ trivial, trivial⟩)
  · exact peer.move_refl

theorem move_deliver : PeerMove peer [] peer.deliver := by
  unfold deliver
  split
  · rename_i number reply hreader
    exact .delivered hreader
  · exact peer.move_refl

theorem move_readerFail : PeerMove peer [] peer.readerFail := by
  unfold readerFail
  split
  · rename_i message hreader
    exact .readerFailed hreader
  · exact peer.move_refl

theorem move_readerDrain : PeerMove peer [] peer.readerDrain := by
  unfold readerDrain
  split
  · rename_i message sender rest hreader
    exact .readerTold hreader
  · rename_i message hreader
    exact .quiet (.inr ⟨hreader ▸ trivial, trivial⟩)
  · exact peer.move_refl

end Peer

/-- Every step of the peer is a move. -/
theorem Peer.step_move (action : PeerAction R) (peer : Peer R) :
    PeerMove peer (handedBy action peer) (Peer.step action peer) := by
  cases action with
  | call method params deadline decode => exact peer.move_call method params deadline decode
  | register number => exact peer.move_register number
  | write number failure => exact peer.move_write number failure
  | timeout number => exact peer.move_timeout number
  | receive number => exact peer.move_receive number
  | closed number => exact peer.move_closed number
  | failAll number => exact peer.move_failAll number
  | drain number => exact peer.move_drain number
  | drop number => exact peer.move_drop number
  | frame line => exact peer.move_frame line
  | eof => exact peer.move_eof
  | deliver => exact peer.move_deliver
  | readerFail => exact peer.move_readerFail
  | readerDrain => exact peer.move_readerDrain
  | takeNotification => exact .quiet (.inl rfl)

/-! ## Entries -/

/-- What a move does to the entry of a call. -/
inductive CallMove (peer peer' : Peer R) (number : Nat) (call : Call R) : Call R → Prop
  | same : CallMove peer peer' number call call
  | registered (stage : call.stage = .numbered)
      (pending : peer'.state.pending.lookup call.id = some number) :
      CallMove peer peer' number call { call with stage := .writing }
  | wrote (stage : call.stage = .writing)
      (sent : requestFrame call.id call.method call.params ∈ peer'.sent) :
      CallMove peer peer' number call { call with stage := .waiting }
  | given {reply : Reply} (slot : call.slot = none) (listens : call.listens = true)
      (source : peer.reader = .delivering number reply ∨ ∃ message, reply = .error (.protocol message)) :
      CallMove peer peer' number call { call with slot := some reply }
  | received {reply : Reply} (stage : call.stage = .waiting) (slot : call.slot = some reply) :
      CallMove peer peer' number call { call with stage := .returned (call.finish reply) }
  | ended {stage : CallStage R}
      (done : stage.Inert ∨ ∃ message senders error, stage = .draining message senders error) :
      CallMove peer peer' number call { call with stage }

/-- A call that is offered a reply takes it or is left alone. -/
theorem CallMove.give {peer peer' : Peer R} {number : Nat} {reply : Reply} (call : Call R)
    (source : peer.reader = .delivering number reply ∨ ∃ message, reply = .error (.protocol message)) :
    CallMove peer peer' number call (call.give reply) := by
  unfold Call.give
  split
  · rename_i hopen
    exact .given hopen.2 hopen.1 source
  · exact .same

/-- A call that does not listen is left alone. -/
theorem Call.give_of_not_listens {call : Call R} (reply : Reply) (h : call.listens = false) :
    call.give reply = call := by
  rw [Call.give, if_neg]
  rw [h]
  rintro ⟨hlistens, -⟩
  cases hlistens

section Entries
variable {peer peer' : Peer R} {out : List Handed}

/-- No entry is lost. -/
theorem PeerMove.length_le (h : PeerMove peer out peer') : peer.calls.length ≤ peer'.calls.length := by
  cases h with
  | started => simp
  | quiet => exact Nat.le_refl _
  | handed => exact Nat.le_refl _
  | readerFailed => exact Nat.le_refl _
  | registered => simp [Peer.setStage, Peer.setCall]
  | wrote => simp [Peer.setStage, Peer.setCall]
  | received => simp [Peer.setStage, Peer.setCall]
  | ended => simp [Peer.setStage, Peer.setCall]
  | failed => simp [Peer.setStage, Peer.setCall, Peer.fail]
  | told => simp [Peer.setStage, Peer.setCall, Peer.tell]
  | delivered => simp [Peer.setCall]
  | readerTold => simp [Peer.setCall, Peer.tell]

/-- The entry of a call after the change of one. -/
theorem getElem?_setCall {number other : Nat} {f : Call R → Call R} {after : Call R}
    (h : (peer.setCall number f).calls[other]? = some after) :
    ∃ call, peer.calls[other]? = some call ∧ after = if number = other then f call else call := by
  rw [Peer.setCall, List.getElem?_modify] at h
  obtain ⟨call, hcall, hafter⟩ := Option.map_eq_some_iff.1 h
  refine ⟨call, hcall, ?_⟩
  split
  · rename_i heq
    rw [if_pos heq] at hafter
    exact hafter.symm
  · rename_i hne
    rw [if_neg hne] at hafter
    exact hafter.symm

/-- An entry after a move is that of a call that was there before, or of one that has just taken its
number. -/
theorem PeerMove.entry (h : PeerMove peer out peer') {number : Nat} {after : Call R}
    (hafter : peer'.calls[number]? = some after) :
    (∃ call, peer.calls[number]? = some call ∧ CallMove peer peer' number call after) ∨
      number = peer.calls.length ∧ after.id = peer.nextId ∧ after.slot = none ∧
        (after.stage = .numbered ∨ after.stage.Inert) := by
  cases h with
  | quiet => exact .inl ⟨after, hafter, .same⟩
  | handed => exact .inl ⟨after, hafter, .same⟩
  | readerFailed => exact .inl ⟨after, hafter, .same⟩
  | started hfresh =>
    rw [List.getElem?_append] at hafter
    split at hafter
    · exact .inl ⟨after, hafter, .same⟩
    · rename_i hlt
      rw [List.getElem?_singleton] at hafter
      split at hafter
      · cases hafter
        exact .inr ⟨by omega, rfl, rfl, hfresh⟩
      · cases hafter
  | registered hfound hstage _ =>
    obtain ⟨call, hcall, rfl⟩ := getElem?_setCall hafter
    refine .inl ⟨call, hcall, ?_⟩
    split
    · rename_i heq
      subst heq
      obtain rfl := Option.some.inj (hfound.symm.trans hcall)
      exact .registered hstage (AList.lookup_insert _)
    · exact .same
  | wrote hfound hstage =>
    obtain ⟨call, hcall, rfl⟩ := getElem?_setCall hafter
    refine .inl ⟨call, hcall, ?_⟩
    split
    · rename_i heq
      subst heq
      obtain rfl := Option.some.inj (hfound.symm.trans hcall)
      exact .wrote hstage (List.mem_append_right _ List.mem_cons_self)
    · exact .same
  | received hfound hstage hslot =>
    obtain ⟨call, hcall, rfl⟩ := getElem?_setCall hafter
    refine .inl ⟨call, hcall, ?_⟩
    split
    · rename_i heq
      subst heq
      obtain rfl := Option.some.inj (hfound.symm.trans hcall)
      exact .received hstage hslot
    · exact .same
  | ended hfound hinert _ =>
    obtain ⟨call, hcall, rfl⟩ := getElem?_setCall hafter
    refine .inl ⟨call, hcall, ?_⟩
    split
    · exact .ended (.inl hinert)
    · exact .same
  | failed hfound hstage =>
    obtain ⟨call, hcall, rfl⟩ := getElem?_setCall hafter
    refine .inl ⟨call, hcall, ?_⟩
    split
    · exact .ended (.inr ⟨_, _, _, rfl⟩)
    · exact .same
  | @told teller _ message sender rest error hfound hstage =>
    obtain ⟨moved, hmoved, rfl⟩ := getElem?_setCall hafter
    obtain ⟨call, hcall, rfl⟩ := getElem?_setCall hmoved
    refine .inl ⟨call, hcall, ?_⟩
    by_cases hself : teller = number
    · rw [if_pos hself, Call.give_of_not_listens _ rfl, ite_self]
      exact .ended (.inr ⟨_, _, _, rfl⟩)
    · rw [if_neg hself]
      split
      · exact .give call (.inr ⟨_, rfl⟩)
      · exact .same
  | delivered hdelivering =>
    obtain ⟨call, hcall, rfl⟩ := getElem?_setCall hafter
    refine .inl ⟨call, hcall, ?_⟩
    split
    · rename_i heq
      exact .give call (.inl (heq ▸ hdelivering))
    · exact .same
  | readerTold hdraining =>
    obtain ⟨call, hcall, rfl⟩ := getElem?_setCall hafter
    refine .inl ⟨call, hcall, ?_⟩
    split
    · exact .give call (.inr ⟨_, rfl⟩)
    · exact .same

/-- The entry of a call that was there before a move. -/
theorem PeerMove.entry_of_before (h : PeerMove peer out peer') {number : Nat} {call : Call R}
    (hcall : peer.calls[number]? = some call) :
    ∃ after, peer'.calls[number]? = some after ∧ CallMove peer peer' number call after := by
  obtain ⟨hlt, -⟩ := List.getElem?_eq_some_iff.1 hcall
  have hafter := List.getElem?_eq_getElem (Nat.lt_of_lt_of_le hlt h.length_le)
  refine ⟨_, hafter, ?_⟩
  obtain ⟨before, hbefore, hmove⟩ | ⟨hnumber, -⟩ := h.entry hafter
  · obtain rfl := Option.some.inj (hcall.symm.trans hbefore)
    exact hmove
  · omega

end Entries

end Fleetd.Harness
