import Mathlib.Data.List.Chain
import Fleetd.Controller.ManagedTurn
import Fleetd.Guarantees.FrameSize
import Fleetd.Serde.RoundTrip

/-!
# What a turn keeps of the assistant

All messages of a turn share one budget of bytes. Each of them keeps its leading chunks; the chunk
that the budget ends in is cut at a character or dropped, and after it only texts without a character
still fit. The messages are the runs of chunks with one identifier, and their events are apart.
-/

namespace Fleetd.AcpHost

open Serde (Value)
open Harness

/-! ## Chunks -/

/-- A chunk of an agent message under the number of its update. -/
structure Chunk where
  messageId : Option String
  content : Value
  eventSeq : Nat
  deriving DecidableEq, Repr

/-- The chunk that an update carries. -/
def chunkOf (eventSeq : Nat) (update : Value) : Option Chunk :=
  if update.getStr "sessionUpdate" = some "agent_message_chunk" then
    match chunkMessageId update, update.get "content" with
    | .ok messageId, some content => some ⟨messageId, content, eventSeq⟩
    | _, _ => none
  else none

/-- The chunks of numbered updates. -/
def chunksOf (updates : List (Nat × Value)) : List Chunk :=
  updates.filterMap fun update => chunkOf update.1 update.2

/-- Folds numbered updates into a turn, as long as none of them is refused. -/
def captureAll (turn : ActiveTurn) : List (Nat × Value) → Except DriverError ActiveTurn
  | [] => .ok turn
  | (eventSeq, update) :: rest =>
    match captureUpdate turn eventSeq update with
    | (turn, .ok ()) => captureAll turn rest
    | (_, .error error) => .error error

/-! ## What is kept of a message -/

/-- Whether a block is a text without a character. -/
def isEmptyText (content : Value) : Bool := decide (textFragment content = some "")

/-- What is kept of a chunk that does not fit: nothing, or a proper part of its text at its front. -/
inductive Cut (chunk : Value) : Option Value → Prop
  | dropped : Cut chunk none
  | cut (text kept : String) (hasText : textFragment chunk = some text)
      (front : kept.toList <+: text.toList) (nonempty : kept ≠ "") (proper : kept ≠ text) :
      Cut chunk (some (chunk.insert "text" (.string kept)))

/-- What is kept of the chunks of a message, and whether it is all of them. -/
inductive Kept : List Value → List Value → Bool → Prop
  | whole (chunks : List Value) : Kept chunks chunks true
  | cut (fitting : List Value) {chunk : Value} {part : Option Value} (later : List Value)
      (nonempty : isEmptyText chunk = false) (h : Cut chunk part) :
      Kept (fitting ++ chunk :: later) (fitting ++ part.toList ++ later.filter isEmptyText) false

/-- A key that was set is found. -/
theorem find?_insertMember (key : String) (value : Value) (members : List (String × Value)) :
    ((Serde.insertMember key value members).find? fun member => member.1 = key).map (·.2) =
      some value := by
  induction members with
  | nil => simp [Serde.insertMember]
  | cons member rest ih =>
    obtain ⟨other, old⟩ := member
    rw [Serde.insertMember]
    split
    · simp
    · rename_i hother
      rw [List.find?_cons_of_neg (by simpa using hother)]
      exact ih

/-- A text that was set is read back from an object. -/
theorem getStr_insert {chunk : Value} {text : String} (h : textFragment chunk = some text)
    (kept : String) : (chunk.insert "text" (.string kept)).getStr "text" = some kept := by
  cases chunk with
  | object members =>
    have hget : (Value.object (Serde.insertMember "text" (.string kept) members)).get "text" =
        some (.string kept) := find?_insertMember "text" (.string kept) members
    rw [Value.insert, Value.getStr, hget]
    rfl
  | _ => simp [textFragment, Value.getStr, Value.get] at h

/-- A cut chunk is not the chunk. -/
theorem Cut.ne {chunk part : Value} (h : Cut chunk (some part)) : part ≠ chunk := by
  cases h with
  | cut text kept hasText front nonempty proper =>
    intro hsame
    have hkept := getStr_insert hasText kept
    rw [hsame] at hkept
    rw [textFragment] at hasText
    split at hasText
    · exact proper (Option.some.inj (hkept.symm.trans hasText))
    · cases hasText

namespace Kept
variable {chunks kept : List Value} {complete : Bool}

/-- A message is complete exactly if every chunk of it was kept as it was. -/
theorem complete_iff (h : Kept chunks kept complete) : complete = true ↔ kept = chunks := by
  cases h with
  | whole => simp
  | cut fitting later nonempty h =>
    refine iff_of_false Bool.false_ne_true fun hsame => ?_
    rw [List.append_assoc] at hsame
    have htail := List.append_cancel_left hsame
    cases hpart : (‹Option Value›) with
    | none =>
      rw [hpart] at htail
      have hlength := congrArg List.length htail
      have hfilter := List.length_filter_le isEmptyText later
      rw [Option.toList_none, List.nil_append, List.length_cons] at hlength
      omega
    | some part =>
      rw [hpart] at htail h
      exact h.ne (List.cons.inj htail).1

/-- One more chunk that fits. -/
theorem fits (h : Kept chunks kept true) (chunk : Value) :
    Kept (chunks ++ [chunk]) (kept ++ [chunk]) true := by
  rw [h.complete_iff.1 rfl]
  exact .whole _

/-- The chunk in which the budget ends. -/
theorem ends (h : Kept chunks kept true) {chunk : Value} {part : Option Value}
    (nonempty : isEmptyText chunk = false) (hcut : Cut chunk part) :
    Kept (chunks ++ [chunk]) (kept ++ part.toList) false := by
  rw [h.complete_iff.1 rfl]
  simpa using Kept.cut chunks [] nonempty hcut

/-- After the end of the budget only texts without a character are kept. -/
theorem spent (h : Kept chunks kept false) (chunk : Value) :
    Kept (chunks ++ [chunk]) (kept ++ [chunk].filter isEmptyText) false := by
  cases h with
  | cut fitting later nonempty h =>
    have hnext := Kept.cut fitting (later ++ [chunk]) nonempty h
    rw [List.filter_append] at hnext
    simpa using hnext

end Kept

/-! ## One chunk under the budget -/

/-- A printed value is not empty. -/
theorem size_pos (value : Value) : 0 < value.size := by
  cases value with
  | null => decide
  | bool value => cases value <;> decide
  | number value =>
    obtain ⟨c, rest, htext, -⟩ := Serde.head_print value
    have hlength : value.print ≠ "" := by
      rintro hempty
      rw [hempty] at htext
      cases htext
    rw [Value.size, Value.print]
    exact Nat.pos_of_ne_zero (by simpa using hlength)
  | string text =>
    have htext := Serde.le_stringSize text
    rw [Serde.size_string]
    omega
  | array items =>
    rw [Serde.size_array]
    split <;> omega
  | object members =>
    rw [Serde.size_object]
    split <;> omega

/-- What a chunk leaves of the budget. -/
structure Fitted (limit spent : Nat) (content : Value) (captured : CapturedContent) : Prop where
  bounded : captured.capturedBytes ≤ limit
  exhausted : spent = limit → captured.capturedBytes = limit
  whole : captured.whole = true →
    captured.kept = some content ∧ (spent = limit → isEmptyText content = true)
  cut : captured.whole = false → captured.capturedBytes = limit ∧ isEmptyText content = false ∧
    Cut content captured.kept ∧ (spent = limit → captured.kept = none)

/-- The characters that fit are at the front. -/
theorem truncateChars_prefix (limit : Nat) (text : List Char) : truncateChars limit text <+: text := by
  induction text generalizing limit with
  | nil => exact List.prefix_rfl
  | cons c rest ih =>
    rw [truncateChars]
    split
    · obtain ⟨suffix, hsuffix⟩ := ih (limit - c.utf8Size)
      exact ⟨suffix, by rw [List.cons_append, hsuffix]⟩
    · exact List.nil_prefix

/-- Without bytes no character fits. -/
theorem truncateChars_zero (text : List Char) : truncateChars 0 text = [] := by
  cases text with
  | nil => rfl
  | cons c rest => rw [truncateChars, if_neg (by have := c.utf8Size_pos; omega)]

/-- A chunk is captured within the budget. -/
theorem captureContent_fitted {limit spent : Nat} (hspent : spent ≤ limit) {content : Value}
    {captured : CapturedContent} (h : captureContent limit spent content = .ok captured) :
    Fitted limit spent content captured := by
  unfold captureContent at h
  dsimp only at h
  split at h
  · rename_i htype
    split at h
    · cases h
    · rename_i text htext
      have hfragment : textFragment content = some text := by rw [textFragment, if_pos htype, htext]
      split at h
      · rename_i hfits
        cases h
        refine ⟨?_, fun hfull => ?_, fun _ => ⟨rfl, fun hfull => ?_⟩, fun hfalse => Bool.noConfusion hfalse⟩
        · dsimp only
          omega
        · dsimp only
          omega
        have hempty : text = "" := by
          have hzero : byteLen text = 0 := by omega
          simpa [byteLen] using hzero
        rw [isEmptyText, hfragment, hempty]
        rfl
      · rename_i hlong
        cases h
        have hne : text ≠ "" := by
          rintro rfl
          exact hlong (Nat.zero_le _)
        have hnonempty : isEmptyText content = false := by
          rw [isEmptyText, hfragment]
          simpa using hne
        have hbound := byteLen_truncateUtf8 (limit - spent) text
        refine ⟨Nat.le_refl _, fun _ => rfl, fun hfalse => Bool.noConfusion hfalse, fun _ => ⟨rfl, hnonempty, ?_, ?_⟩⟩
        · dsimp only
          split
          · exact .dropped
          · rename_i hkept
            refine .cut text _ hfragment ?_ hkept ?_
            · rw [truncateUtf8, if_neg hlong, String.toList_ofList]
              exact truncateChars_prefix _ _
            · intro hsame
              rw [hsame] at hbound
              exact hlong hbound
        · intro hfull
          have hzero : limit - spent = 0 := by omega
          rw [hzero] at hlong ⊢
          rw [truncateUtf8, if_neg hlong, truncateChars_zero]
          rfl
  · rename_i htype
    have hnonempty : isEmptyText content = false := by
      rw [isEmptyText, textFragment, if_neg htype]
      rfl
    have hpos : 0 < byteLen content.print := size_pos content
    split at h
    · rename_i hfits
      cases h
      refine ⟨?_, fun hfull => ?_, fun _ => ⟨rfl, fun hfull => ?_⟩, fun hfalse => Bool.noConfusion hfalse⟩
      · dsimp only
        omega
      · omega
      · omega
    · cases h
      exact ⟨Nat.le_refl _, fun _ => rfl, fun hfalse => Bool.noConfusion hfalse,
        fun _ => ⟨rfl, hnonempty, .dropped, fun _ => rfl⟩⟩

/-! ## One update -/

/-- A message that takes a chunk. -/
def extend (message : AssistantMessage) (eventSeq : Nat) (captured : CapturedContent) :
    AssistantMessage :=
  { message with
    lastEventSeq := eventSeq
    content := message.content ++ captured.kept.toList
    complete := message.complete && captured.whole }

theorem modifyLast_concat (f : AssistantMessage → AssistantMessage) (messages : List AssistantMessage)
    (last : AssistantMessage) : modifyLast f (messages ++ [last]) = messages ++ [f last] := by
  rw [modifyLast, List.dropLast_concat, List.getLast?_concat]
  rfl

/-- A captured chunk goes to the last message. -/
theorem captureChunk_ok {turn turn' : ActiveTurn} {eventSeq : Nat} {content : Value}
    {messages : List AssistantMessage} {last : AssistantMessage}
    (hlast : turn.assistantMessages = messages ++ [last])
    (h : captureChunk turn eventSeq content = (turn', .ok ())) :
    ∃ captured, captureContent turn.policy.maxCapturedOutputBytes turn.capturedBytes content =
        .ok captured ∧
      turn' = { turn with
        capturedBytes := captured.capturedBytes
        assistantMessages := messages ++ [extend last eventSeq captured] } := by
  unfold captureChunk at h
  rw [hlast, modifyLast_concat] at h
  dsimp only at h
  split at h
  · cases h
  · rename_i captured hcaptured
    rw [modifyLast_concat] at h
    refine ⟨captured, hcaptured, ?_⟩
    cases h
    rfl

/-- What a captured update does to a turn. -/
inductive UpdateCaptured (turn turn' : ActiveTurn) (eventSeq : Nat) (update : Value) : Prop
  | other (silent : chunkOf eventSeq update = none) (usage : Value)
      (result : turn' = { turn with usage })
  | joined (chunk : Chunk) (captured : CapturedContent) (messages : List AssistantMessage)
      (last : AssistantMessage) (carried : chunkOf eventSeq update = some chunk)
      (content : captureContent turn.policy.maxCapturedOutputBytes turn.capturedBytes chunk.content =
        .ok captured)
      (before : turn.assistantMessages = messages ++ [last]) (same : last.messageId = chunk.messageId)
      (result : turn' = { turn with
        capturedBytes := captured.capturedBytes
        assistantMessages := messages ++ [extend last eventSeq captured] })
  | opened (chunk : Chunk) (captured : CapturedContent) (carried : chunkOf eventSeq update = some chunk)
      (content : captureContent turn.policy.maxCapturedOutputBytes turn.capturedBytes chunk.content =
        .ok captured)
      (starts : startsNewMessage turn.assistantMessages chunk.messageId = true)
      (new : reappears turn.assistantMessages chunk.messageId = false)
      (result : turn' = { turn with
        capturedBytes := captured.capturedBytes
        assistantMessages := turn.assistantMessages ++
          [extend ⟨chunk.messageId, [], true, eventSeq, eventSeq⟩ eventSeq captured] })

theorem captureUpdate_captured {turn turn' : ActiveTurn} {eventSeq : Nat} {update : Value}
    (h : captureUpdate turn eventSeq update = (turn', .ok ())) :
    UpdateCaptured turn turn' eventSeq update := by
  unfold captureUpdate at h
  dsimp only at h
  by_cases hkind : update.getStr "sessionUpdate" = some "agent_message_chunk"
  · have husage : update.getStr "sessionUpdate" ≠ some "usage_update" := by
      rw [hkind]
      decide
    rw [if_neg husage, if_neg (not_not_intro hkind)] at h
    cases hid : chunkMessageId update with
    | error error =>
      rw [hid] at h
      cases h
    | ok messageId =>
      cases hcontent : update.get "content" with
      | none =>
        rw [hid, hcontent] at h
        cases h
      | some content =>
        have hchunk : chunkOf eventSeq update = some ⟨messageId, content, eventSeq⟩ := by
          rw [chunkOf, if_pos hkind, hid, hcontent]
        rw [hid, hcontent] at h
        dsimp only at h
        by_cases hstarts : startsNewMessage turn.assistantMessages messageId = true
        · rw [if_pos hstarts] at h
          by_cases hnew : reappears turn.assistantMessages messageId = true
          · rw [if_pos hnew] at h
            cases h
          · rw [if_neg hnew] at h
            obtain ⟨captured, hcaptured, hresult⟩ := captureChunk_ok
              (rfl : _ = turn.assistantMessages ++ [_]) h
            exact .opened _ captured hchunk hcaptured hstarts (Bool.eq_false_of_not_eq_true hnew)
              hresult
        · rw [if_neg hstarts] at h
          obtain hempty | ⟨messages, last, hmessages⟩ := turn.assistantMessages.eq_nil_or_concat'
          · rw [hempty] at hstarts
            exact absurd rfl hstarts
          · obtain ⟨captured, hcaptured, hresult⟩ := captureChunk_ok hmessages h
            refine .joined _ captured messages last hchunk hcaptured hmessages ?_ hresult
            rw [hmessages, startsNewMessage, List.getLast?_concat] at hstarts
            simpa using hstarts
  · have hsilent : chunkOf eventSeq update = none := by rw [chunkOf, if_neg hkind]
    rw [if_pos hkind] at h
    split at h
    · exact .other hsilent update (Prod.mk.inj h).1.symm
    · exact .other hsilent turn.usage (Prod.mk.inj h).1.symm

/-! ## The messages of a turn -/

/-- A message that stands for a run of chunks. -/
structure MessageOf (message : AssistantMessage) (chunks : List Chunk) : Prop where
  messageId : ∀ chunk ∈ chunks, chunk.messageId = message.messageId
  first : (chunks.map (·.eventSeq)).head? = some message.firstEventSeq
  last : (chunks.map (·.eventSeq)).getLast? = some message.lastEventSeq
  kept : Kept (chunks.map (·.content)) message.content message.complete

/-- The messages of a turn that captured chunks numbered below a bound. -/
structure MessagesCaptured (bound : Nat) (chunks : List Chunk) (turn : ActiveTurn) : Prop where
  bytes : turn.capturedBytes ≤ turn.policy.maxCapturedOutputBytes
  /-- The budget ended in every message that is not complete. -/
  spent : ∀ message ∈ turn.assistantMessages, message.complete = false →
    turn.capturedBytes = turn.policy.maxCapturedOutputBytes
  runs : ∃ runs, runs.flatten = chunks ∧ List.Forall₂ MessageOf turn.assistantMessages runs
  within : MessagesWithin bound turn.assistantMessages
  disjoint : turn.assistantMessages.Pairwise fun a b => a.lastEventSeq < b.firstEventSeq
  named : turn.assistantMessages.Pairwise fun a b => a.messageId ≠ none → a.messageId ≠ b.messageId
  apart : turn.assistantMessages.IsChain fun a b => a.messageId ≠ b.messageId

/-- One more chunk of a message. -/
theorem Kept.extend {chunks kept : List Value} {complete : Bool} (h : Kept chunks kept complete)
    {limit spent : Nat} (hspent : complete = false → spent = limit) {content : Value}
    {captured : CapturedContent} (hfitted : Fitted limit spent content captured) :
    Kept (chunks ++ [content]) (kept ++ captured.kept.toList) (complete && captured.whole) := by
  cases complete with
  | true =>
    cases hwhole : captured.whole with
    | true =>
      rw [(hfitted.whole hwhole).1]
      exact h.fits content
    | false =>
      obtain ⟨-, hnonempty, hcut, -⟩ := hfitted.cut hwhole
      exact h.ends hnonempty hcut
  | false =>
    have hfull := hspent rfl
    have hnext := h.spent content
    cases hwhole : captured.whole with
    | true =>
      obtain ⟨hkept, hempty⟩ := hfitted.whole hwhole
      rw [List.filter_cons_of_pos (hempty hfull), List.filter_nil] at hnext
      rw [hkept]
      exact hnext
    | false =>
      obtain ⟨-, hnonempty, -, hnone⟩ := hfitted.cut hwhole
      rw [List.filter_cons_of_neg (by rw [hnonempty]; decide), List.filter_nil] at hnext
      rw [hnone hfull]
      exact hnext

/-- A message with one more chunk. -/
theorem MessageOf.extend {message : AssistantMessage} {chunks : List Chunk}
    (h : MessageOf message chunks) {chunk : Chunk} (hid : message.messageId = chunk.messageId)
    {limit spent : Nat} (hspent : message.complete = false → spent = limit)
    {captured : CapturedContent} (hfitted : Fitted limit spent chunk.content captured) :
    MessageOf (extend message chunk.eventSeq captured) (chunks ++ [chunk]) where
  messageId other hother := by
    obtain hother | hother := List.mem_append.1 hother
    · exact h.messageId other hother
    · rw [List.mem_singleton.1 hother]
      exact hid.symm
  first := by
    rw [List.map_append, List.head?_append, h.first]
    rfl
  last := by
    rw [List.map_append, List.map_singleton, List.getLast?_concat]
    rfl
  kept := by
    rw [List.map_append]
    exact h.kept.extend hspent hfitted

/-- A message of its own for one chunk. -/
theorem messageOf_opened {chunk : Chunk} {limit spent : Nat} {captured : CapturedContent}
    (hfitted : Fitted limit spent chunk.content captured) :
    MessageOf (extend ⟨chunk.messageId, [], true, chunk.eventSeq, chunk.eventSeq⟩ chunk.eventSeq
      captured) [chunk] where
  messageId other hother := by
    rw [List.mem_singleton.1 hother]
    rfl
  first := rfl
  last := rfl
  kept := (Kept.whole []).extend (fun hfalse => Bool.noConfusion hfalse) hfitted

/-- The last pair of two lists in step. -/
theorem forall₂_concat {α β : Type} {R : α → β → Prop} {xs : List α} {x : α} {ys : List β}
    (h : List.Forall₂ R (xs ++ [x]) ys) :
    ∃ ys' y, ys = ys' ++ [y] ∧ List.Forall₂ R xs ys' ∧ R x y := by
  induction xs generalizing ys with
  | nil =>
    cases h with
    | cons hxy hrest =>
      cases hrest
      exact ⟨[], _, rfl, .nil, hxy⟩
  | cons head rest ih =>
    cases h with
    | cons hhead hrest =>
      obtain ⟨ys', y, rfl, hys, hxy⟩ := ih hrest
      exact ⟨_ :: ys', y, rfl, .cons hhead hys, hxy⟩

/-! ## Runs of updates -/

/-- A chunk has the number of its update. -/
theorem chunkOf_eventSeq {eventSeq : Nat} {update : Value} {chunk : Chunk}
    (h : chunkOf eventSeq update = some chunk) : chunk.eventSeq = eventSeq := by
  unfold chunkOf at h
  split at h
  · split at h
    · cases h
      rfl
    · cases h
  · cases h

/-- A turn that has just started has captured nothing. -/
theorem messagesCaptured_start (request : StartTurn) (watch : Nat) :
    MessagesCaptured 0 [] (.start request watch) where
  bytes := Nat.zero_le _
  spent _ hmem := absurd hmem List.not_mem_nil
  runs := ⟨[], rfl, .nil⟩
  within _ hmem := absurd hmem List.not_mem_nil
  disjoint := .nil
  named := .nil
  apart := .nil

/-- The last member of a list in order is replaced by one that is alike from the front. -/
theorem pairwise_replaced {R : AssistantMessage → AssistantMessage → Prop}
    {messages : List AssistantMessage} {last last' : AssistantMessage}
    (h : (messages ++ [last]).Pairwise R) (hlike : ∀ message, R message last → R message last') :
    (messages ++ [last']).Pairwise R := by
  rw [List.pairwise_append] at h ⊢
  refine ⟨h.1, List.pairwise_singleton _ _, fun a ha b hb => ?_⟩
  rw [List.mem_singleton.1 hb]
  exact hlike a (h.2.2 a ha last List.mem_cons_self)

/-- The last member of a chain is replaced by one that is alike from the front. -/
theorem isChain_replaced {R : AssistantMessage → AssistantMessage → Prop}
    {messages : List AssistantMessage} {last last' : AssistantMessage}
    (h : (messages ++ [last]).IsChain R) (hlike : ∀ message, R message last → R message last') :
    (messages ++ [last']).IsChain R := by
  rw [List.isChain_append] at h ⊢
  refine ⟨h.1, List.isChain_singleton _, fun a ha b hb => ?_⟩
  rw [List.head?_cons, Option.mem_some_iff] at hb
  rw [← hb]
  exact hlike a (h.2.2 a ha last rfl)

variable {bound eventSeq : Nat} {chunks : List Chunk} {turn turn' : ActiveTurn} {update : Value}

/-- One more update. -/
theorem MessagesCaptured.captureUpdate (h : MessagesCaptured bound chunks turn) (hbound : bound ≤ eventSeq)
    (hpos : 0 < eventSeq) (hok : captureUpdate turn eventSeq update = (turn', .ok ())) :
    MessagesCaptured (eventSeq + 1) (chunks ++ (chunkOf eventSeq update).toList) turn' := by
  have hbefore : MessagesWithin eventSeq turn.assistantMessages := fun message hmem => by
    have := h.within message hmem
    omega
  have hwithin := captureUpdate_within turn hpos hbefore update
  rw [hok] at hwithin
  cases captureUpdate_captured hok with
  | other silent usage result =>
    subst result
    rw [silent, Option.toList_none, List.append_nil]
    exact ⟨h.bytes, h.spent, h.runs, hwithin, h.disjoint, h.named, h.apart⟩
  | joined chunk captured messages last carried content before same result =>
    have hseq := chunkOf_eventSeq carried
    have hfitted := captureContent_fitted h.bytes content
    obtain ⟨runs, hruns, hmessages⟩ := h.runs
    have hspent := h.spent
    have hdisjoint := h.disjoint
    have hnamed := h.named
    have hapart := h.apart
    rw [before] at hspent hmessages hdisjoint hnamed hapart
    subst result
    refine ⟨hfitted.bounded, ?_, ?_, hwithin, ?_, ?_, ?_⟩
    · intro message hmem hincomplete
      obtain hmem | hmem := List.mem_append.1 hmem
      · exact hfitted.exhausted (hspent message (List.mem_append_left _ hmem) hincomplete)
      · rw [List.mem_singleton.1 hmem] at hincomplete
        obtain hlast | hcut := (Bool.and_eq_false_iff).1 hincomplete
        · exact hfitted.exhausted (hspent last (List.mem_append_right _ List.mem_cons_self) hlast)
        · exact (hfitted.cut hcut).1
    · obtain ⟨runs', run, rfl, hinit, hlast⟩ := forall₂_concat hmessages
      refine ⟨runs' ++ [run ++ [chunk]], ?_, ?_⟩
      · rw [carried, ← hruns]
        simp
      · subst hseq
        exact List.rel_append hinit (.cons (hlast.extend same
          (hspent last (List.mem_append_right _ List.mem_cons_self)) hfitted) .nil)
    · exact pairwise_replaced hdisjoint fun message hmem => hmem
    · exact pairwise_replaced hnamed fun message hmem => hmem
    · exact isChain_replaced hapart fun message hmem => hmem
  | opened chunk captured carried content starts new result =>
    have hseq := chunkOf_eventSeq carried
    have hfitted := captureContent_fitted h.bytes content
    obtain ⟨runs, hruns, hmessages⟩ := h.runs
    subst result
    refine ⟨hfitted.bounded, ?_, ?_, hwithin, ?_, ?_, ?_⟩
    · intro message hmem hincomplete
      obtain hmem | hmem := List.mem_append.1 hmem
      · exact hfitted.exhausted (h.spent message hmem hincomplete)
      · rw [List.mem_singleton.1 hmem] at hincomplete
        exact (hfitted.cut (by simpa [extend] using hincomplete)).1
    · refine ⟨runs ++ [[chunk]], ?_, ?_⟩
      · rw [carried, ← hruns]
        simp
      · subst hseq
        exact List.rel_append hmessages (.cons (messageOf_opened hfitted) .nil)
    · refine List.pairwise_append.2 ⟨h.disjoint, List.pairwise_singleton _ _, fun a ha b hb => ?_⟩
      rw [List.mem_singleton.1 hb]
      exact (hbefore a ha).2.2
    · refine List.pairwise_append.2 ⟨h.named, List.pairwise_singleton _ _, fun a ha b hb hsome hsame => ?_⟩
      rw [List.mem_singleton.1 hb] at hsame
      have hid : a.messageId = chunk.messageId := hsame
      have hreappears : reappears turn.assistantMessages chunk.messageId = true := by
        rw [reappears, Bool.and_eq_true, List.any_eq_true]
        refine ⟨Option.isSome_iff_ne_none.2 (hid ▸ hsome), a, ha, decide_eq_true hid⟩
      rw [hreappears] at new
      cases new
    · refine List.isChain_append.2 ⟨h.apart, List.isChain_singleton _, fun a ha b hb => ?_⟩
      rw [List.head?_cons, Option.mem_some_iff] at hb
      rw [startsNewMessage, Option.mem_def.1 ha] at starts
      rw [← hb]
      exact of_decide_eq_true starts

/-- A larger bound. -/
theorem MessagesCaptured.mono (h : MessagesCaptured bound chunks turn) {larger : Nat} (hle : bound ≤ larger) :
    MessagesCaptured larger chunks turn :=
  ⟨h.bytes, h.spent, h.runs, fun message hmem => by have := h.within message hmem; omega, h.disjoint,
    h.named, h.apart⟩

/-- A turn that folds updates under growing numbers. -/
theorem MessagesCaptured.captureAll (h : MessagesCaptured bound chunks turn) {updates : List (Nat × Value)} {next : Nat}
    (hbound : ∀ update ∈ updates, 0 < update.1 ∧ bound ≤ update.1) (hnext : bound ≤ next)
    (hnumbers : (updates.map Prod.fst ++ [next]).Pairwise (· < ·))
    (hok : AcpHost.captureAll turn updates = .ok turn') :
    MessagesCaptured next (chunks ++ chunksOf updates) turn' := by
  induction updates generalizing bound chunks turn with
  | nil =>
    cases hok
    rw [chunksOf, List.filterMap_nil, List.append_nil]
    exact h.mono hnext
  | cons update rest ih =>
    obtain ⟨eventSeq, update⟩ := update
    obtain ⟨hpos, hle⟩ := hbound _ List.mem_cons_self
    rw [List.map_cons, List.cons_append, List.pairwise_cons] at hnumbers
    obtain ⟨hlater, hnumbers⟩ := hnumbers
    rw [AcpHost.captureAll] at hok
    split at hok
    · rename_i captured hcaptured
      have hrest := ih (h.captureUpdate hle hpos hcaptured) (fun other hother => ?_) ?_ hnumbers hok
      · have hchunks : chunksOf ((eventSeq, update) :: rest) =
            (chunkOf eventSeq update).toList ++ chunksOf rest := by
          rw [chunksOf, List.filterMap_cons]
          cases chunkOf eventSeq update <;> rfl
        rw [hchunks, ← List.append_assoc]
        exact hrest
      · have hless := hlater other.1 (List.mem_append_left _ (List.mem_map_of_mem hother))
        omega
      · exact hlater next (List.mem_append_right _ List.mem_cons_self)
    · cases hok

/-! ## The guarantee -/

/-- What is promised of the messages that a turn captured from some chunks. -/
structure BoundedCapture [Sha256] (chunks : List Chunk) (turn : ActiveTurn) : Prop where
  bytes : turn.capturedBytes ≤ turn.policy.maxCapturedOutputBytes
  /-- The messages stand for the runs of the chunks, and a message is complete exactly if it has
  every chunk as it was. -/
  messages : ∃ runs, runs.flatten = chunks ∧ List.Forall₂
    (fun message run => MessageOf message run ∧
      (message.complete = true ↔ message.content = run.map (·.content))) turn.assistantMessages runs
  nonempty : ∀ message ∈ turn.assistantMessages,
    0 < message.firstEventSeq ∧ message.firstEventSeq ≤ message.lastEventSeq
  disjoint : turn.assistantMessages.Pairwise fun a b => a.lastEventSeq < b.firstEventSeq
  named : turn.assistantMessages.Pairwise fun a b => a.messageId ≠ none → a.messageId ≠ b.messageId
  apart : turn.assistantMessages.IsChain fun a b => a.messageId ≠ b.messageId
  /-- The host does not refuse the terminal frame for the events of a message. -/
  accepted : ∀ outcome : PromptOutcome, (terminalOf turn outcome).assistantMessages.any
    (HarnessAcpClient.invalidEventBounds (terminalOf turn outcome)) = false
  /-- The controller does not refuse the messages for their events. -/
  selected : ∀ outcome : PromptOutcome,
    selectFinalAssistantMessage (terminalOf turn outcome).assistantMessages ≠
      .error "invalid_message_event_bounds"

/-- Messages whose events are apart have valid bounds. -/
theorem validEventBounds_of_disjoint {messages : List AssistantMessage} {previousLast : Nat}
    (hfirst : ∀ message ∈ messages, previousLast < message.firstEventSeq)
    (hnonempty : ∀ message ∈ messages,
      0 < message.firstEventSeq ∧ message.firstEventSeq ≤ message.lastEventSeq)
    (hdisjoint : messages.Pairwise fun a b => a.lastEventSeq < b.firstEventSeq) :
    validEventBounds previousLast messages = true := by
  induction messages generalizing previousLast with
  | nil => rfl
  | cons message rest ih =>
    obtain ⟨hlater, hdisjoint⟩ := List.pairwise_cons.1 hdisjoint
    have hhead := hfirst message List.mem_cons_self
    obtain ⟨hpos, hle⟩ := hnonempty message List.mem_cons_self
    rw [validEventBounds, if_neg (by omega)]
    exact ih hlater (fun other hother => hnonempty other (List.mem_cons_of_mem _ hother)) hdisjoint

/-- What was captured is bounded. -/
theorem MessagesCaptured.bounded [Sha256] (h : MessagesCaptured turn.nextEventSeq chunks turn) :
    BoundedCapture chunks turn where
  bytes := h.bytes
  messages := by
    obtain ⟨runs, hruns, hmessages⟩ := h.runs
    exact ⟨runs, hruns, hmessages.imp fun _ _ hmessage => ⟨hmessage, hmessage.kept.complete_iff⟩⟩
  nonempty message hmem := ⟨(h.within message hmem).1, (h.within message hmem).2.1⟩
  disjoint := h.disjoint
  named := h.named
  apart := h.apart
  accepted outcome := by
    rw [List.any_eq_false]
    intro message hmem
    have hbounds := h.within message hmem
    have hlast : (terminalOf turn outcome).lastEventSeq = turn.nextEventSeq - 1 := rfl
    simp only [HarnessAcpClient.invalidEventBounds, hlast, Bool.or_eq_true, decide_eq_true_eq]
    omega
  selected outcome := by
    have hvalid : validEventBounds 0 turn.assistantMessages = true :=
      validEventBounds_of_disjoint (fun message hmem => (h.within message hmem).1)
        (fun message hmem => ⟨(h.within message hmem).1, (h.within message hmem).2.1⟩) h.disjoint
    show selectFinalAssistantMessage turn.assistantMessages ≠ _
    unfold selectFinalAssistantMessage
    rw [hvalid]
    simp only [Bool.true_eq_false, if_false]
    split
    · decide
    · split
      · exact fun heq => by cases heq
      · split
        · decide
        · exact fun heq => by cases heq

/-- Whatever updates a turn captured under the numbers of its events, what it captured of the
assistant is bounded. -/
theorem captureAll_bounded [Sha256] {request : StartTurn} {watch : Nat} {updates : List (Nat × Value)}
    {next : Nat} (hnumbers : (0 :: (updates.map Prod.fst ++ [next])).Pairwise (· < ·))
    (hok : captureAll (.start request watch) updates = .ok turn) :
    BoundedCapture (chunksOf updates) { turn with nextEventSeq := next } := by
  obtain ⟨hpos, hnumbers⟩ := List.pairwise_cons.1 hnumbers
  have hcaptured := (messagesCaptured_start request watch).captureAll
    (fun update hupdate => ⟨hpos _ (List.mem_append_left _ (List.mem_map_of_mem hupdate)),
      Nat.zero_le _⟩) (Nat.zero_le next) hnumbers hok
  rw [List.nil_append] at hcaptured
  have hnext : MessagesCaptured next (chunksOf updates) { turn with nextEventSeq := next } :=
    ⟨hcaptured.bytes, hcaptured.spent, hcaptured.runs, hcaptured.within, hcaptured.disjoint,
      hcaptured.named, hcaptured.apart⟩
  exact hnext.bounded

/-- A turn that may keep two bytes. -/
def narrowStart : StartTurn where
  fence := ⟨"B", 1, 1, "i", "f"⟩
  sessionRef := "ref"
  source := ⟨"b", "m", "c", "a", some "corr", none⟩
  prompt := [.text "work"]
  policy := ⟨1000, 1000, 1000, 2, "controller", ⟨10, "observe_then_cancel"⟩, none⟩

/-- A chunk of an agent message. -/
def narrowChunk (messageId text : String) : Value :=
  .object [("sessionUpdate", .string "agent_message_chunk"), ("messageId", .string messageId),
    ("content", .object [("type", .string "text"), ("text", .string text)])]

/-- The budget ends within a character of the first message. -/
def narrowUpdates : List (Nat × Value) :=
  [(1, narrowChunk "one" "a"), (3, narrowChunk "one" "bé"), (4, narrowChunk "one" ""),
    (5, narrowChunk "two" "b")]

set_option maxRecDepth 100000 in
/-- The updates are captured, and what is kept of them is bounded. -/
theorem captureAll_bounded_narrowUpdates : ∃ turn,
    captureAll (.start narrowStart 0) narrowUpdates = .ok turn ∧
      (0 :: (narrowUpdates.map Prod.fst ++ [6])).Pairwise (· < ·) ∧
      turn.assistantMessages.map (·.complete) = [false, false] ∧
      BoundedCapture (chunksOf narrowUpdates) { turn with nextEventSeq := 6 } := by
  have hsome : ((captureAll (.start narrowStart 0) narrowUpdates).toOption.map
      fun turn => turn.assistantMessages.map (·.complete)) = some [false, false] := by decide +kernel
  have hnumbers : (0 :: (narrowUpdates.map Prod.fst ++ [6])).Pairwise (· < ·) := by decide
  cases hok : captureAll (.start narrowStart 0) narrowUpdates with
  | error error =>
    rw [hok] at hsome
    cases hsome
  | ok turn =>
    rw [hok] at hsome
    exact ⟨turn, rfl, hnumbers, Option.some.inj hsome, captureAll_bounded hnumbers hok⟩

/-! ## The turns of the driver -/

/-- What numbers an event of a turn: an update, or a request for a permission. -/
inductive TurnMove
  | update (update : Value) (now : Int)
  | permission

/-- The turn after some events, as long as none of them is refused. -/
def moveAll [Sha256] (turn : ActiveTurn) : List TurnMove → Except DriverError ActiveTurn
  | [] => .ok turn
  | .update update now :: rest =>
    match foldUpdate turn update now with
    | (turn, .ok _) => moveAll turn rest
    | (_, .error error) => .error error
  | .permission :: rest =>
    moveAll { turn with nextEventSeq := (turn.nextEventSeq + 1) % (u64Max + 1) } rest

/-- The updates of a turn under the numbers they get. -/
def numbered (eventSeq : Nat) : List TurnMove → List (Nat × Value)
  | [] => []
  | .update update _ :: rest => (eventSeq, update) :: numbered (eventSeq + 1) rest
  | .permission :: rest => numbered (eventSeq + 1) rest

/-- An update that is folded is captured under the next number. -/
theorem foldUpdate_captured [Sha256] {now : Int} {event : TurnEvent}
    (h : foldUpdate turn update now = (turn', .ok event)) :
    ∃ captured, captureUpdate { turn with nextEventSeq := turn.nextEventSeq + 1 } turn.nextEventSeq
        update = (captured, .ok ()) ∧
      ∃ toolCalls, turn' = { captured with toolCalls } := by
  unfold foldUpdate at h
  split at h
  · cases h
  · dsimp only at h
    split at h
    · cases h
    · rename_i captured hcaptured
      exact ⟨captured, hcaptured, _, (Prod.mk.inj h).1.symm⟩

/-- A turn of the driver captures its updates under the numbers of its events. -/
theorem MessagesCaptured.moveAll [Sha256] (h : MessagesCaptured turn.nextEventSeq chunks turn)
    (hpos : 0 < turn.nextEventSeq) {moves : List TurnMove}
    (hcount : turn.nextEventSeq + moves.length ≤ u64Max) (hok : AcpHost.moveAll turn moves = .ok turn') :
    MessagesCaptured turn'.nextEventSeq (chunks ++ chunksOf (numbered turn.nextEventSeq moves)) turn' := by
  induction moves generalizing chunks turn with
  | nil =>
    cases hok
    rw [numbered, chunksOf, List.filterMap_nil, List.append_nil]
    exact h
  | cons move rest ih =>
    rw [List.length_cons] at hcount
    cases move with
    | update update now =>
      rw [AcpHost.moveAll] at hok
      split at hok
      · rename_i folded event hfolded
        obtain ⟨captured, hcaptured, toolCalls, rfl⟩ := foldUpdate_captured hfolded
        have hnext : captured.nextEventSeq = turn.nextEventSeq + 1 := by
          have hkeeps := (captureUpdate_keeps { turn with nextEventSeq := turn.nextEventSeq + 1 }
            turn.nextEventSeq update).2
          rw [hcaptured] at hkeeps
          exact hkeeps
        have hbefore : MessagesCaptured turn.nextEventSeq chunks
            { turn with nextEventSeq := turn.nextEventSeq + 1 } :=
          ⟨h.bytes, h.spent, h.runs, h.within, h.disjoint, h.named, h.apart⟩
        have hafter := hbefore.captureUpdate (Nat.le_refl _) hpos hcaptured
        rw [← hnext] at hafter
        have hnow : MessagesCaptured captured.nextEventSeq
            (chunks ++ (chunkOf turn.nextEventSeq update).toList) { captured with toolCalls } :=
          ⟨hafter.bytes, hafter.spent, hafter.runs, hafter.within, hafter.disjoint, hafter.named,
            hafter.apart⟩
        have hrest := ih hnow (by dsimp only; omega) (by dsimp only; omega) hok
        have hchunks : chunksOf (numbered turn.nextEventSeq (.update update now :: rest)) =
            (chunkOf turn.nextEventSeq update).toList ++ chunksOf (numbered captured.nextEventSeq rest) := by
          rw [numbered, hnext, chunksOf, List.filterMap_cons]
          cases chunkOf turn.nextEventSeq update <;> rfl
        rw [hchunks, ← List.append_assoc]
        exact hrest
      · cases hok
    | permission =>
      have hnext : (turn.nextEventSeq + 1) % (u64Max + 1) = turn.nextEventSeq + 1 :=
        Nat.mod_eq_of_lt (by omega)
      rw [AcpHost.moveAll, hnext] at hok
      have hmore := h.mono (Nat.le_succ turn.nextEventSeq)
      have hnow : MessagesCaptured (turn.nextEventSeq + 1) chunks
          { turn with nextEventSeq := turn.nextEventSeq + 1 } :=
        ⟨hmore.bytes, hmore.spent, hmore.runs, hmore.within, hmore.disjoint, hmore.named,
          hmore.apart⟩
      exact ih hnow (Nat.succ_pos _) (by dsimp only; omega) hok

/-- What a turn of the driver captures of the assistant is bounded, as long as its events can be
numbered. -/
theorem moveAll_bounded [Sha256] {request : StartTurn} {watch : Nat} {moves : List TurnMove}
    (hcount : moves.length < u64Max) (hok : moveAll (.start request watch) moves = .ok turn) :
    BoundedCapture (chunksOf (numbered 1 moves)) turn := by
  have hstart : MessagesCaptured 1 [] (.start request watch) := (messagesCaptured_start request watch).mono (Nat.zero_le 1)
  have hmoved := hstart.moveAll Nat.one_pos (by simp only [ActiveTurn.start]; omega) hok
  rw [List.nil_append] at hmoved
  exact hmoved.bounded

end Fleetd.AcpHost
