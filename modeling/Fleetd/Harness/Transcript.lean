import Fleetd.Harness.Protocol
import Mathlib.Data.List.ModifyLast

/-!
# Turns of a replayed transcript

A replay is one sequence of entries for a whole session. It is split at the prompts, since a prompt
names its invocation and nothing else in a replay does. What precedes the first prompt, and what
follows a prompt that names nothing, belongs to no invocation.
-/

namespace Fleetd.Harness

open Serde (Value)

/-- The most elements that a vector can hold. -/
def isizeMax : Nat := 9223372036854775807

/-- The vectors of the source. -/
def Vec (α : Type) : Type := { items : List α // items.length ≤ isizeMax }

/-- One run of replayed entries. -/
structure TranscriptTurn where
  invocationId : Option String
  firstEntrySeq : Nat
  entryCount : Nat
  entries : List TranscriptEntry
  deriving DecidableEq, Repr

/-- Whether an entry is a prompt. -/
def opensTurn (entry : TranscriptEntry) : Bool :=
  decide (EventClass.parse entry.classification = .prompt)

/-- The part of a text from its first brace on. -/
def promptDocument (text : String) : Option String :=
  match text.toList.dropWhile (· ≠ '\x7b') with
  | [] => none
  | document => some (String.ofList document)

/-- The invocation that a prompt names. -/
def promptInvocationId (entry : TranscriptEntry) : Option String := do
  let content ← entry.rawUpdate.get "content"
  let text ← (← content.get "text").asStr
  let document ← promptDocument text
  let envelope ← Serde.parse document
  let invocation ← envelope.get "invocation"
  (← invocation.get "id").asStr

/-- A run with its first entry. -/
def openTurn (entry : TranscriptEntry) : TranscriptTurn where
  invocationId := if opensTurn entry = true then promptInvocationId entry else none
  firstEntrySeq := entry.entrySeq
  entryCount := 1
  entries := [entry]

/-- A run with one more entry. -/
def TranscriptTurn.push (turn : TranscriptTurn) (entry : TranscriptEntry) : TranscriptTurn :=
  { turn with
    entryCount := min (turn.entryCount + 1) u64Max
    entries := turn.entries ++ [entry] }

/-- Takes one entry of a replay. -/
def segmentStep (turns : List TranscriptTurn) (entry : TranscriptEntry) : List TranscriptTurn :=
  if opensTurn entry = true ∨ turns = [] then turns ++ [openTurn entry]
  else turns.modifyLast (·.push entry)

/-- The runs of a replay. -/
def segmentTranscript (entries : Vec TranscriptEntry) : List TranscriptTurn :=
  entries.val.foldl segmentStep []

end Fleetd.Harness
