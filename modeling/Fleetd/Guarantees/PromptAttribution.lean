import Fleetd.Guarantees.StartFrame
import Fleetd.Guarantees.TranscriptTurns
import Fleetd.Serde.Balance
import Fleetd.Worker.Envelope

/-!
# Prompts that name their invocation

A prompt ends with the envelope of its invocation, and a replay finds the invocation by reading the
text from its first brace on. Standing instructions come before the envelope: a brace in them is
found first, and what follows it is never a JSON value, because the envelope after it cannot close
it. Then a turn that was dispatched is replayed as one that was not. The same happens if a payload
is nested so deeply that its envelope is beyond what the parser reads.
-/

namespace Fleetd.Worker

open Serde (Value)
open Harness

/-! ## What is promised -/

/-- An entry that replays a text. -/
def Quotes (entry : TranscriptEntry) (text : String) : Prop :=
  (entry.rawUpdate.get "content").bind (Value.getStr "text") = some text

/-- A prompt that is replayed is attributed to its invocation and to no other. -/
structure AttributesPrompt (adapter : EnvelopeTurnAdapter) (invocation : Invocation Value)
    (context : ChannelTurnContext) : Prop where
  named : ∀ entry, Quotes entry (promptText adapter invocation context) →
    promptInvocationId entry = some invocation.id
  segments : ∀ (entries : Vec TranscriptEntry), ∀ turn ∈ segmentTranscript entries,
    ∀ prompt ∈ turn.entries.head?, opensTurn prompt = true →
      Quotes prompt (promptText adapter invocation context) → turn.invocationId = some invocation.id
  distinct : ∀ (otherAdapter : EnvelopeTurnAdapter) (other : Invocation Value)
    (otherContext : ChannelTurnContext), other.id ≠ invocation.id →
    ∀ entry otherEntry, Quotes entry (promptText adapter invocation context) →
      Quotes otherEntry (promptText otherAdapter other otherContext) →
      promptInvocationId otherEntry ≠ promptInvocationId entry

/-- The standing instructions have no brace, and no payload is nested too deeply. -/
structure Decodable (adapter : EnvelopeTurnAdapter) (invocation : Invocation Value)
    (context : ChannelTurnContext) : Prop where
  plain : ∀ instructions ∈ adapter.standingInstructions, '\x7b' ∉ instructions.toList
  payload : invocation.message.payload.nesting ≤ 125
  history : ∀ message ∈ context.recentHistory, message.payload.nesting ≤ 123

variable {adapter : EnvelopeTurnAdapter} {invocation : Invocation Value}
  {context : ChannelTurnContext} {entry : TranscriptEntry}

/-! ## The envelope -/

theorem nesting_optional (text : Option String) : (Value.optional text).nesting = 0 := by
  cases text <;> rfl

/-- A message is one level deeper than its payload. -/
theorem nesting_messageValue (message : Message Value) :
    (messageValue message).nesting = message.payload.nesting + 1 := by
  simp [messageValue, Value.nesting, Value.nestingMembers, Value.nestingMember, nesting_optional,
    Value.nat, Value.int]

theorem nesting_memberValue (member : ChannelMemberView) : (memberValue member).nesting = 1 := by
  simp [memberValue, Value.nesting, Value.nestingMembers, Value.nestingMember, Value.int]

/-- The envelope is read exactly if its payloads are not too deep. -/
theorem nesting_envelope (invocation : Invocation Value) (context : ChannelTurnContext) :
    (envelope invocation context).nesting < Serde.recursionLimit ↔
      invocation.message.payload.nesting ≤ 125 ∧
        ∀ message ∈ context.recentHistory, message.payload.nesting ≤ 123 := by
  have hmembers : Value.nestingItems (context.members.map memberValue) ≤ 1 := by
    rw [Value.nestingItems_le_iff]
    intro item hitem
    obtain ⟨member, -, rfl⟩ := List.mem_map.1 hitem
    exact Nat.le_of_eq (nesting_memberValue member)
  have hhistory : Value.nestingItems (context.recentHistory.map messageValue) ≤ 124 ↔
      ∀ message ∈ context.recentHistory, message.payload.nesting ≤ 123 := by
    rw [Value.nestingItems_le_iff, List.forall_mem_map]
    refine forall₂_congr fun message _ => ?_
    rw [nesting_messageValue]
    omega
  rw [← hhistory]
  simp only [envelope, Value.nesting, Value.nestingMembers, Value.nestingMember, Value.nat,
    nesting_messageValue, Serde.recursionLimit]
  omega

/-- The envelope that is read names the invocation. -/
theorem merged_envelope (invocation : Invocation Value) (context : ChannelTurnContext) :
    ((envelope invocation context).merged.get "invocation").bind (Value.getStr "id") =
      some invocation.id := by
  simp [envelope, Value.merged, Value.mergedMembers, Value.mergedMember, Serde.collectMembers,
    Serde.insertMember, Value.get, Value.getStr, Value.asStr]

/-! ## The document -/

/-- What a quoted text is read as. -/
def documentInvocationId (document : String) : Option String :=
  (Serde.parse document).bind fun envelope => (envelope.get "invocation").bind (Value.getStr "id")

theorem promptInvocationId_quotes {text : String} (h : Quotes entry text) :
    promptInvocationId entry = (promptDocument text).bind documentInvocationId := by
  obtain ⟨content, hcontent, htext⟩ := Option.bind_eq_some_iff.1 h
  rw [Value.getStr] at htext
  simp only [promptInvocationId, hcontent, htext, Option.bind_eq_bind, Option.bind_some,
    ← Option.bind_assoc]
  simp only [Option.bind_assoc]
  rfl

/-- A document begins at the first brace. -/
theorem promptDocument_brace {front document : List Char} (h : '\x7b' ∉ front) :
    promptDocument (String.ofList (front ++ '\x7b' :: document)) =
      some (String.ofList ('\x7b' :: document)) := by
  have hfront : ∀ c ∈ front, decide (c ≠ '\x7b') = true := fun c hc =>
    decide_eq_true fun heq => h (heq ▸ hc)
  rw [promptDocument, String.toList_ofList, List.dropWhile_append_of_pos hfront,
    List.dropWhile_cons_of_neg (by decide)]

/-- The text of an envelope: braces around something that ends with a line break. -/
theorem toList_envelope (invocation : Invocation Value) (context : ChannelTurnContext) :
    ∃ inner, ((envelope invocation context).printPretty 0).toList = '\x7b' :: (inner ++ ['\x7d']) := by
  rw [envelope, Serde.toList_pretty_object]
  simp only [← List.append_assoc]
  exact ⟨_, rfl⟩

theorem not_mem_append {c : Char} {text rest : String} (h : c ∉ text.toList)
    (hrest : c ∉ rest.toList) : c ∉ (text ++ rest).toList := by
  rw [String.toList_append, List.mem_append]
  exact not_or.2 ⟨h, hrest⟩

theorem promptIntroduction_plain : '\x7b' ∉ promptIntroduction.toList := by
  unfold promptIntroduction
  refine not_mem_append (not_mem_append (not_mem_append (not_mem_append (not_mem_append
    (not_mem_append (not_mem_append ?_ ?_) ?_) ?_) ?_) ?_) ?_) ?_
  all_goals
    rw [Serde.toList_literal rfl]
    decide +kernel

theorem standingIntroduction_plain : '\x7b' ∉ standingIntroduction.toList := by
  rw [standingIntroduction, Serde.toList_literal rfl]
  decide +kernel

/-- The document of a prompt without a brace in its instructions is the envelope. -/
theorem promptDocument_plain
    (h : ∀ instructions ∈ adapter.standingInstructions, '\x7b' ∉ instructions.toList) :
    promptDocument (promptText adapter invocation context) =
      some ((envelope invocation context).printPretty 0) := by
  obtain ⟨inner, hinner⟩ := toList_envelope invocation context
  have hstanding : '\x7b' ∉ (standing adapter.standingInstructions).toList := by
    cases hgiven : adapter.standingInstructions with
    | none => exact List.not_mem_nil
    | some instructions =>
      rw [standing, String.toList_append, List.mem_append]
      exact not_or.2 ⟨standingIntroduction_plain, h instructions hgiven⟩
  have hfront : '\x7b' ∉ (promptIntroduction ++ standing adapter.standingInstructions ++ "\n\n").toList := by
    rw [String.toList_append, String.toList_append, List.mem_append, List.mem_append]
    exact not_or.2 ⟨not_or.2 ⟨promptIntroduction_plain, hstanding⟩, by decide⟩
  have htext : promptText adapter invocation context = String.ofList
      ((promptIntroduction ++ standing adapter.standingInstructions ++ "\n\n").toList ++
        '\x7b' :: (inner ++ ['\x7d'])) := by
    rw [← hinner, ← String.toList_append, String.ofList_toList]
    rfl
  rw [htext, promptDocument_brace hfront, ← hinner, String.ofList_toList]

/-- A brace in the instructions is where the document begins. -/
theorem promptDocument_braced {instructions : String}
    (hgiven : adapter.standingInstructions = some instructions) (h : '\x7b' ∈ instructions.toList) :
    ∃ opened inner, promptDocument (promptText adapter invocation context) =
        some (String.ofList ('\x7b' :: (opened ++ (['\n', '\n'] ++ (inner ++ ['\x7d']))))) ∧
      Serde.Balanced (inner ++ ['\x7d']) := by
  obtain ⟨inner, hinner⟩ := toList_envelope invocation context
  have hbalanced := Serde.balanced_printPretty 0 (envelope invocation context)
  obtain ⟨front, opened, hsplit, hfront⟩ := List.eq_append_cons_of_mem h
  have hbefore : '\x7b' ∉ promptIntroduction.toList ++ (standingIntroduction.toList ++ front) := by
    rw [List.mem_append, List.mem_append]
    exact not_or.2 ⟨promptIntroduction_plain, not_or.2 ⟨standingIntroduction_plain, hfront⟩⟩
  have htext : promptText adapter invocation context = String.ofList
      ((promptIntroduction.toList ++ (standingIntroduction.toList ++ front)) ++
        '\x7b' :: (opened ++ (['\n', '\n'] ++ ('\x7b' :: inner ++ ['\x7d'])))) := by
    apply String.toList_inj.1
    rw [String.toList_ofList, promptText, hgiven, standing]
    simp only [String.toList_append, hsplit, hinner, List.append_assoc, List.cons_append]
    rfl
  refine ⟨opened, '\x7b' :: inner, ?_, ?_⟩
  · rw [htext, promptDocument_brace hbefore]
  · rw [List.cons_append, ← hinner]
    exact hbalanced

/-! ## Which prompts are attributed -/

/-- A decodable prompt names its invocation. -/
theorem Decodable.named (h : Decodable adapter invocation context)
    (hentry : Quotes entry (promptText adapter invocation context)) :
    promptInvocationId entry = some invocation.id := by
  rw [promptInvocationId_quotes hentry, promptDocument_plain h.plain, Option.bind_some,
    documentInvocationId, Serde.parse_printPretty,
    if_pos ((nesting_envelope invocation context).2 ⟨h.payload, h.history⟩), Option.bind_some,
    merged_envelope]

/-- Any other prompt names nothing. -/
theorem promptInvocationId_of_not_decodable (h : ¬ Decodable adapter invocation context)
    (hentry : Quotes entry (promptText adapter invocation context)) :
    promptInvocationId entry = none := by
  rw [promptInvocationId_quotes hentry]
  by_cases hplain : ∀ instructions ∈ adapter.standingInstructions, '\x7b' ∉ instructions.toList
  · have hdeep : ¬ (envelope invocation context).nesting < Serde.recursionLimit := by
      rw [nesting_envelope]
      exact fun hfits => h ⟨hplain, hfits.1, hfits.2⟩
    rw [promptDocument_plain hplain, Option.bind_some, documentInvocationId, Serde.parse_printPretty,
      if_neg hdeep]
    rfl
  · obtain ⟨instructions, hgiven, hbrace⟩ : ∃ instructions, adapter.standingInstructions =
        some instructions ∧ '\x7b' ∈ instructions.toList := by
      simpa only [not_forall, not_not, exists_prop, Option.mem_def] using hplain
    obtain ⟨opened, inner, hdocument, hbalanced⟩ := promptDocument_braced hgiven hbrace
    rw [hdocument, Option.bind_some, documentInvocationId, Serde.parse_open_brace hbalanced]
    rfl

/-- An entry that replays a text. -/
def replayOf (text : String) : TranscriptEntry where
  sessionRef := "s"
  entrySeq := 1
  observedAtMs := 0
  classification := "user_message_content"
  rawUpdate := .object [("content", .object [("text", .string text)])]

theorem quotes_replayOf (text : String) : Quotes (replayOf text) text := rfl

/-- A prompt is attributed to its invocation exactly if it is decodable. -/
theorem attributesPrompt_iff (adapter : EnvelopeTurnAdapter) (invocation : Invocation Value)
    (context : ChannelTurnContext) :
    AttributesPrompt adapter invocation context ↔ Decodable adapter invocation context := by
  constructor
  · intro h
    by_contra hnot
    have hsome := h.named _ (quotes_replayOf _)
    rw [promptInvocationId_of_not_decodable hnot (quotes_replayOf _)] at hsome
    cases hsome
  · intro h
    refine ⟨fun entry hentry => h.named hentry, ?_, ?_⟩
    · intro entries turn hturn prompt hprompt hopens hquotes
      have hruns := (partitions_nil.foldl_segmentStep entries.val entries.property).runs
      obtain ⟨first, rest, hfollows⟩ := hruns turn hturn
      rw [hfollows.entries] at hprompt
      obtain rfl : first = prompt := Option.some.inj hprompt
      rw [hfollows.attribution, if_pos hopens, h.named hquotes]
    · intro otherAdapter other otherContext hids entry otherEntry hentry hother
      rw [h.named hentry]
      by_cases hdecodable : Decodable otherAdapter other otherContext
      · rw [hdecodable.named hother]
        exact fun heq => hids (Option.some.inj heq)
      · rw [promptInvocationId_of_not_decodable hdecodable hother]
        exact fun heq => nomatch heq

/-! ## Instructions with a brace -/

/-- An adapter whose agent was told of a template. -/
def bracedAdapter : EnvelopeTurnAdapter :=
  { sampleAdapter with
    standingInstructions := some "Answer as \x7bstatus\x7d."
    standingBounded := by
      intro text htext
      cases htext
      decide }

/-- The builder makes that adapter, and no prompt of it is attributed. -/
theorem not_attributesPrompt_bracedAdapter :
    ((EnvelopeTurnAdapter.new "result" ["work"]).bind fun adapter =>
      adapter.withStandingInstructions "Answer as \x7bstatus\x7d.") = .ok bracedAdapter ∧
    ∀ invocation context entry, Quotes entry (promptText bracedAdapter invocation context) →
      promptInvocationId entry = none ∧ ¬ AttributesPrompt bracedAdapter invocation context := by
  refine ⟨rfl, fun invocation context entry hentry => ?_⟩
  have hnot : ¬ Decodable bracedAdapter invocation context := fun h =>
    absurd (h.plain _ rfl) (by decide)
  have hnone := promptInvocationId_of_not_decodable hnot hentry
  refine ⟨hnone, fun h => ?_⟩
  have hsome := h.named entry hentry
  rw [hnone] at hsome
  cases hsome

end Fleetd.Worker
