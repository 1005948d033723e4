import Fleetd.Harness.Transcript

/-!
# Runs of a transcript

The runs that a replay is split into are a partition of its entries: nothing is dropped, nothing is
counted twice, and the attribution of a run comes from its own prompt alone.
-/

namespace Fleetd.Harness

/-- A run that begins with an entry and goes on with others. -/
structure TranscriptTurn.Follows (turn : TranscriptTurn) (first : TranscriptEntry)
    (rest : List TranscriptEntry) : Prop where
  entries : turn.entries = first :: rest
  /-- Only the first entry may be a prompt. -/
  inner : ∀ entry ∈ rest, opensTurn entry = false
  count : turn.entryCount = rest.length + 1
  firstSeq : turn.firstEntrySeq = first.entrySeq
  /-- The run is attributed by its own prompt. -/
  attribution : turn.invocationId = if opensTurn first = true then promptInvocationId first else none

/-- The runs of some entries. -/
structure Partitions (entries : List TranscriptEntry) (turns : List TranscriptTurn) : Prop where
  entries : turns.flatMap (·.entries) = entries
  runs : ∀ turn ∈ turns, ∃ first rest, turn.Follows first rest
  /-- Every run after the first begins with a prompt. -/
  prompts : ∀ turn ∈ turns.tail, ∃ first rest, turn.Follows first rest ∧ opensTurn first = true

variable {entries : List TranscriptEntry} {turns : List TranscriptTurn} {turn : TranscriptTurn}
  {first : TranscriptEntry} {rest : List TranscriptEntry}

/-- A run of its own for one entry. -/
theorem follows_openTurn (entry : TranscriptEntry) : (openTurn entry).Follows entry [] where
  entries := rfl
  inner := fun _ h => absurd h List.not_mem_nil
  count := rfl
  firstSeq := rfl
  attribution := rfl

/-- A run takes an entry that is no prompt, as long as its count can grow. -/
theorem TranscriptTurn.Follows.push (h : turn.Follows first rest) {entry : TranscriptEntry}
    (hentry : opensTurn entry = false) (hlength : rest.length + 2 ≤ u64Max) :
    (turn.push entry).Follows first (rest ++ [entry]) where
  entries := by
    rw [TranscriptTurn.push, h.entries]
    rfl
  inner := by
    intro other hmem
    obtain hmem | hmem := List.mem_append.1 hmem
    · exact h.inner other hmem
    · exact List.mem_singleton.1 hmem ▸ hentry
  count := by
    rw [List.length_append, List.length_singleton]
    show min (turn.entryCount + 1) u64Max = rest.length + 1 + 1
    rw [h.count]
    omega
  firstSeq := h.firstSeq
  attribution := h.attribution

/-- A prompt begins a run. -/
theorem Partitions.prompt (h : Partitions entries turns) {entry : TranscriptEntry}
    (hentry : opensTurn entry = true) : Partitions (entries ++ [entry]) (turns ++ [openTurn entry]) where
  entries := by
    rw [List.flatMap_append, h.entries]
    rfl
  runs := by
    intro turn hturn
    obtain hturn | hturn := List.mem_append.1 hturn
    · exact h.runs turn hturn
    · exact List.mem_singleton.1 hturn ▸ ⟨entry, [], follows_openTurn entry⟩
  prompts := by
    intro turn hturn
    have hopened : (openTurn entry).Follows entry [] ∧ opensTurn entry = true :=
      ⟨follows_openTurn entry, hentry⟩
    cases turns with
    | nil => exact absurd hturn List.not_mem_nil
    | cons head others =>
      obtain hturn | hturn := List.mem_append.1 hturn
      · exact h.prompts turn hturn
      · exact List.mem_singleton.1 hturn ▸ ⟨entry, [], hopened⟩

/-- The first entry begins a run whatever it is. -/
theorem partitions_openTurn (entry : TranscriptEntry) : Partitions [entry] [openTurn entry] where
  entries := rfl
  runs := fun _ hturn => List.mem_singleton.1 hturn ▸ ⟨entry, [], follows_openTurn entry⟩
  prompts := fun _ hturn => absurd hturn List.not_mem_nil

/-- Any other entry joins the last run. -/
theorem Partitions.push (h : Partitions entries (turns ++ [turn])) {entry : TranscriptEntry}
    (hentry : opensTurn entry = false) (hlength : entries.length < isizeMax) :
    Partitions (entries ++ [entry]) (turns ++ [turn.push entry]) := by
  have hbound : turn.entries.length ≤ entries.length := by
    rw [← h.entries, List.flatMap_append, List.length_append, List.flatMap_singleton]
    exact Nat.le_add_left _ _
  have hpush : ∀ {first rest}, turn.Follows first rest →
      (turn.push entry).Follows first (rest ++ [entry]) := by
    intro first rest hrun
    refine hrun.push hentry ?_
    have hlarge : isizeMax < u64Max := by decide
    rw [hrun.entries, List.length_cons] at hbound
    omega
  refine ⟨?_, ?_, ?_⟩
  · rw [← h.entries, List.flatMap_append, List.flatMap_append, List.append_assoc,
      List.flatMap_singleton, List.flatMap_singleton]
    rfl
  · intro other hother
    obtain hother | hother := List.mem_append.1 hother
    · exact h.runs other (List.mem_append_left _ hother)
    · obtain ⟨first, rest, hrun⟩ := h.runs turn (List.mem_append_right _ List.mem_cons_self)
      exact List.mem_singleton.1 hother ▸ ⟨first, rest ++ [entry], hpush hrun⟩
  · intro other hother
    cases turns with
    | nil => exact absurd hother List.not_mem_nil
    | cons head others =>
      obtain hother | hother := List.mem_append.1 hother
      · exact h.prompts other (List.mem_append_left _ hother)
      · obtain ⟨first, rest, hrun, hprompt⟩ :=
          h.prompts turn (List.mem_append_right _ List.mem_cons_self)
        exact List.mem_singleton.1 hother ▸ ⟨first, rest ++ [entry], hpush hrun, hprompt⟩

/-- One more entry leaves a partition of the entries. -/
theorem Partitions.segmentStep (h : Partitions entries turns) (entry : TranscriptEntry)
    (hlength : entries.length < isizeMax) :
    Partitions (entries ++ [entry]) (segmentStep turns entry) := by
  unfold Harness.segmentStep
  split
  case isTrue hopens =>
    obtain hprompt | rfl := hopens
    · exact h.prompt hprompt
    · have hnone : entries = [] := h.entries.symm
      rw [hnone]
      exact partitions_openTurn entry
  case isFalse hjoins =>
    obtain ⟨hentry, hsome⟩ := not_or.1 hjoins
    obtain ⟨others, last, rfl⟩ := turns.eq_nil_or_concat'.resolve_left hsome
    rw [List.modifyLast_concat]
    exact h.push (Bool.eq_false_of_not_eq_true hentry) hlength

/-- The runs of a partition go on with the entries that follow. -/
theorem Partitions.foldl_segmentStep (rest : List TranscriptEntry) :
    ∀ {entries : List TranscriptEntry} {turns : List TranscriptTurn}, Partitions entries turns →
      (entries ++ rest).length ≤ isizeMax →
      Partitions (entries ++ rest) (rest.foldl Harness.segmentStep turns) := by
  induction rest with
  | nil =>
    intro entries turns h _
    rw [List.append_nil]
    exact h
  | cons entry rest ih =>
    intro entries turns h hlength
    rw [List.append_cons] at hlength ⊢
    rw [List.length_append, List.length_append, List.length_singleton] at hlength
    refine ih (h.segmentStep entry (by omega)) ?_
    rw [List.length_append, List.length_append, List.length_singleton]
    exact hlength

/-- No runs for no entries. -/
theorem partitions_nil : Partitions [] [] :=
  ⟨rfl, fun _ h => absurd h List.not_mem_nil, fun _ h => absurd h List.not_mem_nil⟩

/-- The runs of a replay partition it, and each is attributed by its own prompt. -/
theorem segmentTranscript_partitions (entries : Vec TranscriptEntry) :
    Partitions entries.val (segmentTranscript entries) :=
  partitions_nil.foldl_segmentStep entries.val entries.property

end Fleetd.Harness
