import Mathlib.Algebra.GroupWithZero.Nat
import Mathlib.Data.String.Basic
import Fleetd.Evidence.HashChain
import Fleetd.Kernel.Sha256
import Fleetd.Guarantees.ContentLevel
import Fleetd.Otlp.Projection
import Fleetd.Refinement.Digest

/-!
# Projected turns are partitioned

The updates that are exported are divided among the spans of their turn: those of one tool call are
the events of one child, and all others are events of the turn itself, in the order in which they
were observed. The spans of a turn have different identities as long as the digest separates what
they are derived from.
-/

namespace Fleetd.Otlp

open Evidence Harness

/-! ## Parts -/

/-- Whether an update is exported. -/
abbrev IsSelected (config : EgressConfig) (update : OwnedUpdate) : Prop :=
  (EventClass.parse update.classification).asStr ∈ config.classifications

/-- The updates that are exported. -/
def selected (config : EgressConfig) (updates : List OwnedUpdate) : List OwnedUpdate :=
  updates.filter fun update => IsSelected config update

/-- The tool call that an update is grouped under. -/
def callOf (update : OwnedUpdate) : Option String :=
  if EventClass.parse update.classification = .tool then toolCallId update.rawUpdate else none

/-- The exported updates of one tool call. -/
def callUpdates (config : EgressConfig) (updates : List OwnedUpdate) (id : String) :
    List OwnedUpdate :=
  (selected config updates).filter fun update => callOf update = some id

/-- The exported updates that are of no tool call. -/
def turnUpdates (config : EgressConfig) (updates : List OwnedUpdate) : List OwnedUpdate :=
  (selected config updates).filter fun update => callOf update = none

/-- The event of an update on the span of its tool call. -/
def callEvent (update : OwnedUpdate) : Event :=
  ⟨update.classification, systemTime update.observedAtMs, [eventSeqAttribute update]⟩

/-- The event of an update on the span of its turn. -/
def turnEvent (config : EgressConfig) (update : OwnedUpdate) : Event :=
  let class_ := EventClass.parse update.classification
  if class_ = .tool then ⟨"tool", systemTime update.observedAtMs, [eventSeqAttribute update]⟩
  else ⟨class_.asStr, systemTime update.observedAtMs,
    eventSeqAttribute update :: eventAttributes class_ update.rawUpdate config⟩

/-- The bytes that the identity of a span is derived from. -/
def spanPreimage (role identifier : String) : List UInt8 :=
  utf8Bytes "fleetd-trajectory-span-v1" ++ [0] ++ utf8Bytes role ++ [0] ++ utf8Bytes identifier

/-- The identity that is derived from bytes. -/
def spanIdentity [Sha256] (bytes : List UInt8) : String := identity 16 (Sha256.hexDigest bytes)

/-- The roles of the spans of a turn: its own, and one for each tool call. -/
def spanRoles (config : EgressConfig) (updates : List OwnedUpdate) : List String :=
  "invocation" :: ((selected config updates).filterMap callOf).map ("tool:" ++ ·)

/-- What the identities of the spans of a turn are derived from. -/
def spanPreimages (config : EgressConfig) (turn : OwnedTurn) (updates : List OwnedUpdate) :
    List (List UInt8) :=
  (spanRoles config updates).map fun role => spanPreimage role turn.invocationId

/-- A span that is the child of a parent for one tool call. -/
structure IsChild [Sha256] (config : EgressConfig) (updates : List OwnedUpdate) (parent : SpanData)
    (id : String) (child : SpanData) : Prop where
  traceId : child.traceId = parent.traceId
  parentSpanId : child.parentSpanId = some parent.spanId
  spanId : (callUpdates config updates id).head?.map (fun first =>
    deriveSpanId ("tool:" ++ id) first.invocationId) = some child.spanId
  events : child.events = (callUpdates config updates id).map callEvent
  startTime : (callUpdates config updates id).head?.map (fun first =>
    systemTime first.observedAtMs) = some child.startTime
  endTime : (callUpdates config updates id).getLast?.map (fun last =>
    systemTime last.observedAtMs) = some child.endTime

/-- The spans of a turn are its own, and one child for each tool call. -/
structure Partitions [Sha256] (config : EgressConfig) (turn : OwnedTurn) (updates : List OwnedUpdate)
    (parent : SpanData) (children : List (String × SpanData)) : Prop where
  parentSpanId : parent.parentSpanId = none
  spanId : parent.spanId = deriveSpanId "invocation" turn.invocationId
  events : parent.events = (turnUpdates config updates).map (turnEvent config)
  calls : (children.map Prod.fst).Nodup
  mem_calls : ∀ id, id ∈ children.map Prod.fst ↔
    ∃ update ∈ selected config updates, callOf update = some id
  child : ∀ child ∈ children, IsChild config updates parent child.1 child.2
  parts : (children.flatMap (fun child => callUpdates config updates child.1) ++
    turnUpdates config updates).Perm (selected config updates)
  observed : parent.attributes.find? (fun entry => entry.key = "fleetd.observed_event_count") =
    some (attributeNat "fleetd.observed_event_count"
      ((children.map (·.2.events.length)).sum + parent.events.length))

section

variable {config : EgressConfig}

theorem selected_concat_of_pos {update : OwnedUpdate} (h : IsSelected config update)
    (updates : List OwnedUpdate) :
    selected config (updates ++ [update]) = selected config updates ++ [update] := by
  have hselected := decide_eq_true h
  rw [selected, List.filter_append, List.filter_singleton, hselected]
  rfl

theorem selected_concat_of_neg {update : OwnedUpdate} (h : ¬IsSelected config update)
    (updates : List OwnedUpdate) :
    selected config (updates ++ [update]) = selected config updates := by
  have hselected := decide_eq_false h
  rw [selected, List.filter_append, List.filter_singleton, hselected]
  exact List.append_nil _

theorem callUpdates_concat {update : OwnedUpdate} (h : IsSelected config update)
    (updates : List OwnedUpdate) (id : String) :
    callUpdates config (updates ++ [update]) id =
      callUpdates config updates id ++ if callOf update = some id then [update] else [] := by
  rw [callUpdates, selected_concat_of_pos h, List.filter_append, List.filter_singleton]
  by_cases hid : callOf update = some id <;> simp [hid, callUpdates]

theorem turnUpdates_concat {update : OwnedUpdate} (h : IsSelected config update)
    (updates : List OwnedUpdate) :
    turnUpdates config (updates ++ [update]) =
      turnUpdates config updates ++ if callOf update = none then [update] else [] := by
  rw [turnUpdates, selected_concat_of_pos h, List.filter_append, List.filter_singleton]
  by_cases hid : callOf update = none <;> simp [hid, turnUpdates]

end

/-! ## Tool calls in flight -/

section Upsert

variable {fresh : ToolSpan} {change : ToolSpan → ToolSpan} {tools : List (String × ToolSpan)}

/-- The keys after a change are the keys before it and the changed one. -/
theorem mem_keys_upsertTool {key id : String} :
    id ∈ (upsertTool key fresh change tools).map Prod.fst ↔ id = key ∨ id ∈ tools.map Prod.fst := by
  induction tools with
  | nil => simp [upsertTool]
  | cons entry rest ih =>
    obtain ⟨other, tool⟩ := entry
    rw [upsertTool]
    split
    · rename_i heq
      subst heq
      simp
    · split
      · simp
      · rw [List.map_cons, List.mem_cons, ih, List.map_cons, List.mem_cons]
        exact or_left_comm

/-- The keys stay in order. -/
theorem sorted_upsertTool {key : String} (h : (tools.map Prod.fst).Pairwise (· < ·)) :
    ((upsertTool key fresh change tools).map Prod.fst).Pairwise (· < ·) := by
  induction tools with
  | nil => exact List.pairwise_singleton _ _
  | cons entry rest ih =>
    obtain ⟨other, tool⟩ := entry
    obtain ⟨hother, hrest⟩ := List.pairwise_cons.1 h
    rw [upsertTool]
    split
    · exact h
    · rename_i hne
      split
      · rename_i hless
        refine List.pairwise_cons.2 ⟨fun id hid => ?_, h⟩
        rcases List.mem_cons.1 hid with rfl | hid
        · exact hless
        · exact hless.trans (hother id hid)
      · rename_i hnot
        refine List.pairwise_cons.2 ⟨fun id hid => ?_, ih hrest⟩
        rcases mem_keys_upsertTool.1 hid with rfl | hid
        · exact lt_of_le_of_ne (not_lt.1 hnot) (Ne.symm hne)
        · exact hother id hid

/-- An entry after a change is an entry before it, or the changed one. -/
theorem mem_upsertTool {key id : String} {tool : ToolSpan}
    (h : (tools.map Prod.fst).Pairwise (· < ·)) :
    (id, tool) ∈ upsertTool key fresh change tools ↔
      (id ≠ key ∧ (id, tool) ∈ tools) ∨
      (id = key ∧ ∃ old, tool = change old ∧
        ((key, old) ∈ tools ∨ (key ∉ tools.map Prod.fst ∧ old = fresh))) := by
  induction tools with
  | nil => simp [upsertTool]
  | cons entry rest ih =>
    obtain ⟨other, found⟩ := entry
    obtain ⟨hother, hrest⟩ := List.pairwise_cons.1 h
    have hnot : ∀ value, (other, value) ∉ rest := fun value hmem =>
      lt_irrefl other (hother other (List.mem_map_of_mem hmem))
    rw [upsertTool]
    split
    case isTrue heq =>
      subst heq
      have hne : ∀ value, (id, value) ∈ rest → id ≠ key := fun value hmem heq =>
        hnot value (heq ▸ hmem)
      constructor
      · intro hmem
        rcases List.mem_cons.1 hmem with hsame | hmem
        · cases hsame
          exact .inr ⟨rfl, found, rfl, .inl List.mem_cons_self⟩
        · exact .inl ⟨hne tool hmem, List.mem_cons_of_mem _ hmem⟩
      · rintro (⟨hdiffers, hmem⟩ | ⟨rfl, old, rfl, hmem | ⟨habsent, -⟩⟩)
        · rcases List.mem_cons.1 hmem with hsame | hmem
          · cases hsame
            exact absurd rfl hdiffers
          · exact List.mem_cons_of_mem _ hmem
        · rcases List.mem_cons.1 hmem with hsame | hmem
          · cases hsame
            exact List.mem_cons_self
          · exact absurd hmem (hnot old)
        · exact absurd List.mem_cons_self habsent
    case isFalse hne =>
      split
      case isTrue hless =>
        have habsent : key ∉ ((other, found) :: rest).map Prod.fst := by
          intro hmem
          rcases List.mem_cons.1 hmem with heq | hmem
          · exact hne heq
          · exact lt_irrefl key (hless.trans (hother key hmem))
        constructor
        · intro hmem
          rcases List.mem_cons.1 hmem with hsame | hmem
          · cases hsame
            exact .inr ⟨rfl, fresh, rfl, .inr ⟨habsent, rfl⟩⟩
          · exact .inl ⟨fun heq => habsent (heq ▸ List.mem_map_of_mem hmem), hmem⟩
        · rintro (⟨-, hmem⟩ | ⟨rfl, old, rfl, hmem | ⟨-, rfl⟩⟩)
          · exact List.mem_cons_of_mem _ hmem
          · exact absurd (List.mem_map_of_mem hmem) habsent
          · exact List.mem_cons_self
      case isFalse hnotless =>
        simp only [List.mem_cons, ih hrest, List.map_cons]
        constructor
        · rintro (hsame | ⟨hdiffers, hmem⟩ | ⟨rfl, old, rfl, hmem | ⟨habsent, rfl⟩⟩)
          · cases hsame
            exact .inl ⟨Ne.symm hne, .inl rfl⟩
          · exact .inl ⟨hdiffers, .inr hmem⟩
          · exact .inr ⟨rfl, old, rfl, .inl (.inr hmem)⟩
          · exact .inr ⟨rfl, old, rfl, .inr ⟨not_or.2 ⟨hne, habsent⟩, rfl⟩⟩
        · rintro (⟨hdiffers, hsame | hmem⟩ | ⟨rfl, old, rfl, (hsame | hmem) | ⟨habsent, rfl⟩⟩)
          · exact .inl hsame
          · exact .inr (.inl ⟨hdiffers, hmem⟩)
          · cases hsame
            exact absurd rfl hne
          · exact .inr (.inr ⟨rfl, old, rfl, .inl hmem⟩)
          · exact .inr (.inr ⟨rfl, old, rfl, .inr ⟨(not_or.1 habsent).2, rfl⟩⟩)

end Upsert

/-! ## Observing -/

section Observe

variable [Sha256] {config : EgressConfig} {turn : OwnedTurn}

/-- The span of a tool call from its first update on. -/
def callSpan (config : EgressConfig) (id : String) (first : OwnedUpdate) (calls : List OwnedUpdate) :
    ToolSpan where
  spanId := deriveSpanId ("tool:" ++ id) first.invocationId
  start := systemTime first.observedAtMs
  end_ := systemTime (calls.getLastD first).observedAtMs
  attributes := [
    attributeText "gen_ai.operation.name" "execute_tool",
    attributeText "fleetd.tool_call_id" id] ++
    calls.flatMap fun update => toolAttributes update.rawUpdate config
  events := calls.map callEvent

/-- What a turn in flight holds after some updates. -/
structure Observed (config : EgressConfig) (turn : OwnedTurn) (updates : List OwnedUpdate)
    (flight : InFlight) : Prop where
  traceId : flight.traceId = (InFlight.open_ turn).traceId
  spanId : flight.spanId = (InFlight.open_ turn).spanId
  attributes : flight.attributes = (InFlight.open_ turn).attributes
  events : flight.events = (turnUpdates config updates).map (turnEvent config)
  observed : flight.observed = min (selected config updates).length u64Max
  sorted : (flight.tools.map Prod.fst).Pairwise (· < ·)
  tools : ∀ id tool, (id, tool) ∈ flight.tools ↔
    ∃ first, (callUpdates config updates id).head? = some first ∧
      tool = callSpan config id first (callUpdates config updates id)

theorem observed_open : Observed config turn [] (InFlight.open_ turn) where
  traceId := rfl
  spanId := rfl
  attributes := rfl
  events := rfl
  observed := rfl
  sorted := List.Pairwise.nil
  tools id tool := by simp [InFlight.open_, callUpdates, selected]

/-- The count grows by one until it cannot be held. -/
theorem observed_concat {update : OwnedUpdate} (h : IsSelected config update)
    {updates : List OwnedUpdate} {flight : InFlight} (hflight : Observed config turn updates flight) :
    min (flight.observed + 1) u64Max =
      min (selected config (updates ++ [update])).length u64Max := by
  rw [selected_concat_of_pos h, List.length_append, List.length_singleton, hflight.observed]
  omega

/-- An update of no tool call becomes an event of the turn. -/
theorem Observed.turnEvent {update : OwnedUpdate} (h : IsSelected config update)
    (hcall : callOf update = none) {updates : List OwnedUpdate} {flight : InFlight}
    (hflight : Observed config turn updates flight) :
    Observed config turn (updates ++ [update]) { flight with
      observed := min (flight.observed + 1) u64Max
      events := flight.events ++ [turnEvent config update] } where
  traceId := hflight.traceId
  spanId := hflight.spanId
  attributes := hflight.attributes
  events := by
    rw [turnUpdates_concat h, if_pos hcall, List.map_append, hflight.events]
    rfl
  observed := observed_concat h hflight
  sorted := hflight.sorted
  tools id tool := by
    have hnone : ¬callOf update = some id := by
      rw [hcall]
      exact nofun
    rw [callUpdates_concat h, if_neg hnone, List.append_nil]
    exact hflight.tools id tool

/-- The last update of a call determines its end, and adds its attributes and its event. -/
theorem callSpan_concat (id : String) (first : OwnedUpdate) (calls : List OwnedUpdate)
    (update : OwnedUpdate) :
    callSpan config id first (calls ++ [update]) =
      { callSpan config id first calls with
        end_ := systemTime update.observedAtMs
        attributes := (callSpan config id first calls).attributes ++
          toolAttributes update.rawUpdate config
        events := (callSpan config id first calls).events ++ [callEvent update] } := by
  simp [callSpan, List.getLastD_eq_getLast?]

/-- An update of a tool call is folded into its span. -/
theorem Observed.callEvent {update : OwnedUpdate} {id : String} (h : IsSelected config update)
    (hcall : callOf update = some id) {updates : List OwnedUpdate} {flight : InFlight}
    (hflight : Observed config turn updates flight) {fresh : ToolSpan} {change : ToolSpan → ToolSpan}
    (hfresh : change fresh = callSpan config id update [update])
    (hchange : ∀ first calls, change (callSpan config id first calls) =
      callSpan config id first (calls ++ [update])) :
    Observed config turn (updates ++ [update]) { flight with
      observed := min (flight.observed + 1) u64Max
      tools := upsertTool id fresh change flight.tools } where
  traceId := hflight.traceId
  spanId := hflight.spanId
  attributes := hflight.attributes
  events := by
    have hsome : ¬callOf update = none := by
      rw [hcall]
      exact Option.some_ne_none id
    rw [turnUpdates_concat h, if_neg hsome, List.append_nil]
    exact hflight.events
  observed := observed_concat h hflight
  sorted := sorted_upsertTool hflight.sorted
  tools other tool := by
    have habsent : id ∉ flight.tools.map Prod.fst ↔ callUpdates config updates id = [] := by
      constructor
      · intro hnot
        cases hcalls : callUpdates config updates id with
        | nil => rfl
        | cons first rest =>
          have hmem := (hflight.tools id _).2 ⟨first, by rw [hcalls]; rfl, rfl⟩
          exact absurd (List.mem_map_of_mem hmem) hnot
      · rintro hnil hmem
        obtain ⟨⟨_, found⟩, hfound, rfl⟩ := List.mem_map.1 hmem
        obtain ⟨first, hfirst, -⟩ := (hflight.tools _ found).1 hfound
        rw [hnil] at hfirst
        cases hfirst
    show (other, tool) ∈ upsertTool id fresh change flight.tools ↔ _
    rw [mem_upsertTool hflight.sorted, callUpdates_concat h]
    by_cases hother : other = id
    · subst hother
      rw [if_pos hcall]
      constructor
      · rintro (⟨hne, -⟩ | ⟨-, old, rfl, hold | ⟨hnew, rfl⟩⟩)
        · exact absurd rfl hne
        · obtain ⟨first, hfirst, rfl⟩ := (hflight.tools other old).1 hold
          refine ⟨first, ?_, hchange first _⟩
          rw [List.head?_append, hfirst]
          rfl
        · rw [habsent.1 hnew]
          exact ⟨update, rfl, hfresh⟩
      · rintro ⟨first, hfirst, rfl⟩
        refine .inr ⟨rfl, ?_⟩
        cases hcalls : callUpdates config updates other with
        | nil =>
          rw [hcalls] at hfirst
          cases hfirst
          exact ⟨fresh, hfresh.symm, .inr ⟨habsent.2 hcalls, rfl⟩⟩
        | cons found rest =>
          rw [hcalls] at hfirst
          cases hfirst
          refine ⟨callSpan config other first (callUpdates config updates other), ?_, .inl ?_⟩
          · rw [hchange, hcalls]
          · exact (hflight.tools other _).2 ⟨first, by rw [hcalls]; rfl, rfl⟩
    · have hdiffers : ¬callOf update = some other := by
        rw [hcall]
        exact fun heq => hother (Option.some.inj heq).symm
      rw [if_neg hdiffers, List.append_nil, ← hflight.tools other tool]
      simp [hother]

/-- Each update keeps what a turn in flight holds. -/
theorem Observed.observe {updates : List OwnedUpdate} {flight : InFlight}
    (hflight : Observed config turn updates flight) (update : OwnedUpdate) :
    Observed config turn (updates ++ [update]) (flight.observe config update) := by
  unfold InFlight.observe
  by_cases h : IsSelected config update
  · dsimp only
    rw [if_neg (not_not.2 h)]
    by_cases htool : EventClass.parse update.classification = .tool
    · rw [if_pos htool]
      unfold InFlight.observeTool
      split
      case h_1 hid =>
        have hcall : callOf update = none := by rw [callOf, if_pos htool, hid]
        have hevent : Otlp.turnEvent config update =
            ⟨"tool", systemTime update.observedAtMs, [eventSeqAttribute update]⟩ := if_pos htool
        have hnext := hflight.turnEvent h hcall
        rwa [hevent] at hnext
      case h_2 id hid =>
        have hcall : callOf update = some id := by rw [callOf, if_pos htool, hid]
        refine hflight.callEvent h hcall ?_ fun first calls => (callSpan_concat id first calls update).symm
        simp [callSpan, Otlp.callEvent]
    · rw [if_neg htool]
      have hcall : callOf update = none := by rw [callOf, if_neg htool]
      have hevent : Otlp.turnEvent config update =
          ⟨(EventClass.parse update.classification).asStr, systemTime update.observedAtMs,
            eventSeqAttribute update ::
              eventAttributes (EventClass.parse update.classification) update.rawUpdate config⟩ :=
        if_neg htool
      have hnext := hflight.turnEvent h hcall
      rwa [hevent] at hnext
  · dsimp only
    rw [if_pos h]
    have hselected := selected_concat_of_neg h updates
    constructor
    · exact hflight.traceId
    · exact hflight.spanId
    · exact hflight.attributes
    · rw [turnUpdates, hselected]
      exact hflight.events
    · rw [hselected]
      exact hflight.observed
    · exact hflight.sorted
    · intro id tool
      rw [callUpdates, hselected]
      exact hflight.tools id tool

/-- All updates are held. -/
theorem observed_foldl (updates : List OwnedUpdate) :
    Observed config turn updates (updates.foldl (InFlight.observe config) (InFlight.open_ turn)) := by
  induction updates using List.reverseRecOn with
  | nil => exact observed_open
  | append_singleton updates update ih =>
    rw [List.foldl_append, List.foldl_cons, List.foldl_nil]
    exact ih.observe update

end Observe

/-! ## The spans of a turn -/

/-- A list is divided by a partial key into the parts of the keys and the rest. -/
theorem perm_flatMap_filter {α κ : Type} [DecidableEq κ] (f : α → Option κ) {keys : List κ}
    (hkeys : keys.Nodup) {xs : List α} (hall : ∀ x ∈ xs, ∀ key, f x = some key → key ∈ keys) :
    (keys.flatMap (fun key => xs.filter fun x => f x = some key) ++
      xs.filter fun x => f x = none).Perm xs := by
  induction keys generalizing xs with
  | nil =>
    have hnone : ∀ x ∈ xs, decide (f x = none) = true := by
      intro x hx
      refine decide_eq_true (Option.eq_none_iff_forall_not_mem.2 fun key hkey => ?_)
      exact List.not_mem_nil (hall x hx key hkey)
    rw [List.flatMap_nil, List.nil_append, List.filter_eq_self.2 hnone]
  | cons key keys ih =>
    obtain ⟨hkey, hkeys⟩ := List.nodup_cons.1 hkeys
    let rest := xs.filter fun x => !decide (f x = some key)
    have hothers : ∀ other ∈ keys, (xs.filter fun x => f x = some other) =
        rest.filter fun x => f x = some other := by
      intro other hother
      rw [List.filter_filter]
      refine List.filter_congr fun x _ => ?_
      by_cases hx : f x = some other
      · have hne : ¬f x = some key := by
          rw [hx]
          exact fun heq => hkey (Option.some.inj heq ▸ hother)
        simp [hx, hx ▸ hne]
      · simp [hx]
    have hnone : (xs.filter fun x => f x = none) = rest.filter fun x => f x = none := by
      rw [List.filter_filter]
      refine List.filter_congr fun x _ => ?_
      by_cases hx : f x = none <;> simp [hx]
    have hrest : ∀ x ∈ rest, ∀ other, f x = some other → other ∈ keys := by
      intro x hx other hother
      obtain ⟨hmem, hne⟩ := List.mem_filter.1 hx
      rcases List.mem_cons.1 (hall x hmem other hother) with rfl | hmem
      · simp [hother] at hne
      · exact hmem
    rw [List.flatMap_cons, List.flatMap_congr hothers, hnone, List.append_assoc]
    refine ((ih hkeys hrest).append_left _).trans ?_
    exact List.filter_append_perm (fun x => decide (f x = some key)) xs

/-- The children of a turn in flight. -/
def childrenOf (flight : InFlight) : List (String × SpanData) :=
  flight.tools.map fun tool => (tool.1, flight.toolSpan tool.2)

theorem childrenOf_ids (flight : InFlight) :
    (childrenOf flight).map Prod.fst = flight.tools.map Prod.fst := by
  rw [childrenOf, List.map_map]
  rfl

theorem childrenOf_spans (flight : InFlight) :
    (childrenOf flight).map Prod.snd = flight.tools.map fun tool => flight.toolSpan tool.2 := by
  rw [childrenOf, List.map_map]
  rfl

/-- The first entry that is looked for is found, whatever follows it. -/
theorem find?_behind {α : Type} {p : α → Bool} {xs : List α} {x : α} (hxs : xs.find? p = none)
    (hx : p x = true) (a b c d e : List α) :
    (xs ++ [x] ++ a ++ b ++ c ++ d ++ e).find? p = some x := by
  simp [List.find?_append, hxs, hx]

/-- A count that was held as far as possible is the same attribute. -/
theorem attributeNat_min (key : String) (n : Nat) :
    attributeNat key (min n u64Max) = attributeNat key n := by
  have hsmall : i64Max ≤ u64Max := by decide
  rw [attributeNat, attributeNat]
  congr 2
  omega

/-- Different roles have different preimages. -/
theorem spanPreimage_injective {role other identifier : String}
    (h : spanPreimage role identifier = spanPreimage other identifier) : role = other := by
  unfold spanPreimage at h
  rw [List.append_assoc, List.append_assoc, List.append_assoc, List.append_assoc] at h
  have hroles := List.append_cancel_left (List.append_cancel_left h)
  exact utf8Bytes_injective (List.append_cancel_right hroles)

/-- Different tool calls have different roles, and none has the role of the turn. -/
theorem toolRole_injective : Function.Injective ("tool:" ++ · : String → String) := by
  intro a b h
  have hlist := congrArg String.toList h
  simp only [String.toList_append] at hlist
  exact String.toList_injective (List.append_cancel_left hlist)

theorem toolRole_ne (id : String) : "tool:" ++ id ≠ "invocation" := by
  intro h
  have hlist := congrArg String.toList h
  rw [String.toList_append] at hlist
  exact absurd (List.cons.inj hlist).1 (by decide)

section Spans

variable [Sha256] {config : EgressConfig} {turn : OwnedTurn} {updates : List OwnedUpdate}
  {flight : InFlight}

theorem Observed.nodup_ids (hflight : Observed config turn updates flight) :
    ((childrenOf flight).map Prod.fst).Nodup := by
  rw [childrenOf_ids]
  exact hflight.sorted.imp fun hless => hless.ne

/-- The tool calls of a turn in flight are those of its exported updates. -/
theorem Observed.mem_ids (hflight : Observed config turn updates flight) (id : String) :
    id ∈ (childrenOf flight).map Prod.fst ↔
      ∃ update ∈ selected config updates, callOf update = some id := by
  rw [childrenOf_ids]
  constructor
  · intro hmem
    obtain ⟨⟨_, tool⟩, htool, rfl⟩ := List.mem_map.1 hmem
    obtain ⟨first, hfirst, -⟩ := (hflight.tools _ tool).1 htool
    have hcall := List.mem_filter.1 (List.mem_of_mem_head? hfirst)
    exact ⟨first, hcall.1, of_decide_eq_true hcall.2⟩
  · rintro ⟨update, hupdate, hcall⟩
    have hmem : update ∈ callUpdates config updates id :=
      List.mem_filter.2 ⟨hupdate, decide_eq_true hcall⟩
    cases hcalls : callUpdates config updates id with
    | nil =>
      rw [hcalls] at hmem
      cases hmem
    | cons first rest =>
      have htool := (hflight.tools id _).2 ⟨first, by rw [hcalls]; rfl, rfl⟩
      exact List.mem_map_of_mem htool

/-- The span of a tool call in flight. -/
theorem Observed.exists_call (hflight : Observed config turn updates flight)
    {child : String × SpanData} (hchild : child ∈ childrenOf flight) :
    ∃ first rest, callUpdates config updates child.1 = first :: rest ∧
      child.2 = flight.toolSpan (callSpan config child.1 first (first :: rest)) := by
  obtain ⟨⟨id, tool⟩, htool, rfl⟩ := List.mem_map.1 hchild
  obtain ⟨first, hfirst, rfl⟩ := (hflight.tools id tool).1 htool
  cases hcalls : callUpdates config updates id with
  | nil =>
    rw [hcalls] at hfirst
    cases hfirst
  | cons found rest =>
    rw [hcalls] at hfirst
    cases hfirst
    exact ⟨first, rest, rfl, rfl⟩

/-- A tool call in flight is closed as a child. -/
theorem Observed.isChild (hflight : Observed config turn updates flight) {parent : SpanData}
    (htrace : parent.traceId = flight.traceId) (hspan : parent.spanId = flight.spanId)
    {child : String × SpanData} (hchild : child ∈ childrenOf flight) :
    IsChild config updates parent child.1 child.2 := by
  obtain ⟨first, rest, hcalls, hcall⟩ := hflight.exists_call hchild
  rw [hcall]
  constructor
  · exact htrace.symm
  · rw [hspan]
    rfl
  · rw [hcalls]
    rfl
  · rw [hcalls]
    rfl
  · rw [hcalls]
    rfl
  · rw [hcalls, List.getLast?_cons]
    show _ = some (systemTime ((first :: rest).getLastD first).observedAtMs)
    rw [List.getLastD_eq_getLast?, List.getLast?_cons]
    rfl

/-- The parts of the exported updates. -/
theorem Observed.parts (hflight : Observed config turn updates flight) :
    ((childrenOf flight).flatMap (fun child => callUpdates config updates child.1) ++
      turnUpdates config updates).Perm (selected config updates) := by
  have hperm := perm_flatMap_filter callOf hflight.nodup_ids fun update hupdate id hcall =>
    (hflight.mem_ids id).2 ⟨update, hupdate, hcall⟩
  rw [List.flatMap_map] at hperm
  exact hperm

/-- The events of all spans are as many as the exported updates. -/
theorem Observed.count (hflight : Observed config turn updates flight) :
    ((childrenOf flight).map (·.2.events.length)).sum + flight.events.length =
      (selected config updates).length := by
  have hlengths : (childrenOf flight).map (·.2.events.length) =
      (childrenOf flight).map fun child => (callUpdates config updates child.1).length := by
    refine List.map_congr_left fun child hchild => ?_
    obtain ⟨first, rest, hcalls, hcall⟩ := hflight.exists_call hchild
    rw [hcall, hcalls]
    exact List.length_map _
  rw [hlengths, hflight.events, List.length_map, ← hflight.parts.length_eq, List.length_append,
    List.length_flatMap]

/-- Closing a turn in flight divides what it has observed among its spans. -/
theorem Observed.close (hflight : Observed config turn updates flight) (close : OwnedClose) :
    ∃ parent, flight.close close = (childrenOf flight).map Prod.snd ++ [parent] ∧
      Partitions config turn updates parent (childrenOf flight) := by
  have hearlier : flight.attributes.find? (fun entry => entry.key = "fleetd.observed_event_count") =
      none := by
    rw [hflight.attributes]
    cases hcorrelation : turn.correlationId <;> cases hcausation : turn.causationId <;>
      simp [InFlight.open_, hcorrelation, hcausation, attributeText, attributeNat]
  obtain ⟨parent, hclose, htrace, hspan, hroot, hevents, hobserved⟩ : ∃ parent,
      flight.close close = flight.tools.map (fun tool => flight.toolSpan tool.2) ++ [parent] ∧
      parent.traceId = flight.traceId ∧ parent.spanId = flight.spanId ∧
      parent.parentSpanId = none ∧ parent.events = flight.events ∧
      parent.attributes.find? (fun entry => entry.key = "fleetd.observed_event_count") =
        some (attributeNat "fleetd.observed_event_count" flight.observed) :=
    ⟨_, rfl, rfl, rfl, rfl, rfl, find?_behind hearlier rfl _ _ _ _ _⟩
  refine ⟨parent, by rw [hclose, childrenOf_spans], ?_⟩
  constructor
  · exact hroot
  · rw [hspan, hflight.spanId]
    rfl
  · rw [hevents, hflight.events]
  · exact hflight.nodup_ids
  · exact hflight.mem_ids
  · exact fun child hchild => hflight.isChild htrace hspan hchild
  · exact hflight.parts
  · rw [hobserved, hevents, hflight.count, hflight.observed, attributeNat_min]

/-- The spans of a turn are its own and one child for each tool call among its exported updates, which
they divide among their events; and as long as the digest separates what they are derived from,
their identities are different. -/
theorem exported_partitions (config : EgressConfig) (turn : OwnedTurn) (updates : List OwnedUpdate)
    (close : OwnedClose) :
    ∃ parent children,
      exported config turn updates close = children.map Prod.snd ++ [parent] ∧
      Partitions config turn updates parent children ∧
      ((∀ update ∈ updates, update.invocationId = turn.invocationId) →
        CollisionFree spanIdentity (spanPreimages config turn updates) →
        ((exported config turn updates close).map (·.spanId)).Nodup) := by
  have hobserved : Observed config turn updates
      (updates.foldl (InFlight.observe config) (InFlight.open_ turn)) := observed_foldl updates
  obtain ⟨parent, hclose, hpartitions⟩ := hobserved.close close
  refine ⟨parent, _, hclose, hpartitions, fun hturn hfree => ?_⟩
  let children := childrenOf (updates.foldl (InFlight.observe config) (InFlight.open_ turn))
  let roles := children.map fun child => "tool:" ++ child.1
  have hspans : (exported config turn updates close).map (·.spanId) =
      (roles ++ ["invocation"]).map fun role => deriveSpanId role turn.invocationId := by
    have hchildren : (children.map Prod.snd).map (·.spanId) =
        roles.map fun role => deriveSpanId role turn.invocationId := by
      rw [List.map_map, List.map_map]
      refine List.map_congr_left fun child hchild => ?_
      obtain ⟨first, rest, hcalls, hcall⟩ := hobserved.exists_call hchild
      have hfirst : first ∈ updates := by
        have hmem : first ∈ callUpdates config updates child.1 := hcalls ▸ List.mem_cons_self
        exact List.mem_of_mem_filter (List.mem_of_mem_filter hmem)
      show child.2.spanId = deriveSpanId ("tool:" ++ child.1) turn.invocationId
      rw [hcall, ← hturn first hfirst]
      rfl
    rw [exported, hclose, List.map_append, hchildren, List.map_append, List.map_singleton,
      hpartitions.spanId]
    rfl
  have hroles : (roles ++ ["invocation"]).Nodup := by
    refine List.nodup_append.2 ⟨?_, List.nodup_singleton _, ?_⟩
    · have hids := hpartitions.calls.map toolRole_injective
      rwa [List.map_map] at hids
    · intro role hrole other hother heq
      obtain ⟨child, -, rfl⟩ := List.mem_map.1 hrole
      rw [List.mem_singleton.1 hother] at heq
      exact toolRole_ne child.1 heq
  have hspanRoles : roles ++ ["invocation"] ⊆ spanRoles config updates := by
    intro role hrole
    rcases List.mem_append.1 hrole with hrole | hrole
    · obtain ⟨child, hchild, rfl⟩ := List.mem_map.1 hrole
      obtain ⟨update, hupdate, hcall⟩ := (hpartitions.mem_calls child.1).1 (List.mem_map_of_mem hchild)
      exact List.mem_cons_of_mem _
        (List.mem_map_of_mem (List.mem_filterMap.2 ⟨update, hupdate, hcall⟩))
    · rw [List.mem_singleton.1 hrole]
      exact List.mem_cons_self
  rw [hspans]
  refine hroles.map_on fun role hrole other hother heq =>
    @spanPreimage_injective role other turn.invocationId ?_
  exact hfree _ (List.mem_map_of_mem (hspanRoles hrole)) _ (List.mem_map_of_mem (hspanRoles hother)) heq

end Spans

set_option maxRecDepth 100000 in
/-- The tool call of the sample is a child of its turn. -/
theorem exported_partitions_sampleOwnedTurn :
    ∃ parent children,
      exported sampleEgress sampleOwnedTurn [sampleToolUpdate "t"] sampleOwnedClose =
        children.map Prod.snd ++ [parent] ∧
      Partitions sampleEgress sampleOwnedTurn [sampleToolUpdate "t"] parent children ∧
      ((exported sampleEgress sampleOwnedTurn [sampleToolUpdate "t"] sampleOwnedClose).map
        (·.spanId)).Nodup := by
  obtain ⟨parent, children, hspans, hpartitions, hnodup⟩ :=
    exported_partitions sampleEgress sampleOwnedTurn [sampleToolUpdate "t"] sampleOwnedClose
  exact ⟨parent, children, hspans, hpartitions, hnodup (by decide) (by decide +kernel)⟩

end Fleetd.Otlp
