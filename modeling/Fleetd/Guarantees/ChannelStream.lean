import Fleetd.Stream.ChannelStream
import Fleetd.Guarantees.Log

/-!
# What a channel stream sends

The rows of the channel past the stream's first cursor are, at every moment, those already
sent followed by those still to come, and a page that is being sent is the head of the
latter. Commits only add rows at the end. A replay that ends without a commit in between
has sent everything.
-/

namespace Fleetd

open Effects Relational Relational.Transaction

variable {Json : Type} [SerdeJson Json]

/-- Messages that are the decoded form of rows. -/
def Decodes (rows : List MessageRow) (messages : List (Message Json)) : Prop :=
  List.Forall₂ (fun row message => messageFromRow row = .ok message) rows messages

/-- A decoded message keeps the sequence of its row. -/
theorem messageFromRow_seq {row : MessageRow} {message : Message Json}
    (h : messageFromRow row = .ok message) : message.seq = row.seq := by
  unfold messageFromRow at h
  split at h
  · cases h
    rfl
  · cases h

theorem decodes_of_mapM {rows : List MessageRow} {messages : List (Message Json)}
    (h : rows.mapM messageFromRow = .ok messages) : Decodes rows messages := by
  induction rows generalizing messages with
  | nil =>
    cases h
    exact .nil
  | cons row rows ih =>
    rw [List.mapM_cons] at h
    cases hrow : (messageFromRow row : Except FleetError (Message Json)) with
    | error e =>
      rw [hrow] at h
      cases h
    | ok message =>
      cases hrest : (rows.mapM messageFromRow : Except FleetError (List (Message Json))) with
      | error e =>
        rw [hrow, hrest] at h
        cases h
      | ok rest =>
        rw [hrow, hrest] at h
        cases h
        exact .cons hrow (ih hrest)

/-- Decoded rows are in the order of the rows. -/
theorem Decodes.sorted {rows : List MessageRow} {messages : List (Message Json)}
    (h : Decodes rows messages) (hsorted : rows.Pairwise fun m n => m.seq < n.seq) :
    messages.Pairwise fun m n => m.seq < n.seq := by
  have hmap : messages.map Message.seq = rows.map MessageRow.seq := by
    induction h with
    | nil => rfl
    | cons hrow _ ih =>
      rw [List.map_cons, List.map_cons, messageFromRow_seq hrow, ih (List.Pairwise.of_cons hsorted)]
  have hrows : (rows.map MessageRow.seq).Pairwise (· < ·) := List.pairwise_map.mpr hsorted
  rw [← hmap] at hrows
  exact List.pairwise_map.mp hrows

/-! ## Pages of the log -/

/-- The rows of a channel past a position. -/
def rowsPast (channelId : String) (after : Int) (messages : List MessageRow) : List MessageRow :=
  (channelMessages channelId messages).filter fun m => after < (m.seq : Int)

theorem rowsPast_append (channelId : String) (after : Int) (messages new : List MessageRow) :
    rowsPast channelId after (messages ++ new) =
      rowsPast channelId after messages ++ rowsPast channelId after new := by
  rw [rowsPast, channelMessages, List.filter_append, List.filter_append]
  rfl

theorem mem_rowsPast {channelId : String} {after : Int} {messages : List MessageRow} {m : MessageRow} :
    m ∈ rowsPast channelId after messages ↔
      m ∈ messages ∧ m.channelId = channelId ∧ after < (m.seq : Int) := by
  rw [rowsPast, channelMessages, List.mem_filter, List.mem_filter, decide_eq_true_iff,
    decide_eq_true_iff, and_assoc]

/-- Any selection of the log is in order. -/
theorem rowsPast_sorted {s : Store} (hlog : LogConsistent s) (channelId : String) (after : Int) :
    (rowsPast channelId after s.messages).Pairwise fun m n => m.seq < n.seq :=
  (hlog.messageOrder.filter _).filter _

/-- A page holds the head of the rows past its cursor. -/
theorem messageRowsAfter_eq {s : Store} (hlog : LogConsistent s) (channelId : String) (after : Int)
    (limit : Nat) :
    messageRowsAfter channelId after limit s.messages =
      (rowsPast channelId after s.messages).take limit := by
  have hsorted := rowsPast_sorted hlog channelId after
  rw [messageRowsAfter, ← rowsPast, List.Pairwise.insertionSort_eq (hsorted.imp fun h => h.le)]

theorem listMessages_ok {s t : Store} {channelId : String} {after : Int} {limit : Nat}
    {page : MessagePage Json} (hlog : LogConsistent s)
    (h : listMessages channelId after limit s = .ok (page, t)) :
    Decodes ((rowsPast channelId after s.messages).take (max 1 (min limit maxMessagePage)))
      page.messages := by
  simp only [listMessages, ensureChannel, bind_ok, ensure_ok, read_ok, check_ok, pure_ok] at h
  obtain ⟨_, _, ⟨_, rfl⟩, _, _, ⟨_, _, ⟨rfl, rfl⟩, _, rfl⟩, rows, _, ⟨rfl, rfl⟩, messages, _,
    ⟨hmessages, rfl⟩, rfl, _⟩ := h
  rw [← messageRowsAfter_eq hlog]
  exact decodes_of_mapM hmessages

/-- A page of an existing channel can be read when its messages decode. -/
theorem listMessages_run {s : Store} {channelId : String} {after : Int} (limit : Nat)
    (hafter : 0 ≤ after) (hchannel : ∃ channel ∈ s.channels, channel.id = channelId)
    (hdecodes : ∀ m ∈ s.messages, ∃ message : Message Json, messageFromRow m = .ok message) :
    ∃ page : MessagePage Json, listMessages channelId after limit s = .ok (page, s) := by
  have hrows : ∀ m ∈ messageRowsAfter channelId after (max 1 (min limit maxMessagePage)) s.messages,
      ∃ message : Message Json, messageFromRow m = .ok message := by
    intro m hm
    have hmem := List.mem_of_mem_take hm
    rw [List.mem_insertionSort] at hmem
    exact hdecodes m (List.mem_of_mem_filter (List.mem_of_mem_filter hmem))
  obtain ⟨messages, hmessages⟩ := except_mapM_ok hrows
  refine ⟨⟨messages, (messages.getLast?.map fun m => (m.seq : Int)).getD after⟩, ?_⟩
  simp only [listMessages, ensureChannel, bind_run, ensure_run, read_run, hafter, hchannel,
    hmessages, if_true, check_ok_run, pure_run]

/-! ## Sent and still to come -/

/-- The rows past the first cursor are those sent, up to the cursor, and those to come. The page
that is being sent is the head of what is to come. -/
structure Streaming (stream : AuthorizedChannelStream) (sent rest : List MessageRow)
    (w : StreamState Json) : Prop where
  split : rowsPast stream.channelId stream.after w.store.messages = sent ++ rest
  frames : Decodes sent w.frames
  below : ∀ m ∈ sent, (m.seq : Int) ≤ w.cursor
  above : ∀ m ∈ rest, w.cursor < (m.seq : Int)
  held : w.cursor = stream.after ∨ ∃ m ∈ sent, (m.seq : Int) = w.cursor
  pending : ∀ message pending count, w.phase = .sending message pending count →
    ∃ next, next <+: rest ∧ Decodes next (message :: pending)

/-- Nothing is left to come once the replay under way has ended. -/
structure Draining (pageSize : Nat) (rest : List MessageRow) (w : StreamState Json) : Prop where
  page : ∀ message pending count, w.phase = .sending message pending count → count < pageSize →
    Decodes rest (message :: pending)
  quiet : w.phase = .waiting → rest = []

variable {stream : AuthorizedChannelStream} {wire : StreamWire} {pageSize : Nat}
  {sent rest : List MessageRow} {w : StreamState Json}

theorem Streaming.mem_sent (h : Streaming stream sent rest w) {m : MessageRow} (hm : m ∈ sent) :
    m ∈ w.store.messages ∧ m.channelId = stream.channelId ∧ stream.after < (m.seq : Int) := by
  rw [← mem_rowsPast, h.split]
  exact List.mem_append_left _ hm

theorem Streaming.after_le (h : Streaming stream sent rest w) : stream.after ≤ w.cursor := by
  rcases h.held with heq | ⟨m, hm, heq⟩
  · omega
  · have hpast := (h.mem_sent hm).2.2
    omega

/-- What is to come are the rows past the cursor. -/
theorem Streaming.rest_eq (h : Streaming stream sent rest w) :
    rowsPast stream.channelId w.cursor w.store.messages = rest := by
  have hle := h.after_le
  have hfilter : rowsPast stream.channelId w.cursor w.store.messages =
      (rowsPast stream.channelId stream.after w.store.messages).filter
        fun m => w.cursor < (m.seq : Int) := by
    rw [rowsPast, rowsPast, List.filter_filter]
    refine List.filter_congr fun m _ => ?_
    rw [Bool.eq_iff_iff, Bool.and_eq_true, decide_eq_true_iff, decide_eq_true_iff]
    omega
  rw [hfilter, h.split, List.filter_append]
  have hsent : sent.filter (fun m => w.cursor < (m.seq : Int)) = [] := by
    rw [List.filter_eq_nil_iff]
    intro m hm
    have := h.below m hm
    simpa using this
  have hrest : rest.filter (fun m => w.cursor < (m.seq : Int)) = rest := by
    rw [List.filter_eq_self]
    intro m hm
    simpa using h.above m hm
  rw [hsent, hrest, List.nil_append]

/-- What was sent are the rows past the first cursor, up to the cursor. -/
theorem Streaming.sent_eq (h : Streaming stream sent rest w) :
    (rowsPast stream.channelId stream.after w.store.messages).filter
      (fun m => (m.seq : Int) ≤ w.cursor) = sent := by
  rw [h.split, List.filter_append]
  have hsent : sent.filter (fun m => (m.seq : Int) ≤ w.cursor) = sent := by
    rw [List.filter_eq_self]
    intro m hm
    simpa using h.below m hm
  have hrest : rest.filter (fun m => (m.seq : Int) ≤ w.cursor) = [] := by
    rw [List.filter_eq_nil_iff]
    intro m hm
    have := h.above m hm
    simpa using this
  rw [hsent, hrest, List.append_nil]

/-- A change of phase that is not a page leaves what was sent alone. -/
theorem Streaming.rephase (h : Streaming stream sent rest w) (wakes : List (MessageCommitWake Json))
    (lagged : Bool) {phase : StreamPhase Json}
    (hphase : ∀ message pending count, phase ≠ .sending message pending count) :
    Streaming stream sent rest { w with wakes := wakes, lagged := lagged, phase := phase } :=
  ⟨h.split, h.frames, h.below, h.above, h.held, fun _ _ _ heq => absurd heq (hphase _ _ _)⟩

/-- Rows that a commit adds are to come. -/
theorem Streaming.commit {t : Store} (h : Streaming stream sent rest w)
    (hleads : w.store.messages <+: t.messages) (hlog : LogConsistent t) :
    ∃ more, Streaming stream sent (rest ++ more) { w with store := t } := by
  obtain ⟨new, hnew⟩ := hleads
  have horder := hlog.messageOrder
  rw [← hnew, List.pairwise_append] at horder
  refine ⟨rowsPast stream.channelId stream.after new, ?_, h.frames, h.below, fun m hm => ?_, h.held,
    fun message pending count hphase => ?_⟩
  · simp only [← hnew, rowsPast_append, h.split, List.append_assoc]
  · rcases List.mem_append.mp hm with hm | hm
    · exact h.above m hm
    · obtain ⟨hmem, _, hpast⟩ := mem_rowsPast.mp hm
      rcases h.held with heq | ⟨n, hn, heq⟩
      · show w.cursor < _
        omega
      · -- The cursor is at a row of the old log, and every new row comes after it.
        have hlt := horder.2.2 n (h.mem_sent hn).1 m hmem
        show w.cursor < _
        omega
  · obtain ⟨next, hnext, hdecodes⟩ := h.pending message pending count hphase
    exact ⟨next, hnext.trans (List.prefix_append _ _), hdecodes⟩

omit [SerdeJson Json] in
/-- The page after some of it was sent. -/
theorem afterPage_sending {pending : List (Message Json)} {count : Nat} {message : Message Json}
    {rest : List (Message Json)} {total : Nat}
    (h : afterPage pageSize pending count = .sending message rest total) :
    pending = message :: rest ∧ count = total := by
  cases pending with
  | nil =>
    rw [afterPage] at h
    split at h <;> cases h
  | cons first pending =>
    cases h
    exact ⟨rfl, rfl⟩

/-- A page that was read is the head of what is to come. -/
theorem Streaming.readPage (h : Streaming stream sent rest w) (hlog : LogConsistent w.store) :
    Streaming stream sent rest (w.readPage stream pageSize) := by
  unfold StreamState.readPage
  split
  swap
  · exact h
  split
  · rename_i page t hpage
    refine ⟨h.split, h.frames, h.below, h.above, h.held, fun message pending count hphase => ?_⟩
    have hdecodes := listMessages_ok hlog hpage
    rw [h.rest_eq, (afterPage_sending hphase).1] at hdecodes
    exact ⟨_, List.take_prefix _ _, hdecodes⟩
  · exact h.rephase w.wakes w.lagged fun _ _ _ => nofun

/-- A message that is sent moves from what is to come to what was sent. -/
theorem Streaming.send (h : Streaming stream sent rest w) (hlog : LogConsistent w.store)
    (pageSize : Nat) {message : Message Json} {pending : List (Message Json)} {count : Nat}
    (hphase : w.phase = .sending message pending count) :
    ∃ row rest', rest = row :: rest' ∧ messageFromRow row = .ok message ∧
      Streaming stream (sent ++ [row]) rest' { w with
        phase := afterPage pageSize pending count
        cursor := message.seq
        frames := w.frames ++ [message] } := by
  obtain ⟨next, ⟨tail, hrest⟩, hdecodes⟩ := h.pending message pending count hphase
  cases hdecodes with
  | @cons row _ next' _ hrow hpending =>
    have hseq := messageFromRow_seq hrow
    have hsorted := rowsPast_sorted hlog stream.channelId stream.after
    rw [h.split, ← hrest, List.cons_append, List.pairwise_append, List.pairwise_cons] at hsorted
    refine ⟨row, next' ++ tail, hrest.symm, hrow, ?_, ?_, fun m hm => ?_, fun m hm => ?_, ?_,
      fun first others total hnext => ?_⟩
    · rw [h.split, ← hrest, List.cons_append, List.append_assoc]
      rfl
    · exact List.rel_append h.frames (.cons hrow .nil)
    · show (m.seq : Int) ≤ (message.seq : Int)
      rcases List.mem_append.mp hm with hm | hm
      · have := hsorted.2.2 m hm row (List.mem_cons_self ..)
        omega
      · rw [List.mem_singleton.mp hm, hseq]
    · show (message.seq : Int) < (m.seq : Int)
      have := hsorted.2.1.1 m hm
      omega
    · exact .inr ⟨row, by simp, by simp [hseq]⟩
    · rw [(afterPage_sending hnext).1] at hpending
      exact ⟨next', List.prefix_append _ _, hpending⟩

/-! ## Nothing is left behind -/

omit [SerdeJson Json] in
/-- A page leads to waiting when it was short and is sent. -/
theorem afterPage_waiting {pending : List (Message Json)} {count : Nat}
    (h : afterPage pageSize pending count = .waiting) : pending = [] ∧ count < pageSize := by
  cases pending with
  | nil =>
    rw [afterPage] at h
    split at h
    · exact ⟨rfl, by assumption⟩
    · cases h
  | cons first pending => cases h

/-- Where no page is under way and the stream is not waiting, nothing is claimed. -/
theorem Draining.vacuous (hpage : ∀ message pending count, w.phase ≠ .sending message pending count)
    (hwaiting : w.phase ≠ .waiting) : Draining pageSize rest w :=
  ⟨fun _ _ _ heq => absurd heq (hpage _ _ _), fun heq => absurd heq hwaiting⟩

/-- A page shorter than the page size holds all that is to come. -/
theorem Streaming.readPage_draining (h : Streaming stream sent rest w) (hlog : LogConsistent w.store)
    (hpos : 0 < pageSize) (hsize : pageSize ≤ maxMessagePage) (hd : Draining pageSize rest w) :
    Draining pageSize rest (w.readPage stream pageSize) := by
  unfold StreamState.readPage
  split
  swap
  · exact hd
  split
  · rename_i page t hpage
    have hdecodes := listMessages_ok hlog hpage
    rw [h.rest_eq, min_eq_left hsize, max_eq_right hpos] at hdecodes
    have hlength := hdecodes.length_eq
    rw [List.length_take] at hlength
    refine ⟨fun message pending count hphase hshort => ?_, fun hphase => ?_⟩
    · obtain ⟨hmessages, hcount⟩ := afterPage_sending hphase
      rw [List.take_of_length_le (by omega), hmessages] at hdecodes
      exact hdecodes
    · obtain ⟨hmessages, _⟩ := afterPage_waiting hphase
      rw [hmessages, List.length_nil] at hlength
      exact List.eq_nil_of_length_eq_zero (by omega)
  · exact .vacuous (fun _ _ _ => nofun) nofun

/-- Sending the messages of a short page leaves nothing behind. -/
theorem Draining.send {row : MessageRow} {rest' : List MessageRow}
    (h : Draining pageSize (row :: rest') w) {message : Message Json} {pending : List (Message Json)}
    {count : Nat} (hphase : w.phase = .sending message pending count) :
    Draining pageSize rest' { w with
      phase := afterPage pageSize pending count
      cursor := message.seq
      frames := w.frames ++ [message] } := by
  refine ⟨fun first others total hnext hshort => ?_, fun hnext => ?_⟩
  · obtain ⟨rfl, rfl⟩ := afterPage_sending hnext
    cases h.page message _ count hphase hshort with
    | cons _ hrest => exact hrest
  · obtain ⟨rfl, hshort⟩ := afterPage_waiting hnext
    cases h.page message _ count hphase hshort with
    | cons _ hrest =>
      cases hrest
      rfl

/-! ## Steps and runs -/

section Run

variable [DecidableEq Json] [Sha256]

omit [SerdeJson Json] [DecidableEq Json] [Sha256] in
theorem StreamPhase.orFinish_ne_sending {result : Except StreamTermination Unit}
    {phase : StreamPhase Json} (h : ∀ message pending count, phase ≠ .sending message pending count)
    (message : Message Json) (pending : List (Message Json)) (count : Nat) :
    StreamPhase.orFinish result phase ≠ .sending message pending count := by
  cases result with
  | ok _ => exact h message pending count
  | error _ => exact nofun

omit [DecidableEq Json] [Sha256] in
/-- A check of a waiting stream changes nothing but its phase. -/
theorem Streaming.check (h : Streaming stream sent rest w) (pageSize : Nat)
    (result : Except StreamTermination Unit) :
    Streaming stream sent rest (w.check result) ∧
      (Draining pageSize rest w → Draining pageSize rest (w.check result)) := by
  unfold StreamState.check
  split
  · rename_i hphase
    have hsending : ∀ message pending count,
        StreamPhase.orFinish result .waiting ≠ (.sending message pending count : StreamPhase Json) :=
      StreamPhase.orFinish_ne_sending fun _ _ _ => nofun
    exact ⟨h.rephase w.wakes w.lagged hsending,
      fun hd => ⟨fun _ _ _ heq => absurd heq (hsending _ _ _), fun _ => hd.quiet hphase⟩⟩
  · exact ⟨h, id⟩

omit [DecidableEq Json] [Sha256] in
/-- A wake makes a waiting stream replay or leaves it waiting. -/
theorem Streaming.receive (h : Streaming stream sent rest w) (pageSize : Nat) :
    Streaming stream sent rest (w.receive stream) ∧
      (Draining pageSize rest w → Draining pageSize rest (w.receive stream)) := by
  unfold StreamState.receive
  split
  swap
  · exact ⟨h, id⟩
  rename_i hphase
  split
  · exact ⟨h.rephase w.wakes false fun _ _ _ => nofun,
      fun _ => .vacuous (fun _ _ _ => nofun) nofun⟩
  split
  · exact ⟨h, id⟩
  · rename_i wake wakes _
    have hsending : ∀ message pending count, (if wake.calls stream.channelId w.cursor then .replaying
        else .waiting) ≠ (.sending message pending count : StreamPhase Json) := by
      intro _ _ _
      split <;> exact nofun
    exact ⟨h.rephase wakes w.lagged hsending,
      fun hd => ⟨fun _ _ _ heq => absurd heq (hsending _ _ _), fun _ => hd.quiet hphase⟩⟩

/-- A step that is no commit keeps what was sent and what is to come, and never leaves anything
behind that was not left behind before. -/
theorem Streaming.quiet (h : Streaming stream sent rest w) (hlog : LogConsistent w.store)
    {step : StreamStep Json} (hquiet : ∀ c, step ≠ .commit c) :
    ∃ sent' rest', Streaming stream sent' rest' (step.next stream wire pageSize w) ∧
      (0 < pageSize → pageSize ≤ maxMessagePage → Draining pageSize rest w →
        Draining pageSize rest' (step.next stream wire pageSize w)) := by
  cases step with
  | commit c => exact absurd rfl (hquiet c)
  | publish wake =>
    exact ⟨sent, rest, ⟨h.split, h.frames, h.below, h.above, h.held, h.pending⟩,
      fun _ _ hd => ⟨hd.page, hd.quiet⟩⟩
  | overflow missed =>
    simp only [StreamStep.next, StreamState.overflow]
    split
    · exact ⟨sent, rest, ⟨h.split, h.frames, h.below, h.above, h.held, h.pending⟩,
        fun _ _ hd => ⟨hd.page, hd.quiet⟩⟩
    · exact ⟨sent, rest, h, fun _ _ hd => hd⟩
  | ready delivered =>
    simp only [StreamStep.next, StreamState.ready]
    split
    · refine ⟨sent, rest, h.rephase w.wakes w.lagged
        (StreamPhase.orFinish_ne_sending fun _ _ _ => nofun), fun _ _ _ => ?_⟩
      refine .vacuous (StreamPhase.orFinish_ne_sending fun _ _ _ => nofun) ?_
      cases wire.sendReady stream.after delivered <;> exact nofun
    · exact ⟨sent, rest, h, fun _ _ hd => hd⟩
  | readPage => exact ⟨sent, rest, h.readPage hlog, h.readPage_draining hlog⟩
  | send credential delivered =>
    simp only [StreamStep.next, StreamState.send]
    split
    · rename_i message pending count hphase
      split
      · obtain ⟨row, rest', rfl, _, hsent⟩ := h.send hlog pageSize hphase
        exact ⟨sent ++ [row], rest', hsent, fun _ _ hd => hd.send hphase⟩
      · exact ⟨sent, rest, h.rephase w.wakes w.lagged fun _ _ _ => nofun,
          fun _ _ _ => .vacuous (fun _ _ _ => nofun) nofun⟩
    · exact ⟨sent, rest, h, fun _ _ hd => hd⟩
  | receive => exact ⟨sent, rest, (h.receive pageSize).1, fun _ _ => (h.receive pageSize).2⟩
  | closed =>
    simp only [StreamStep.next, StreamState.closed]
    split
    · split
      · exact ⟨sent, rest, h.rephase w.wakes w.lagged fun _ _ _ => nofun,
          fun _ _ _ => .vacuous (fun _ _ _ => nofun) nofun⟩
      · exact ⟨sent, rest, h, fun _ _ hd => hd⟩
    · exact ⟨sent, rest, h, fun _ _ hd => hd⟩
  | incoming frame => exact ⟨sent, rest, (h.check pageSize _).1, fun _ _ => (h.check pageSize _).2⟩
  | revalidate credential => exact ⟨sent, rest, (h.check pageSize _).1, fun _ _ => (h.check pageSize _).2⟩

theorem streamRun_snoc (setup : List (Command Json)) (steps : List (StreamStep Json))
    (step : StreamStep Json) :
    streamRun stream wire pageSize setup (steps ++ [step]) =
      step.next stream wire pageSize (streamRun stream wire pageSize setup steps) :=
  runFrom_snoc _ _ _ _

omit [SerdeJson Json] [DecidableEq Json] [Sha256] in
theorem StreamStep.commits_snoc (steps : List (StreamStep Json)) (step : StreamStep Json) :
    commits (steps ++ [step]) = commits steps ++ commits [step] :=
  List.filterMap_append

/-- A step changes the database only by the call it commits. -/
theorem StreamStep.next_store (step : StreamStep Json) (w : StreamState Json) :
    (step.next stream wire pageSize w).store = runFrom Command.step w.store (commits [step]) := by
  cases step with
  | commit c => rfl
  | publish wake => rfl
  | overflow missed => simp only [next, StreamState.overflow]; split <;> rfl
  | ready sent => simp only [next, StreamState.ready]; split <;> rfl
  | readPage => simp only [next, StreamState.readPage]; split <;> [split; skip] <;> rfl
  | send credential sent => simp only [next, StreamState.send]; split <;> [split; skip] <;> rfl
  | receive =>
    simp only [next, StreamState.receive]
    split <;> [split; skip] <;> [rfl; split; rfl] <;> rfl
  | closed => simp only [next, StreamState.closed]; split <;> [split; skip] <;> rfl
  | incoming frame => simp only [next, StreamState.check]; split <;> rfl
  | revalidate credential => simp only [next, StreamState.check]; split <;> rfl

/-- The database is what the calls before and during the stream made of it. -/
theorem streamRun_store (setup : List (Command Json)) (steps : List (StreamStep Json)) :
    (streamRun stream wire pageSize setup steps).store = run (setup ++ StreamStep.commits steps) := by
  induction steps using List.reverseRecOn with
  | nil => rw [StreamStep.commits, List.filterMap_nil, List.append_nil]; rfl
  | append_singleton steps step ih =>
    rw [streamRun_snoc, StreamStep.next_store, ih, StreamStep.commits_snoc, ← List.append_assoc]
    exact (runFrom_append _ _ _ _).symm

/-- The database under a stream is consistent. -/
theorem streamRun_log (stream : AuthorizedChannelStream) (wire : StreamWire) (pageSize : Nat)
    {setup : List (Command Json)} {steps : List (StreamStep Json)}
    (h : Fresh (setup ++ StreamStep.commits steps)) :
    LogConsistent (streamRun stream wire pageSize setup steps).store := by
  rw [streamRun_store]
  exact (run_invariant h).log

/-- At every moment the rows of the channel are those sent and those to come. -/
theorem streamRun_streaming {setup : List (Command Json)} {steps : List (StreamStep Json)}
    (h : Fresh (setup ++ StreamStep.commits steps)) :
    ∃ sent rest, Streaming stream sent rest (streamRun stream wire pageSize setup steps) := by
  induction steps using List.reverseRecOn with
  | nil =>
    exact ⟨[], rowsPast stream.channelId stream.after (run setup).messages, rfl, .nil,
      fun _ hm => (by cases hm), fun m hm => (mem_rowsPast.mp hm).2.2, .inl rfl, fun _ _ _ => nofun⟩
  | append_singleton steps step ih =>
    have hall := h
    rw [StreamStep.commits_snoc, ← List.append_assoc] at h
    obtain ⟨sent, rest, hs⟩ := ih h.left
    rw [streamRun_snoc]
    by_cases hcommit : ∃ c, step = .commit c
    · obtain ⟨c, rfl⟩ := hcommit
      have hlog := streamRun_log stream wire pageSize hall
      rw [streamRun_snoc] at hlog
      have hleads : (streamRun stream wire pageSize setup steps).store.messages <+:
          (c.step (streamRun stream wire pageSize setup steps).store).messages := by
        rw [streamRun_store, ← run_snoc]
        exact run_messages (List.prefix_append _ _) h
      obtain ⟨more, hmore⟩ := hs.commit hleads hlog
      exact ⟨sent, rest ++ more, hmore⟩
    · have hquiet : ∀ c, step ≠ .commit c := fun c hc => hcommit ⟨c, hc⟩
      obtain ⟨sent', rest', hs', _⟩ := hs.quiet (streamRun_log stream wire pageSize h.left) hquiet
      exact ⟨sent', rest', hs'⟩

/-! ## Catching up -/

omit [Sha256] in
/-- The end of a channel is below a bound exactly when all its messages are. -/
theorem latestSeq_le {channelId : String} {messages : List MessageRow} {bound : Nat} :
    latestSeq channelId messages ≤ bound ↔
      ∀ m ∈ messages, m.channelId = channelId → m.seq ≤ bound := by
  have hfold : ∀ (seqs : List Nat) (first : Nat),
      seqs.foldl max first ≤ bound ↔ first ≤ bound ∧ ∀ seq ∈ seqs, seq ≤ bound := by
    intro seqs
    induction seqs with
    | nil => simp
    | cons seq seqs ih =>
      intro first
      rw [List.foldl_cons, ih, Nat.max_le, List.forall_mem_cons, and_assoc]
  rw [latestSeq, hfold, List.forall_mem_map]
  simp

/-- What a waiting stream is woken by and cannot have missed: a lag, a hint from outside, or
the newest message of its channel. -/
inductive Conclusive (stream : AuthorizedChannelStream) (w : StreamState Json) : Prop
  | lagged (lagged : w.lagged = true)
  | external (wakes : List (MessageCommitWake Json)) (head : w.wakes = .external :: wakes)
  | newest (message : Message Json) (wakes : List (MessageCommitWake Json))
      (head : w.wakes = .committed message :: wakes) (channel : message.channelId = stream.channelId)
      (newest : latestSeq stream.channelId w.store.messages ≤ message.seq)

omit [DecidableEq Json] [Sha256] in
/-- A conclusive wake starts a replay, or there is nothing to replay. -/
theorem Streaming.conclusive (h : Streaming stream sent rest w) (hphase : w.phase = .waiting)
    (hwake : Conclusive stream w) : Draining pageSize rest (w.receive stream) := by
  have hreplaying : ∀ wakes lagged, Draining pageSize rest
      { w with wakes := wakes, lagged := lagged, phase := .replaying } :=
    fun _ _ => .vacuous (fun _ _ _ => nofun) nofun
  cases hlagged : w.lagged with
  | true =>
    simp only [StreamState.receive, hphase, hlagged, if_true]
    exact hreplaying _ _
  | false =>
    cases hwake with
    | lagged lagged =>
      rw [lagged] at hlagged
      cases hlagged
    | external wakes head =>
      simp only [StreamState.receive, hphase, hlagged, head, MessageCommitWake.calls, if_true]
      exact hreplaying _ _
    | newest message wakes head channel newest =>
      simp only [StreamState.receive, hphase, hlagged, head, MessageCommitWake.calls, channel]
      by_cases hseq : w.cursor < (message.seq : Int)
      · simp only [hseq, decide_true, Bool.and_true, if_true]
        exact hreplaying _ _
      · refine ⟨fun _ _ _ heq => ?_, fun _ => ?_⟩
        · simp [hseq] at heq
        · refine List.eq_nil_iff_forall_not_mem.mpr fun m hm => ?_
          have habove := h.above m hm
          rw [← h.rest_eq] at hm
          obtain ⟨hmem, hchannel, _⟩ := mem_rowsPast.mp hm
          have hle := latestSeq_le.mp newest m hmem hchannel
          omega

omit [DecidableEq Json] [Sha256] in
/-- A stream with nothing to come stands at the end of its channel. -/
theorem Streaming.cursor_eq (h : Streaming stream sent [] w) (hafter : 0 ≤ stream.after) :
    w.cursor = max stream.after (latestSeq stream.channelId w.store.messages) := by
  have hle := h.after_le
  have hlatest : latestSeq stream.channelId w.store.messages ≤ w.cursor.toNat := by
    refine latestSeq_le.mpr fun m hm hchannel => ?_
    by_cases hpast : stream.after < (m.seq : Int)
    · have hmem := mem_rowsPast.mpr ⟨hm, hchannel, hpast⟩
      rw [h.split, List.append_nil] at hmem
      have hbelow := h.below m hmem
      omega
    · omega
  rcases h.held with heq | ⟨m, hm, heq⟩
  · omega
  · obtain ⟨hmem, hchannel, _⟩ := h.mem_sent hm
    have hbound := latestSeq_le.mp le_rfl m hmem hchannel
    omega

omit [DecidableEq Json] [Sha256] in
/-- A stream that waits with nothing left behind stands at the end of its channel. -/
theorem Streaming.caughtUp (h : Streaming stream sent rest w) (hd : Draining pageSize rest w)
    (hafter : 0 ≤ stream.after) (hphase : w.phase = .waiting) :
    w.cursor = max stream.after (latestSeq stream.channelId w.store.messages) := by
  obtain rfl := hd.quiet hphase
  exact h.cursor_eq hafter

/-- Without commits, a stream that has nothing left behind keeps it so. -/
theorem streamRun_draining {setup : List (Command Json)} {steps later : List (StreamStep Json)}
    (h : Fresh (setup ++ StreamStep.commits steps)) (hpos : 0 < pageSize)
    (hsize : pageSize ≤ maxMessagePage) (hquiet : StreamStep.commits later = [])
    (hstart : ∃ sent rest, Streaming stream sent rest (streamRun stream wire pageSize setup steps) ∧
      Draining pageSize rest (streamRun stream wire pageSize setup steps)) :
    ∃ sent rest, Streaming stream sent rest (streamRun stream wire pageSize setup (steps ++ later)) ∧
      Draining pageSize rest (streamRun stream wire pageSize setup (steps ++ later)) := by
  induction later using List.reverseRecOn with
  | nil => simpa using hstart
  | append_singleton later step ih =>
    rw [StreamStep.commits_snoc, List.append_eq_nil_iff] at hquiet
    obtain ⟨sent, rest, hs, hd⟩ := ih hquiet.1
    have hlog : LogConsistent (streamRun stream wire pageSize setup (steps ++ later)).store := by
      refine streamRun_log stream wire pageSize ?_
      rwa [StreamStep.commits, List.filterMap_append, ← StreamStep.commits, ← StreamStep.commits,
        hquiet.1, List.append_nil]
    have hstep : ∀ c, step ≠ .commit c := by
      rintro c rfl
      cases hquiet.2
    obtain ⟨sent', rest', hs', hd'⟩ := hs.quiet hlog hstep
    rw [← List.append_assoc, streamRun_snoc]
    exact ⟨sent', rest', hs', hd' hpos hsize hd⟩

/-! ## The replay loop ends -/

/-- Whether the replay loop is under way. -/
def StreamPhase.isReplaying {Json : Type} : StreamPhase Json → Bool
  | .replaying => true
  | .sending _ _ _ => true
  | _ => false

/-- What the replay loop has still to do: a page to read, and each message that is to come. -/
def StreamPhase.work {Json : Type} (rest : List MessageRow) : StreamPhase Json → Nat
  | .replaying => 2 * rest.length + 1
  | _ => 2 * rest.length

/-- Nothing outside the stream makes it fail. -/
structure Serviceable (stream : AuthorizedChannelStream) (answers : ℕ → Revalidation × Bool)
    (s : Store) : Prop where
  after : 0 ≤ stream.after
  channel : ∃ channel ∈ s.channels, channel.id = stream.channelId
  answers : ∀ i, answers i = (.current, true)

/-- Where the replay loop may be after one of its steps. -/
structure Progress (stream : AuthorizedChannelStream) (rest rest' : List MessageRow)
    (answers : ℕ → Revalidation × Bool) (w w' : StreamState Json) : Prop where
  store : w'.store = w.store
  work : w'.phase.isReplaying = true → w'.phase.work rest' < w.phase.work rest
  served : Serviceable stream answers w.store → w'.phase = .waiting ∨ w'.phase.isReplaying = true

omit [SerdeJson Json] [DecidableEq Json] [Sha256] in
theorem afterPage_isReplaying (pending : List (Message Json)) (count : Nat) :
    afterPage pageSize pending count = .waiting ∨
      (afterPage pageSize pending count).isReplaying = true := by
  cases pending with
  | nil =>
    rw [afterPage]
    split
    · exact .inl rfl
    · exact .inr rfl
  | cons first pending => exact .inr rfl

omit [DecidableEq Json] [Sha256] in
/-- One step of the replay loop reads a page or sends a message. -/
theorem Streaming.replayStep (h : Streaming stream sent rest w) (hlog : LogConsistent w.store)
    (hdecodes : ∀ m ∈ w.store.messages, ∃ message : Message Json, messageFromRow m = .ok message)
    (wire : StreamWire) (hpos : 0 < pageSize) (hphase : w.phase.isReplaying = true)
    (answers : ℕ → Revalidation × Bool) :
    ∃ sent' rest', Streaming stream sent' rest' (w.replayStep stream wire pageSize (answers 0)) ∧
      Progress stream rest rest' answers w (w.replayStep stream wire pageSize (answers 0)) := by
  unfold StreamState.replayStep
  split
  · rename_i hreplaying
    refine ⟨sent, rest, h.readPage hlog, ?_⟩
    simp only [StreamState.readPage, hreplaying]
    split
    · rename_i page t hpage
      refine ⟨rfl, fun hnext => ?_, fun _ => afterPage_isReplaying _ _⟩
      simp only at hnext ⊢
      rw [hreplaying]
      cases hmessages : page.messages with
      | nil =>
        rw [hmessages, afterPage, List.length_nil, if_pos hpos] at hnext
        cases hnext
      | cons message pending =>
        simp only [afterPage, StreamPhase.work]
        omega
    · rename_i e herror
      refine ⟨rfl, fun hnext => (by cases hnext), fun hserved => ?_⟩
      obtain ⟨page, hpage⟩ := listMessages_run pageSize
        (hserved.after.trans h.after_le) hserved.channel hdecodes
      rw [hpage] at herror
      cases herror
  · rename_i message pending count hsending
    simp only [StreamState.send, hsending]
    split
    · obtain ⟨row, rest', rfl, _, hs⟩ := h.send hlog pageSize hsending
      refine ⟨sent ++ [row], rest', hs, rfl, fun _ => ?_, fun _ => afterPage_isReplaying _ _⟩
      have hwork : ∀ phase : StreamPhase Json, phase.work rest' ≤ 2 * rest'.length + 1 := by
        intro phase
        cases phase <;> simp [StreamPhase.work]
      have hle := hwork (afterPage pageSize pending count)
      rw [hsending]
      simp only [StreamPhase.work, List.length_cons] at hle ⊢
      omega
    · rename_i termination herror
      refine ⟨sent, rest, h.rephase w.wakes w.lagged fun _ _ _ => nofun, rfl,
        fun hnext => (by cases hnext), fun hserved => ?_⟩
      rw [hserved.answers 0] at herror
      cases wire <;> cases herror
  · rename_i hnot hnot'
    cases hw : w.phase with
    | replaying => exact absurd hw hnot
    | sending message pending count => exact absurd hw (hnot' _ _ _)
    | _ =>
      rw [hw] at hphase
      cases hphase

omit [DecidableEq Json] [Sha256] in
/-- The replay loop ends by itself, and it ends waiting when nothing outside makes it fail. -/
theorem Streaming.replay_ends (n : Nat) (h : Streaming stream sent rest w)
    (hwork : w.phase.work rest < n) (hlog : LogConsistent w.store)
    (hdecodes : ∀ m ∈ w.store.messages, ∃ message : Message Json, messageFromRow m = .ok message)
    (hpos : 0 < pageSize) (hphase : w.phase.isReplaying = true)
    (answers : ℕ → Revalidation × Bool) :
    ∃ k, (w.replay stream wire pageSize answers k).phase.isReplaying = false ∧
      (Serviceable stream answers w.store →
        (w.replay stream wire pageSize answers k).phase = .waiting) := by
  induction n generalizing w sent rest answers with
  | zero => omega
  | succ n ih =>
    obtain ⟨sent', rest', hs, hprogress⟩ :=
      h.replayStep hlog hdecodes wire hpos hphase answers
    cases hnext : (w.replayStep stream wire pageSize (answers 0)).phase.isReplaying with
    | false =>
      refine ⟨1, hnext, fun hserved => ?_⟩
      rcases hprogress.served hserved with hwaiting | hagain
      · exact hwaiting
      · rw [hnext] at hagain
        cases hagain
    | true =>
      have hless := hprogress.work hnext
      obtain ⟨k, hk, hserved⟩ := ih hs (by omega) (hprogress.store ▸ hlog)
        (hprogress.store ▸ hdecodes) hnext fun i => answers (i + 1)
      refine ⟨k + 1, hk, fun hserve => hserved ⟨hserve.after, ?_, fun i => hserve.answers (i + 1)⟩⟩
      rw [hprogress.store]
      exact hserve.channel

/-! ## Every interleaving -/

/-- What a reader of a channel stream can rely on, at any moment of its run. -/
structure StreamsExactly (stream : AuthorizedChannelStream) (wire : StreamWire) (pageSize : Nat)
    (setup : List (Command Json)) (steps : List (StreamStep Json)) (w : StreamState Json) : Prop where
  exact : Decodes ((rowsPast stream.channelId stream.after w.store.messages).filter
    fun m => (m.seq : Int) ≤ w.cursor) w.frames
  ordered : w.frames.Pairwise fun m n => m.seq < n.seq
  caughtUp : pageSize ≤ maxMessagePage → ∀ later, StreamStep.commits later = [] →
    w.phase = .waiting → Conclusive stream w → ∀ w', w' = streamRun stream wire pageSize setup (steps ++ .receive :: later) →
      w'.phase = .waiting →
        w'.cursor = max stream.after (latestSeq stream.channelId w'.store.messages)
  replayed : pageSize ≤ maxMessagePage → ∀ later, StreamStep.commits later = [] →
    w.phase = .replaying → ∀ w', w' = streamRun stream wire pageSize setup (steps ++ later) → w'.phase = .waiting →
      w'.cursor = max stream.after (latestSeq stream.channelId w'.store.messages)
  terminates : w.phase.isReplaying = true → ∀ answers, ∃ k,
    (w.replay stream wire pageSize answers k).phase.isReplaying = false ∧
      (Serviceable stream answers w.store →
        (w.replay stream wire pageSize answers k).phase = .waiting)

/-- For every interleaving of commits, hints, lags and steps of a stream, the stream has sent
exactly the messages of its channel between its first cursor and its cursor. -/
theorem run_streamsExactly [LawfulSerdeJson Json] {setup : List (Command Json)}
    {steps : List (StreamStep Json)} (h : Fresh (setup ++ StreamStep.commits steps))
    (hafter : 0 ≤ stream.after) (hpos : 0 < pageSize) :
    StreamsExactly stream wire pageSize setup steps (streamRun stream wire pageSize setup steps) := by
  have hlog := streamRun_log stream wire pageSize h
  obtain ⟨sent, rest, hs⟩ :=
    (streamRun_streaming h : ∃ sent rest, Streaming stream sent rest
      (streamRun stream wire pageSize setup steps))
  refine ⟨?_, ?_, fun hsize later hno hphase hwake w' hw' hwaiting => ?_,
    fun hsize later hno hphase w' hw' hwaiting => ?_, fun hphase answers => ?_⟩
  · rw [hs.sent_eq]
    exact hs.frames
  · have hsorted := rowsPast_sorted hlog stream.channelId stream.after
    rw [hs.split, List.pairwise_append] at hsorted
    exact hs.frames.sorted hsorted.1
  · subst hw'
    have hfresh : Fresh (setup ++ StreamStep.commits (steps ++ [.receive])) := by
      have hnone : StreamStep.commits ([.receive] : List (StreamStep Json)) = [] := rfl
      rwa [StreamStep.commits_snoc, hnone, List.append_nil]
    have hreceive : streamRun stream wire pageSize setup (steps ++ [.receive]) =
        (streamRun stream wire pageSize setup steps).receive stream := streamRun_snoc ..
    have hstart : ∃ sent rest, Streaming stream sent rest
        (streamRun stream wire pageSize setup (steps ++ [.receive])) ∧
        Draining pageSize rest (streamRun stream wire pageSize setup (steps ++ [.receive])) := by
      rw [hreceive]
      exact ⟨sent, rest, (hs.receive pageSize).1, hs.conclusive hphase hwake⟩
    rw [← List.singleton_append, ← List.append_assoc] at hwaiting ⊢
    obtain ⟨sent', rest', hs', hd'⟩ := streamRun_draining hfresh hpos hsize hno hstart
    exact hs'.caughtUp hd' hafter hwaiting
  · subst hw'
    have hd : Draining pageSize rest (streamRun stream wire pageSize setup steps) := by
      refine .vacuous (fun _ _ _ => ?_) ?_ <;> rw [hphase] <;> exact nofun
    obtain ⟨sent', rest', hs', hd'⟩ := streamRun_draining h hpos hsize hno ⟨sent, rest, hs, hd⟩
    exact hs'.caughtUp hd' hafter hwaiting
  · refine hs.replay_ends _ (Nat.lt_succ_self _) hlog (fun m hm => ?_) hpos hphase answers
    rw [streamRun_store] at hm
    exact (run_printed h m hm).decode

end Run

/-- A stream of the sample's channel from its beginning. -/
def sampleStream : AuthorizedChannelStream := ⟨"c", 0, "credential", .agent "b"⟩

/-- The second message of the sample's channel. -/
def secondMessage : Command Bool :=
  .appendMessage "c" ⟨"b", some "k2", none, "answer", false, none, none⟩ "m2" 9

/-- The stream replays the sample's message and waits while a second one is committed and a hint
arrives from outside. -/
def wokenSteps : List (StreamStep Bool) :=
  [.ready true, .readPage, .send .current true, .commit secondMessage, .publish .external]

set_option maxRecDepth 100000 in
/-- The woken stream replays the second message and stands at the end of its channel. -/
theorem run_streamsExactly_wokenSteps :
    StreamsExactly sampleStream .native replayPageSize sampleSetup wokenSteps
        (streamRun sampleStream .native replayPageSize sampleSetup wokenSteps) ∧
      Conclusive sampleStream (streamRun sampleStream .native replayPageSize sampleSetup wokenSteps) ∧
      (streamRun sampleStream .native replayPageSize sampleSetup
        (wokenSteps ++ [.receive, .readPage, .send .current true])).frames.map (·.seq) = [1, 2] :=
  ⟨run_streamsExactly (by decide) (by decide) (by decide),
    .external [] (by decide +kernel), by decide +kernel⟩

/-- The stream has replayed the first message when a second one is committed; the hint about the
first arrives only now. -/
def staleSteps : List (StreamStep Bool) :=
  [.ready true, .readPage, .send .current true, .commit secondMessage,
    .publish (.committed ⟨1, "m", "c", "a", some "b", "work", true, some "corr", none, 2⟩)]

/-- A stream that reads pages of no messages, after it has sent the sample's message. -/
def spinningStream : StreamState Bool :=
  streamRun sampleStream .native 0 sampleSetup [.ready true, .readPage, .send .current true]

set_option maxRecDepth 100000 in
/-- A wake that was produced after the last commit leaves the stream behind when it is about an
older message, a cursor past the end of the channel is not at its end, and with pages of no
messages the replay loop never ends. -/
theorem stream_behind_staleSteps :
    (∃ w, w = streamRun sampleStream .native replayPageSize sampleSetup (staleSteps ++ [.receive]) ∧
      w.phase = .waiting ∧ w.wakes = [] ∧ w.cursor = 1 ∧ latestSeq "c" w.store.messages = 2) ∧
    (∃ w, w = streamRun ⟨"c", 7, "credential", .agent "b"⟩ .native replayPageSize sampleSetup
        [.ready true, .readPage, .publish .external, .receive, .readPage] ∧
      w.phase = .waiting ∧ w.cursor = 7 ∧ latestSeq "c" w.store.messages = 1) ∧
    ∀ k answers,
      (spinningStream.replay sampleStream .native 0 answers k).phase.isReplaying = true := by
  have hphase : spinningStream.phase = .replaying := by decide +kernel
  have hpage : (listMessages "c" spinningStream.cursor 0 : Tx (MessagePage Bool)) spinningStream.store =
      .ok (⟨[], 1⟩, spinningStream.store) := by decide +kernel
  have hloop : ∀ answer,
      spinningStream.replayStep sampleStream .native 0 answer = spinningStream := by
    intro answer
    have hread : spinningStream.readPage sampleStream 0 = { spinningStream with phase := .replaying } := by
      rw [StreamState.readPage, hphase, sampleStream]
      simp only [hpage]
      rfl
    rw [StreamState.replayStep, hphase]
    show spinningStream.readPage sampleStream 0 = spinningStream
    rw [hread, ← hphase]
  refine ⟨⟨_, rfl, by decide +kernel⟩, ⟨_, rfl, by decide +kernel⟩, fun k => ?_⟩
  induction k with
  | zero =>
    intro answers
    rw [StreamState.replay, hphase]
    rfl
  | succ k ih =>
    intro answers
    rw [StreamState.replay, hloop]
    exact ih _

end Fleetd
