import Mathlib.Data.Prod.Lex
import Mathlib.Data.String.Basic
import Fleetd.Evidence.Keyset
import Fleetd.System.Observation

/-!
# Tailing settled evidence

A collector reads the settled rows of one evidence table, oldest first, and hands the
position of the last row it received back as the cursor of its next read. A row becomes
visible to it when the row settles, at the position of the clock reading of the settling
call. With clocks that do not go back this position is past every cursor handed out, except
that a row can settle in the very millisecond of a cursor with a smaller identifier.
-/

namespace Fleetd

open Relational Relational.Transaction Keyset

/-! ## Positions -/

/-- Positions are compared clock first and identifier second. -/
instance : LinearOrder EvidenceCursor :=
  LinearOrder.lift' (fun c : EvidenceCursor => toLex (c.changedAtMs, c.id)) fun a b h => by
    cases a
    cases b
    simpa using h

theorem EvidenceCursor.lt_iff {a b : EvidenceCursor} :
    a < b ↔ a.changedAtMs < b.changedAtMs ∨ a.changedAtMs = b.changedAtMs ∧ a.id < b.id :=
  Prod.Lex.toLex_lt_toLex

/-- The comparison of the listing is the order of positions. -/
theorem EvidenceCursor.before_iff {a b : EvidenceCursor} : a.before b = true ↔ a < b := by
  rw [EvidenceCursor.lt_iff, EvidenceCursor.before]
  simp

/-- The page a collector asks for. -/
def settledPage (after : Option EvidenceCursor) (limit : Nat) : EvidencePage :=
  ⟨none, after, limit, true, .oldest⟩

/-- Rows with different identifiers have different positions. -/
theorem EvidenceColumns.nodup_cursor {α : Type} {columns : EvidenceColumns α} {rows : List α}
    (hids : KeyUnique columns.id rows) : (rows.map columns.cursor).Nodup := by
  refine List.Nodup.of_map EvidenceCursor.id ?_
  rw [List.map_map]
  exact hids

/-- The rows of a collector's page are the first settled rows past its cursor. -/
theorem evidenceRows_isPage {α : Type} {columns : EvidenceColumns α} {rows : List α}
    (hids : KeyUnique columns.id rows) (after : Option EvidenceCursor) (requested limit : Nat) :
    IsPage columns.cursor after limit (rows.filter columns.settled)
      (evidenceRows columns (settledPage after requested) limit rows) := by
  refine isPage_sort (fun a b => ?_) ?_ fun row => ?_
  · rw [← not_lt, ← EvidenceCursor.before_iff]
    rfl
  · exact (List.filter_sublist.map _).nodup (EvidenceColumns.nodup_cursor hids)
  · cases after with
    | none => simp [settledPage]
    | some after =>
      simp [settledPage, EvidenceOrder.follows, EvidenceCursor.before_iff, and_assoc]

/-! ## Two listings -/

section Listing

variable {Json : Type} [DecidableEq Json] [SerdeJson Json] [Sha256]

/-- The clock reading of a call that reports about a worker or a turn. -/
def Command.evidenceClock : Command Json → Option Int
  | .recordInvocationEvent _ _ _ _ _ _ now => some now
  | .recordInvocationTerminal _ _ now => some now
  | .stopPluginGeneration _ _ now => some now
  | _ => none

/-- One evidence listing: its table, the call that reads a page of it, and the position at
which a call settles a row of it. A settled row stays, and a row that settles was open before
and takes the position of the settling call. -/
structure Listing (Json α : Type) [DecidableEq Json] [SerdeJson Json] [Sha256] where
  rows : Store → List α
  columns : Store → EvidenceColumns α
  cursor : α → EvidenceCursor
  settled : α → Bool
  list : EvidencePage → Tx (List α)
  settles : Command Json → Option EvidenceCursor
  list_eq : ∀ page, list page = do
    let limit ← check page.validate
    read fun s => evidenceRows (columns s) page limit (rows s)
  cursor_eq : ∀ s, (columns s).cursor = cursor
  settled_eq : ∀ s, (columns s).settled = settled
  empty : rows Store.empty = []
  unique : ∀ s, EvidenceConsistent s → KeyUnique (fun r => (cursor r).id) (rows s)
  kept : ∀ minted s, Invariant minted s → ∀ c : Command Json,
    (∀ leaseToken ∈ c.leaseTokens, leaseToken ∉ minted) →
    ∀ r ∈ rows s, settled r = true → r ∈ rows (c.step s)
  clock : ∀ c place, settles c = some place → c.evidenceClock = some place.changedAtMs
  fresh : ∀ minted s, Invariant minted s → ∀ c : Command Json,
    (∀ leaseToken ∈ c.leaseTokens, leaseToken ∉ minted) → ∀ u t, c.exec s = .ok (u, t) →
    ∀ r ∈ rows t, settled r = true → r ∈ rows s ∨ settles c = some (cursor r) ∧
      ∃ x ∈ rows s, (cursor x).id = (cursor r).id ∧ settled x = false

/-- The listing of plugin generations, which settle when they stop. -/
def generationListing : Listing Json PluginGeneration where
  rows s := s.pluginGenerations
  columns _ := generationColumns
  cursor g := ⟨g.lastHeartbeatAtMs, g.id⟩
  settled g := g.stopped.isSome
  list := listPluginGenerations
  settles
    | .stopPluginGeneration generationId _ now => some ⟨now, generationId⟩
    | _ => none
  list_eq _ := rfl
  cursor_eq _ := rfl
  settled_eq _ := rfl
  empty := rfl
  unique _ hev := hev.generationIds
  clock c place h := by
    cases c <;> cases h
    rfl
  kept _ _ hinv _ hfresh _ hr hstopped := Command.step_generation_kept hinv hfresh hr hstopped
  fresh _ _ hinv c hfresh _ _ hok r hr hstopped := by
    rcases c.generation_new hinv hfresh hok hr hstopped with
      hold | ⟨g, hg, hactive, hid, stop, rfl⟩
    · exact .inl hold
    · exact .inr ⟨rfl, g, hg, hid, by rw [hactive]; rfl⟩

/-- The listing of invocation observations, which settle when their terminal is recorded. -/
def observationListing : Listing Json InvocationObservation where
  rows s := s.invocationObservations
  columns s := observationColumns s.invocations
  cursor o := ⟨o.updatedAtMs, o.invocationId⟩
  settled o := o.terminal.isSome
  list := listInvocationObservations
  settles
    | .recordInvocationTerminal _ terminal now => some ⟨now, terminal.invocationId⟩
    | _ => none
  list_eq _ := rfl
  cursor_eq _ := rfl
  settled_eq _ := rfl
  empty := rfl
  unique _ hev := hev.observationIds
  clock c place h := by
    cases c <;> cases h
    rfl
  kept _ _ hinv _ hfresh _ hr hterm := Command.step_observation_kept hinv hfresh hr hterm
  fresh _ _ hinv c hfresh _ _ hok r hr hterm := by
    rcases c.observation_new hinv hfresh hok hr hterm with
      hold | ⟨o, ho, hopen, hid, terminal, hnamed, rfl⟩
    · exact .inl hold
    · exact .inr ⟨by rw [← hnamed], o, ho, hid, by rw [hopen]; rfl⟩

end Listing

/-! ## A collector beside the writers -/

/-- One step of the system: a call commits, or the collector reads a page. -/
inductive TailStep (Json : Type)
  | commit (c : Command Json)
  | read (limit : Nat)

/-- The database, the cursor the collector holds, and what it has received. -/
structure Tail (α : Type) where
  store : Store
  after : Option EvidenceCursor
  received : List α

/-- The calls among the steps. -/
def TailStep.commits {Json : Type} (steps : List (TailStep Json)) : List (Command Json) :=
  steps.filterMap fun
    | .commit c => some c
    | .read _ => none

/-- The steps followed by so many reads with the given limits. -/
def TailStep.reading {Json : Type} (steps : List (TailStep Json)) (limits : ℕ → ℕ) (n : ℕ) :
    List (TailStep Json) :=
  steps ++ (List.range n).map fun i => .read (limits i)

theorem TailStep.reading_zero {Json : Type} (steps : List (TailStep Json)) (limits : ℕ → ℕ) :
    reading steps limits 0 = steps :=
  List.append_nil _

theorem TailStep.reading_succ {Json : Type} (steps : List (TailStep Json)) (limits : ℕ → ℕ) (n : ℕ) :
    reading steps limits (n + 1) = reading steps limits n ++ [.read (limits n)] := by
  rw [reading, List.range_succ, List.map_append, ← List.append_assoc]
  rfl

theorem TailStep.commits_commit {Json : Type} (steps : List (TailStep Json)) (c : Command Json) :
    commits (steps ++ [.commit c]) = commits steps ++ [c] :=
  List.filterMap_append

theorem TailStep.commits_read {Json : Type} (steps : List (TailStep Json)) (limit : Nat) :
    commits (steps ++ [.read limit]) = commits steps := by
  rw [commits, List.filterMap_append]
  exact List.append_nil _

section Collector

variable {Json α : Type} [DecidableEq Json] [SerdeJson Json] [Sha256]

/-- The clock readings so far, with that of one more call if it commits. -/
def committedClock (c : Command Json) (s : Store) (clocks : List Int) : List Int :=
  match c.exec s with
  | .ok _ => clocks ++ c.evidenceClock.toList
  | .error _ => clocks

/-- The clock readings of the reports that committed along a run, in commit order. -/
def committedClocks (cs : List (Command Json)) : List Int :=
  (cs.foldl (fun p c => (c.step p.1, committedClock c p.1 p.2)) (Store.empty, [])).2

/-- The answer to a read of the collector. -/
def Listing.answer (listing : Listing Json α) (limit : Nat) (w : Tail α) :
    Except FleetError (List α × Store) :=
  listing.list (settledPage w.after limit) w.store

/-- A call changes the database; a read moves the collector to the last row of its page. -/
def Listing.next (listing : Listing Json α) (step : TailStep Json) (w : Tail α) : Tail α :=
  match step with
  | .commit c => { w with store := c.step w.store }
  | .read limit =>
    match listing.answer limit w with
    | .ok (page, _) =>
      { w with after := advance listing.cursor w.after page, received := w.received ++ page }
    | .error _ => w

/-- The system after some steps from an empty database and an idle collector. -/
def Listing.tail (listing : Listing Json α) (steps : List (TailStep Json)) : Tail α :=
  runFrom listing.next ⟨Store.empty, none, []⟩ steps

/-- A step that settles an open row in the millisecond of the held cursor, with an identifier
at or below the cursor's. -/
def Listing.Collides (listing : Listing Json α) (w : Tail α) : TailStep Json → Prop
  | .read _ => False
  | .commit c => (∃ t, c.exec w.store = .ok ((), t)) ∧ ∃ place ∈ listing.settles c,
      (∃ x ∈ listing.rows w.store, (listing.cursor x).id = place.id ∧ listing.settled x = false) ∧
        ∃ held ∈ w.after, place.changedAtMs = held.changedAtMs ∧ place.id ≤ held.id

instance (listing : Listing Json α) (w : Tail α) (step : TailStep Json) :
    Decidable (listing.Collides w step) :=
  match step with
  | .read _ => .isFalse id
  | .commit c => match h : c.exec w.store with
    | .ok (_, t) => decidable_of_iff (∃ place ∈ listing.settles c,
        (∃ x ∈ listing.rows w.store, (listing.cursor x).id = place.id ∧ listing.settled x = false) ∧
          ∃ held ∈ w.after, place.changedAtMs = held.changedAtMs ∧ place.id ≤ held.id)
        (and_iff_right ⟨t, h⟩).symm
    | .error _ => .isFalse fun ⟨⟨_, hok⟩, _⟩ => by rw [h] at hok; cases hok

/-- No step of the run collides with the cursor held at the time. -/
def Listing.Untied (listing : Listing Json α) (steps : List (TailStep Json)) : Prop :=
  ∀ before step, before ++ [step] <+: steps → ¬ listing.Collides (listing.tail before) step

/-- What a collector can rely on: no row comes twice, an empty page means that every row
that was ever settled has come, and reading on reaches an empty page. -/
structure TailsLosslessly (listing : Listing Json α) (steps : List (TailStep Json)) : Prop where
  once : ((listing.tail steps).received.map fun r => (listing.cursor r).id).Nodup
  complete : ∀ limit t, listing.answer limit (listing.tail steps) = .ok ([], t) →
    ∀ earlier, earlier <+: steps → ∀ r ∈ listing.rows (listing.tail earlier).store,
      listing.settled r = true → r ∈ (listing.tail steps).received
  drains : ∀ limits : ℕ → ℕ, ∃ n t,
    listing.answer (limits n) (listing.tail (TailStep.reading steps limits n)) = .ok ([], t)

theorem committedClock_ok {c : Command Json} {s : Store} {result : Unit × Store} {clocks : List Int}
    (h : c.exec s = .ok result) :
    committedClock c s clocks = clocks ++ c.evidenceClock.toList := by
  rw [committedClock, h]

theorem committedClock_error {c : Command Json} {s : Store} {e : FleetError} {clocks : List Int}
    (h : c.exec s = .error e) : committedClock c s clocks = clocks := by
  rw [committedClock, h]

/-- Readings are only added. -/
theorem committedClock_prefix (c : Command Json) (s : Store) (clocks : List Int) :
    clocks <+: committedClock c s clocks := by
  cases h : c.exec s with
  | ok result => exact committedClock_ok h ▸ List.prefix_append ..
  | error e => exact committedClock_error h ▸ List.prefix_rfl

theorem foldl_committedClock_fst (cs : List (Command Json)) (p : Store × List Int) :
    (cs.foldl (fun p c => (c.step p.1, committedClock c p.1 p.2)) p).1 =
      runFrom Command.step p.1 cs := by
  induction cs generalizing p with
  | nil => rfl
  | cons c cs ih => exact ih _

/-- One more call adds its reading if it commits. -/
theorem committedClocks_snoc (cs : List (Command Json)) (c : Command Json) :
    committedClocks (cs ++ [c]) = committedClock c (run cs) (committedClocks cs) := by
  rw [committedClocks, List.foldl_append, List.foldl_cons, List.foldl_nil, foldl_committedClock_fst]
  rfl

variable {listing : Listing Json α} {steps : List (TailStep Json)}

theorem Listing.tail_snoc (steps : List (TailStep Json)) (step : TailStep Json) :
    listing.tail (steps ++ [step]) = listing.next step (listing.tail steps) :=
  runFrom_snoc _ _ _ _

/-- The database is what the calls among the steps made of it. -/
theorem Listing.tail_store (steps : List (TailStep Json)) :
    (listing.tail steps).store = run (TailStep.commits steps) := by
  induction steps using List.reverseRecOn with
  | nil => rfl
  | append_singleton steps step ih =>
    rw [Listing.tail_snoc]
    cases step with
    | commit c =>
      rw [TailStep.commits_commit, run_snoc, ← ih]
      rfl
    | read limit =>
      rw [TailStep.commits_read, ← ih]
      simp only [Listing.next]
      split <;> rfl

/-- The settled rows of a database. -/
def Listing.visible (listing : Listing Json α) (s : Store) : List α :=
  (listing.rows s).filter listing.settled

/-- A page whose cursor is not negative is the first of the settled rows past the cursor. -/
theorem Listing.answer_ok {w : Tail α} (hev : EvidenceConsistent w.store)
    (hpos : ∀ held ∈ w.after, 0 ≤ held.changedAtMs) (limit : Nat) :
    ∃ page, listing.answer limit w = .ok (page, w.store) ∧
      IsPage listing.cursor w.after (max 1 (min limit maxEvidencePage)) (listing.visible w.store)
        page := by
  have hvalid : (settledPage w.after limit).validate =
      .ok (max 1 (min limit maxEvidencePage)) := by
    rw [EvidencePage.validate, if_neg]
    · rfl
    · cases hafter : w.after with
      | none => simp [settledPage]
      | some held => simpa [settledPage] using hpos held hafter
  refine ⟨evidenceRows (listing.columns w.store) (settledPage w.after limit)
      (max 1 (min limit maxEvidencePage)) (listing.rows w.store), ?_, ?_⟩
  · rw [Listing.answer, listing.list_eq, hvalid]
    rfl
  · have hids : KeyUnique (listing.columns w.store).id (listing.rows w.store) := by
      have hid : (listing.columns w.store).id = fun r => (listing.cursor r).id := by
        rw [← listing.cursor_eq w.store]
        rfl
      rw [hid]
      exact listing.unique w.store hev
    have hpage := evidenceRows_isPage hids w.after limit (max 1 (min limit maxEvidencePage))
    rwa [listing.cursor_eq, listing.settled_eq] at hpage

/-- A read comes back empty or brings something. -/
theorem Listing.answer_cases {w : Tail α} (hev : EvidenceConsistent w.store)
    (hpos : ∀ held ∈ w.after, 0 ≤ held.changedAtMs) (limit : Nat) :
    (∃ t, listing.answer limit w = .ok ([], t)) ∨
      w.received.length < (listing.next (.read limit) w).received.length := by
  obtain ⟨page, hanswer, _⟩ := listing.answer_ok hev hpos limit
  cases page with
  | nil => exact .inl ⟨_, hanswer⟩
  | cons r page =>
    refine .inr ?_
    simp only [Listing.next, hanswer, List.length_append, List.length_cons]
    omega

/-- What holds between the database, the collector and the clock readings. -/
structure Follows (listing : Listing Json α) (clocks : List Int) (w : Tail α) : Prop where
  tailing : Tailing listing.cursor none w.after (listing.visible w.store) w.received
  held : ∀ held ∈ w.after, ∃ r ∈ w.received, listing.cursor r = held
  clock : ∀ r ∈ listing.visible w.store, (listing.cursor r).changedAtMs ∈ clocks

/-- The held cursor carries a committed clock reading. -/
theorem Follows.clock_held {clocks : List Int} {w : Tail α} (h : Follows listing clocks w) :
    ∀ held ∈ w.after, held.changedAtMs ∈ clocks := by
  intro held hheld
  obtain ⟨r, hr, rfl⟩ := h.held held hheld
  exact h.clock r ((h.tailing.mem r).mp hr).1

/-- A read keeps the relation. -/
theorem Follows.read {clocks : List Int} {w : Tail α} (h : Follows listing clocks w)
    (hev : EvidenceConsistent w.store) (hpos : ∀ now ∈ clocks, 0 ≤ now) (limit : Nat) :
    Follows listing clocks (listing.next (.read limit) w) := by
  obtain ⟨page, hanswer, hpage⟩ := listing.answer_ok hev
    (fun held hheld => hpos _ (h.clock_held held hheld)) limit
  simp only [Listing.next, hanswer]
  refine ⟨h.tailing.read hpage, fun held hheld => ?_, h.clock⟩
  rcases List.eq_nil_or_concat page with rfl | ⟨front, q, rfl⟩
  · obtain ⟨r, hr, hcursor⟩ := h.held held hheld
    exact ⟨r, List.mem_append_left _ hr, hcursor⟩
  · rw [List.concat_eq_append] at hheld ⊢
    rw [advance_concat] at hheld
    exact ⟨q, by simp, Option.some.inj hheld⟩

/-- A call keeps the relation unless it collides with the held cursor. -/
theorem Follows.commit {minted : List String} {clocks : List Int} {w : Tail α} {c : Command Json}
    (h : Follows listing clocks w) (hinv : Invariant minted w.store)
    (hfresh : ∀ leaseToken ∈ c.leaseTokens, leaseToken ∉ minted)
    (hclocks : (committedClock c w.store clocks).Pairwise (· ≤ ·))
    (huntied : ¬ listing.Collides w (.commit c)) :
    Follows listing (committedClock c w.store clocks) (listing.next (.commit c) w) := by
  have hkept : ∀ r ∈ listing.visible w.store, r ∈ listing.visible (c.step w.store) := by
    intro r hr
    obtain ⟨hrow, hsettled⟩ := List.mem_filter.mp hr
    exact List.mem_filter.mpr ⟨listing.kept _ _ hinv c hfresh r hrow hsettled, hsettled⟩
  rcases commit_cases c.exec w.store with ⟨u, hok⟩ | ⟨⟨e, herror⟩, hsame⟩
  · rw [committedClock_ok hok] at hclocks ⊢
    have hnew : ∀ r ∈ listing.visible (c.step w.store), r ∈ listing.visible w.store ∨
        Past w.after (listing.cursor r) ∧
          (listing.cursor r).changedAtMs ∈ clocks ++ c.evidenceClock.toList := by
      intro r hr
      obtain ⟨hrow, hsettled⟩ := List.mem_filter.mp hr
      rcases listing.fresh _ _ hinv c hfresh u _ hok r hrow hsettled with hold | ⟨hplace, hopen⟩
      · exact .inl (List.mem_filter.mpr ⟨hold, hsettled⟩)
      · rw [listing.clock c _ hplace] at hclocks ⊢
        refine .inr ⟨fun held hheld => ?_, by simp⟩
        -- The clock did not go back, so only an equal reading could put the row behind the cursor.
        have hle : held.changedAtMs ≤ (listing.cursor r).changedAtMs :=
          (List.pairwise_append.mp hclocks).2.2 _ (h.clock_held held hheld) _ (by simp)
        rcases hle.lt_or_eq with hlt | heq
        · exact EvidenceCursor.lt_iff.mpr (.inl hlt)
        · refine EvidenceCursor.lt_iff.mpr (.inr ⟨heq, lt_of_not_ge fun hid => huntied ?_⟩)
          exact ⟨⟨_, hok⟩, _, hplace, hopen, held, hheld, heq.symm, hid⟩
    refine ⟨h.tailing.commit hkept fun r hr => (hnew r hr).imp_right And.left, h.held, fun r hr => ?_⟩
    rcases hnew r hr with hold | hfresh
    · exact List.mem_append_left _ (h.clock r hold)
    · exact hfresh.2
  · rw [committedClock_error herror]
    have hstore : listing.next (.commit c) w = w := congrArg (fun s => { w with store := s }) hsame
    rw [hstore]
    exact h

/-- Along a run without collisions the collector follows the database. -/
theorem Listing.follows (hfresh : Fresh (TailStep.commits steps))
    (hclocks : (0 :: committedClocks (TailStep.commits steps)).Pairwise (· ≤ ·))
    (huntied : listing.Untied steps) :
    Follows listing (committedClocks (TailStep.commits steps)) (listing.tail steps) := by
  induction steps using List.reverseRecOn with
  | nil =>
    refine ⟨.init _ _ _, fun _ hheld => (by cases hheld), fun r hr => ?_⟩
    have hrow : r ∈ listing.rows Store.empty := (List.mem_filter.mp hr).1
    rw [listing.empty] at hrow
    cases hrow
  | append_singleton steps step ih =>
    have huntied' : listing.Untied steps := fun before step' hle =>
      huntied before step' (hle.trans (List.prefix_append _ _))
    rw [Listing.tail_snoc]
    cases step with
    | commit c =>
      rw [TailStep.commits_commit] at hfresh hclocks ⊢
      rw [committedClocks_snoc] at hclocks ⊢
      have hleads : committedClocks (TailStep.commits steps) <+:
          committedClock c (run (TailStep.commits steps)) (committedClocks (TailStep.commits steps)) :=
        committedClock_prefix ..
      have hfollows := ih hfresh.left
        (hclocks.sublist ((List.cons_sublist_cons).mpr hleads.sublist)) huntied'
      rw [← listing.tail_store] at hclocks ⊢
      refine hfollows.commit (listing.tail_store steps ▸ run_invariant hfresh.left)
        (fun _ ht => hfresh.not_mem ht) (List.pairwise_cons.mp hclocks).2 (huntied _ _ (List.prefix_rfl))
    | read limit =>
      rw [TailStep.commits_read] at hfresh hclocks ⊢
      refine (ih hfresh hclocks huntied').read ?_ (List.pairwise_cons.mp hclocks).1 limit
      rw [listing.tail_store]
      exact (run_invariant hfresh).evidence

/-- A settled row stays visible in every later state. -/
theorem Listing.visible_kept {earlier : List (TailStep Json)} (hle : earlier <+: steps)
    (hfresh : Fresh (TailStep.commits steps)) {r : α}
    (hr : r ∈ listing.visible (listing.tail earlier).store) :
    r ∈ listing.visible (listing.tail steps).store := by
  obtain ⟨more, rfl⟩ := hle
  induction more using List.reverseRecOn with
  | nil => rwa [List.append_nil]
  | append_singleton more step ih =>
    rw [← List.append_assoc] at hfresh ⊢
    cases step with
    | commit c =>
      rw [TailStep.commits_commit] at hfresh
      obtain ⟨hrow, hsettled⟩ := List.mem_filter.mp (ih hfresh.left)
      rw [listing.tail_store] at hrow
      rw [listing.tail_store, TailStep.commits_commit, run_snoc]
      exact List.mem_filter.mpr ⟨listing.kept _ _ (run_invariant hfresh.left) c
        (fun _ ht => hfresh.not_mem ht) r hrow hsettled, hsettled⟩
    | read limit =>
      rw [listing.tail_store, TailStep.commits_read, ← listing.tail_store]
      rw [TailStep.commits_read] at hfresh
      exact ih hfresh

/-- Reads alone commit nothing. -/
theorem TailStep.commits_reading (steps : List (TailStep Json)) (limits : ℕ → ℕ) (n : ℕ) :
    commits (reading steps limits n) = commits steps := by
  induction n with
  | zero => rw [reading_zero]
  | succ n ih => rw [reading_succ, commits_read, ih]

/-- Reads alone collide with nothing. -/
theorem Listing.Untied.reading (h : listing.Untied steps) (limits : ℕ → ℕ) (n : ℕ) :
    listing.Untied (TailStep.reading steps limits n) := by
  induction n with
  | zero => rwa [TailStep.reading_zero]
  | succ n ih =>
    rw [TailStep.reading_succ]
    intro before step hle
    rcases List.prefix_concat_iff.mp hle with heq | hle
    · obtain ⟨_, hlast⟩ := List.append_inj' heq rfl
      cases List.singleton_inj.mp hlast
      exact id
    · exact ih before step hle

/-- Reading on brings a row each time, or comes back empty at some point. -/
theorem Listing.received_grows (hfresh : Fresh (TailStep.commits steps))
    (hclocks : (0 :: committedClocks (TailStep.commits steps)).Pairwise (· ≤ ·))
    (huntied : listing.Untied steps) (limits : ℕ → ℕ) (n : ℕ) :
    (∃ i t, listing.answer (limits i) (listing.tail (TailStep.reading steps limits i)) = .ok ([], t)) ∨
      n ≤ (listing.tail (TailStep.reading steps limits n)).received.length := by
  induction n with
  | zero => exact .inr (Nat.zero_le _)
  | succ n ih =>
    rcases ih with hempty | hle
    · exact .inl hempty
    rw [← TailStep.commits_reading steps limits n] at hfresh hclocks
    have hfollows := listing.follows hfresh hclocks (huntied.reading limits n)
    rcases listing.answer_cases (listing.tail_store _ ▸ (run_invariant hfresh).evidence)
      (fun held hheld => (List.pairwise_cons.mp hclocks).1 _ (hfollows.clock_held held hheld))
      (limits n) with hempty | hlt
    · exact .inl ⟨n, hempty⟩
    · rw [TailStep.reading_succ, listing.tail_snoc]
      exact .inr (hle.trans_lt hlt)

/-- Without collisions a collector tails the listing losslessly. -/
theorem Listing.tailsLosslessly (hfresh : Fresh (TailStep.commits steps))
    (hclocks : (0 :: committedClocks (TailStep.commits steps)).Pairwise (· ≤ ·))
    (huntied : listing.Untied steps) : TailsLosslessly listing steps where
  once := by
    have hfollows := listing.follows hfresh hclocks huntied
    have hids := listing.unique (listing.tail steps).store
      (listing.tail_store steps ▸ (run_invariant hfresh).evidence)
    refine List.Nodup.map_on (fun x hx y hy heq => ?_) hfollows.tailing.nodup
    exact hids.eq (List.mem_filter.mp ((hfollows.tailing.mem x).mp hx).1).1
      (List.mem_filter.mp ((hfollows.tailing.mem y).mp hy).1).1 heq
  complete limit t hempty earlier hle r hr hsettled := by
    have hfollows := listing.follows hfresh hclocks huntied
    obtain ⟨page, hanswer, hpage⟩ := listing.answer_ok
      (listing.tail_store steps ▸ (run_invariant hfresh).evidence)
      (fun held hheld => (List.pairwise_cons.mp hclocks).1 _ (hfollows.clock_held held hheld)) limit
    rw [hempty] at hanswer
    cases hanswer
    refine hfollows.tailing.drained (by omega) hpage ?_ (past_none _)
    exact listing.visible_kept hle hfresh (List.mem_filter.mpr ⟨hr, hsettled⟩)
  drains limits := by
    let n := (listing.visible (run (TailStep.commits steps))).length + 1
    refine (listing.received_grows hfresh hclocks huntied limits n).resolve_right fun hmany => ?_
    rw [← TailStep.commits_reading steps limits n] at hfresh hclocks
    have hfew := (listing.follows hfresh hclocks (huntied.reading limits n)).tailing.length_le
    rw [listing.tail_store, TailStep.commits_reading] at hfew
    omega

/-- In every run whose evidence clocks do not go back, a collector of either listing misses
nothing and receives nothing twice, as long as no row settles in the millisecond of the
cursor it holds with an identifier at or below the cursor's. -/
theorem run_tailsLosslessly (hfresh : Fresh (TailStep.commits steps))
    (hclocks : (0 :: committedClocks (TailStep.commits steps)).Pairwise (· ≤ ·)) :
    (observationListing.Untied steps → TailsLosslessly observationListing steps) ∧
      (generationListing.Untied steps → TailsLosslessly generationListing steps) :=
  ⟨observationListing.tailsLosslessly hfresh hclocks, generationListing.tailsLosslessly hfresh hclocks⟩

end Collector

/-- It is enough to look at each step in the state it acts on. -/
theorem Listing.untied_of_steps {Json α : Type} [DecidableEq Json] [SerdeJson Json] [Sha256]
    {listing : Listing Json α} {steps : List (TailStep Json)}
    (h : ∀ i < steps.length, ∀ step ∈ steps[i]?,
      ¬ listing.Collides (listing.tail (steps.take i)) step) : listing.Untied steps := by
  rintro before step ⟨later, rfl⟩
  have hstep := h before.length (by simp) step (by simp)
  simpa using hstep

/-- The sample's turn reports an event and ends. -/
def endedRun : List (Command Bool) := sampleArmed ++ [
  .recordInvocationEvent "g" "i" 1 8 "plan_update" true 8,
  .recordInvocationTerminal "g" ⟨"i", 1, "end_turn", none, .outcomeKnown, true, .confirmed, true⟩ 11]

/-- The sample's turn ends and its worker stops, with a collector reading after each. -/
def collectedRun : List (TailStep Bool) := endedRun.map .commit ++ [
  .read 10,
  .commit (.stopPluginGeneration "g" ⟨"graceful", "done", "exited", some 0⟩ 11),
  .read 10]

set_option maxRecDepth 100000 in
/-- The collector of either listing receives the row of the sample that settled. -/
theorem run_tailsLosslessly_collectedRun :
    TailsLosslessly (observationListing : Listing Bool _) collectedRun ∧
      TailsLosslessly (generationListing : Listing Bool _) collectedRun ∧
      ((observationListing : Listing Bool _).tail collectedRun).received.map
        (·.invocationId) = ["i"] ∧
      ((generationListing : Listing Bool _).tail collectedRun).received.map (·.id) = ["g"] := by
  have h : (observationListing.Untied collectedRun → _) ∧ (generationListing.Untied collectedRun → _) :=
    run_tailsLosslessly (by decide) (by decide +kernel)
  exact ⟨h.1 (Listing.untied_of_steps (by decide +kernel)),
    h.2 (Listing.untied_of_steps (by decide +kernel)), by decide +kernel, by decide +kernel⟩

/-- Two workers stop in one millisecond, and the collector reads between the two. -/
def tiedRun : List (TailStep Bool) := [
  .commit (.createAgent "b" "bob" 1),
  .commit (.recordPluginGeneration ⟨"z", "b", 1, "[]", "\x7b\x7d", "\x7b\x7d", "d", 1, 1, 1, 1⟩ 2),
  .commit (.recordPluginGeneration ⟨"a", "b", 1, "[]", "\x7b\x7d", "\x7b\x7d", "d", 1, 1, 1, 1⟩ 3),
  .commit (.stopPluginGeneration "z" ⟨"graceful", "done", "exited", some 0⟩ 5),
  .read 10,
  .commit (.stopPluginGeneration "a" ⟨"graceful", "done", "exited", some 0⟩ 5)]

set_option maxRecDepth 100000 in
/-- The second worker has stopped and the collector's next page is empty, but the collector never
received its row. -/
theorem tail_loses_tiedRun :
    Fresh (TailStep.commits tiedRun) ∧
      (0 :: committedClocks (TailStep.commits tiedRun)).Pairwise (· ≤ ·) ∧
      ¬ TailsLosslessly (generationListing : Listing Bool _) tiedRun := by
  refine ⟨by decide, by decide +kernel, fun h => ?_⟩
  let w := (generationListing : Listing Bool _).tail tiedRun
  have hempty : (generationListing : Listing Bool _).answer 10 w = .ok ([], w.store) := by
    decide +kernel
  have hlost : ∃ g ∈ w.store.pluginGenerations, g.stopped.isSome = true ∧ g ∉ w.received := by
    decide +kernel
  obtain ⟨g, hg, hstopped, hnever⟩ := hlost
  exact hnever (h.complete 10 w.store hempty tiedRun List.prefix_rfl g hg hstopped)

end Fleetd
