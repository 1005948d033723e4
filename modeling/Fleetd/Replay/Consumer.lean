import Mathlib.Data.List.Basic
import Mathlib.Data.List.Induction
import Mathlib.Data.List.Pairwise

/-!
# A consumer of a log that can be replayed

What a consumer of positioned entries sees when its connection is opened again and again.
Each attempt is opened at the position of the last accepted entry, at most one attempt is
live, an entry is offered above that position, and only the offered entry can be accepted.
A history is lawful when this machine can follow it.
-/

namespace Fleetd.Replay

/-- What happens to a consumer. -/
inductive Event (α : Type*)
  | opened (after : ℕ)
  | delivered (entry : α)
  | accepted (entry : α)
  | rejected (entry : α)
  | ended
  | closeRequested
  | finished
  deriving DecidableEq, Repr

/-- Where a consumer stands. -/
structure Consumer (α : Type*) where
  cursor : ℕ
  live : Bool
  offered : Option α
  closed : Bool
  ended : Bool

/-- A consumer that has not opened anything yet. -/
def Consumer.idle {α : Type*} (cursor : ℕ) : Consumer α := ⟨cursor, false, none, false, false⟩

section Observe

variable {α : Type*} [DecidableEq α]

/-- Follows one event, if it is lawful here. -/
def Consumer.observe (pos : α → ℕ) (c : Consumer α) : Event α → Option (Consumer α)
  | .opened after =>
    if c.live = false ∧ c.closed = false ∧ c.ended = false ∧ after = c.cursor then
      some { c with live := true }
    else none
  | .delivered entry =>
    if c.live = true ∧ c.ended = false ∧ c.offered = none ∧ c.cursor < pos entry then
      some { c with offered := some entry }
    else none
  | .accepted entry =>
    if c.offered = some entry ∧ c.ended = false then
      some { c with cursor := pos entry, offered := none }
    else none
  | .rejected entry =>
    if c.offered = some entry ∧ c.ended = false then some { c with offered := none, ended := true }
    else none
  | .ended =>
    if c.live = true ∧ c.offered = none then some { c with live := false } else none
  | .closeRequested => some { c with closed := true }
  | .finished => if c.live = false then some { c with ended := true } else none

/-- Follows a history. -/
def Consumer.follow (pos : α → ℕ) (c : Consumer α) (history : List (Event α)) : Option (Consumer α) :=
  history.foldlM (Consumer.observe pos) c

/-- The entries accepted along a history. -/
def acceptedEntries (history : List (Event α)) : List α :=
  history.filterMap fun
    | .accepted entry => some entry
    | _ => none

/-- The position after a history that began at one. -/
def positionAfter (pos : α → ℕ) (start : ℕ) (history : List (Event α)) : ℕ :=
  ((acceptedEntries history).getLast?.map pos).getD start

/-- Events that begin something or accept something. -/
def Event.isActive : Event α → Bool
  | .opened _ => true
  | .delivered _ => true
  | .accepted _ => true
  | _ => false

/-- Events that open an attempt. -/
def Event.isOpening : Event α → Bool
  | .opened _ => true
  | _ => false

/-- The number of attempts a history opened. -/
def openings (history : List (Event α)) : ℕ := history.countP Event.isOpening

/-- Events that end an attempt. -/
def Event.isEnding : Event α → Bool
  | .ended => true
  | _ => false

/-- The number of attempts a history ended. -/
def endings (history : List (Event α)) : ℕ := history.countP Event.isEnding

variable {pos : α → ℕ} {c d : Consumer α}

theorem Consumer.follow_append (history later : List (Event α)) :
    c.follow pos (history ++ later) = (c.follow pos history).bind fun d => d.follow pos later :=
  List.foldlM_append ..

theorem Consumer.follow_singleton (e : Event α) : c.follow pos [e] = c.observe pos e := by
  rw [follow, List.foldlM_cons]
  cases c.observe pos e <;> rfl

theorem Consumer.follow_cons {e : Event α} {later : List (Event α)}
    (h : c.follow pos (e :: later) = some d) :
    ∃ b, c.observe pos e = some b ∧ b.follow pos later = some d := by
  rw [follow, List.foldlM_cons] at h
  exact Option.bind_eq_some_iff.mp h

/-- A history that is followed is followed up to each of its events, and over it. -/
theorem Consumer.follow_split {before later : List (Event α)} {e : Event α}
    (h : c.follow pos (before ++ e :: later) = some d) :
    ∃ a b, c.follow pos before = some a ∧ a.observe pos e = some b ∧ b.follow pos later = some d := by
  rw [follow_append, Option.bind_eq_some_iff] at h
  obtain ⟨a, ha, h⟩ := h
  obtain ⟨b, hb, hlater⟩ := follow_cons h
  exact ⟨a, b, ha, hb, hlater⟩

/-- What one event does to the position, and what it needs. -/
theorem Consumer.observe_cursor {e : Event α} (hoffer : ∀ a ∈ c.offered, c.cursor < pos a)
    (h : c.observe pos e = some d) :
    (∀ a ∈ d.offered, d.cursor < pos a) ∧
      ((∃ a, e = .accepted a ∧ c.cursor < pos a ∧ d.cursor = pos a) ∨
        (∀ a, e ≠ .accepted a) ∧ d.cursor = c.cursor) := by
  cases e <;> simp only [observe, Option.ite_none_right_eq_some, Option.some.injEq] at h
  case opened after =>
    obtain ⟨_, rfl⟩ := h
    exact ⟨hoffer, .inr ⟨fun _ => nofun, rfl⟩⟩
  case delivered entry =>
    obtain ⟨⟨_, _, _, hlt⟩, rfl⟩ := h
    refine ⟨fun a ha => ?_, .inr ⟨fun _ => nofun, rfl⟩⟩
    cases ha
    exact hlt
  case accepted entry =>
    obtain ⟨⟨hoffered, _⟩, rfl⟩ := h
    exact ⟨fun _ ha => (by cases ha), .inl ⟨entry, rfl, hoffer entry hoffered, rfl⟩⟩
  case rejected entry =>
    obtain ⟨_, rfl⟩ := h
    exact ⟨fun _ ha => (by cases ha), .inr ⟨fun _ => nofun, rfl⟩⟩
  case ended =>
    obtain ⟨_, rfl⟩ := h
    exact ⟨hoffer, .inr ⟨fun _ => nofun, rfl⟩⟩
  case closeRequested =>
    subst h
    exact ⟨hoffer, .inr ⟨fun _ => nofun, rfl⟩⟩
  case finished =>
    obtain ⟨_, rfl⟩ := h
    exact ⟨hoffer, .inr ⟨fun _ => nofun, rfl⟩⟩

/-- The position is that of the last accepted entry, and accepted entries ascend. -/
theorem Consumer.follow_accepted {start : ℕ} {history : List (Event α)}
    (h : (idle start).follow pos history = some d) :
    (∀ a ∈ d.offered, d.cursor < pos a) ∧ d.cursor = positionAfter pos start history ∧
      (∀ a ∈ acceptedEntries history, start < pos a ∧ pos a ≤ d.cursor) ∧ start ≤ d.cursor ∧
      (acceptedEntries history).Pairwise fun a b => pos a < pos b := by
  induction history using List.reverseRecOn generalizing d with
  | nil =>
    cases h
    exact ⟨fun _ ha => (by cases ha), rfl, fun _ ha => (by cases ha), Nat.le_refl _, .nil⟩
  | append_singleton history e ih =>
    rw [follow_append, Option.bind_eq_some_iff] at h
    obtain ⟨c, hc, h⟩ := h
    rw [follow_singleton] at h
    obtain ⟨hoffer, hcursor, hall, hstart, hsorted⟩ := ih hc
    obtain ⟨hoffer', ⟨a, rfl, hlt, hd⟩ | ⟨hne, hd⟩⟩ := observe_cursor hoffer h
    · have happend : acceptedEntries (history ++ [.accepted a]) = acceptedEntries history ++ [a] :=
        List.filterMap_append
      refine ⟨hoffer', ?_, fun x hx => ?_, by omega, ?_⟩
      · rw [positionAfter, happend, List.getLast?_concat, hd]
        rfl
      · rw [happend] at hx
        rcases List.mem_append.mp hx with hx | hx
        · have := hall x hx
          omega
        · rw [List.mem_singleton.mp hx]
          omega
      · rw [happend, List.pairwise_append]
        refine ⟨hsorted, List.pairwise_singleton _ _, fun x hx y hy => ?_⟩
        rw [List.mem_singleton.mp hy]
        have := hall x hx
        omega
    · have happend : acceptedEntries (history ++ [e]) = acceptedEntries history := by
        rw [acceptedEntries, List.filterMap_append]
        cases e <;> first | exact absurd rfl (hne _) | exact List.append_nil _
      rw [positionAfter, happend]
      exact ⟨hoffer', hd ▸ hcursor, hd ▸ hall, hd ▸ hstart, hsorted⟩

/-- At most one attempt is live, and the machine knows which. -/
theorem Consumer.follow_live {start : ℕ} {history : List (Event α)}
    (h : (idle start).follow pos history = some d) :
    openings history = endings history + if d.live then 1 else 0 := by
  induction history using List.reverseRecOn generalizing d with
  | nil =>
    cases h
    rfl
  | append_singleton history e ih =>
    rw [follow_append, Option.bind_eq_some_iff] at h
    obtain ⟨c, hc, h⟩ := h
    rw [follow_singleton] at h
    have hcount := ih hc
    rw [openings, endings, List.countP_append, List.countP_append, ← openings, ← endings, hcount]
    cases e <;> simp only [observe, Option.ite_none_right_eq_some, Option.some.injEq] at h
    case opened after =>
      obtain ⟨⟨hlive, _⟩, rfl⟩ := h
      simp [Event.isOpening, Event.isEnding, hlive]
    case ended =>
      obtain ⟨⟨hlive, _⟩, rfl⟩ := h
      simp [Event.isOpening, Event.isEnding, hlive]
    case closeRequested =>
      subst h
      simp [Event.isOpening, Event.isEnding]
    all_goals
      obtain ⟨_, rfl⟩ := h
      simp [Event.isOpening, Event.isEnding]

/-- Once over, nothing begins and nothing is accepted, and it stays over. -/
theorem Consumer.follow_over {later : List (Event α)} (hover : c.ended = true)
    (h : c.follow pos later = some d) : d.ended = true ∧ ∀ e ∈ later, e.isActive = false := by
  induction later generalizing c with
  | nil =>
    cases h
    exact ⟨hover, fun _ he => (by cases he)⟩
  | cons e later ih =>
    obtain ⟨b, hb, hlater⟩ := follow_cons h
    have hnext : b.ended = true ∧ e.isActive = false := by
      cases e <;> simp only [observe, Option.ite_none_right_eq_some, Option.some.injEq, hover] at hb
      case closeRequested =>
        subst hb
        exact ⟨rfl, rfl⟩
      case ended =>
        obtain ⟨_, rfl⟩ := hb
        exact ⟨rfl, rfl⟩
      case finished =>
        obtain ⟨_, rfl⟩ := hb
        exact ⟨rfl, rfl⟩
      all_goals simp at hb
    refine ⟨(ih hnext.1 hlater).1, fun x hx => ?_⟩
    rcases List.mem_cons.mp hx with rfl | hx
    · exact hnext.2
    · exact (ih hnext.1 hlater).2 x hx

/-- Once closed, nothing is opened. -/
theorem Consumer.follow_closed {later : List (Event α)} (hclosed : c.closed = true)
    (h : c.follow pos later = some d) : ∀ e ∈ later, e.isOpening = false := by
  induction later generalizing c with
  | nil => exact fun _ he => (by cases he)
  | cons e later ih =>
    obtain ⟨b, hb, hlater⟩ := follow_cons h
    have hnext : b.closed = true ∧ e.isOpening = false := by
      cases e <;> simp only [observe, Option.ite_none_right_eq_some, Option.some.injEq, hclosed] at hb
      case opened after => simp at hb
      case closeRequested =>
        subst hb
        exact ⟨rfl, rfl⟩
      all_goals
        obtain ⟨_, rfl⟩ := hb
        exact ⟨rfl, rfl⟩
    intro x hx
    rcases List.mem_cons.mp hx with rfl | hx
    · exact hnext.2
    · exact ih hnext.1 hlater x hx

end Observe

end Fleetd.Replay
