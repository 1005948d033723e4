import Mathlib.Data.List.Nodup
import Mathlib.Data.List.Perm.Basic

/-!
# Things that are in one place at a time

A history of events about numbered things, and the places where the live ones are. Each place
knows the whole lifeline of what is in it. A thing that moves gets one more event and one other
place; a thing that is let go gets a last event and no place; a new thing takes the next number.
-/

namespace Fleetd.Tally

variable {ε : Type*}

/-- The events about one thing, in order. -/
def lifeline (history : List (ℕ × ε)) (id : ℕ) : List ε :=
  history.filterMap fun entry => if entry.1 = id then some entry.2 else none

/-- The places hold different things whose lifelines they know, and every lifeline is lawful. -/
structure Tracks (lawful : List ε → Prop) (bound : ℕ) (places : List (ℕ × List ε))
    (history : List (ℕ × ε)) : Prop where
  nodup : (places.map Prod.fst).Nodup
  below : ∀ place ∈ places, place.1 < bound
  placed : ∀ place ∈ places, lifeline history place.1 = place.2
  fresh : ∀ id, bound ≤ id → lifeline history id = []
  lawful : ∀ id, lawful (lifeline history id)

variable {lawful : List ε → Prop} {bound id : ℕ} {places places' : List (ℕ × List ε)}
  {history : List (ℕ × ε)} {line : List ε} {event : ε}

theorem lifeline_append (history later : List (ℕ × ε)) (id : ℕ) :
    lifeline (history ++ later) id = lifeline history id ++ lifeline later id :=
  List.filterMap_append

/-- An event is on the lifeline of its thing. -/
theorem lifeline_concat_self (history : List (ℕ × ε)) (id : ℕ) (event : ε) :
    lifeline (history ++ [(id, event)]) id = lifeline history id ++ [event] := by
  rw [lifeline_append]
  simp [lifeline]

/-- An event is on no other lifeline. -/
theorem lifeline_concat_ne {other : ℕ} (history : List (ℕ × ε)) (event : ε) (h : other ≠ id) :
    lifeline (history ++ [(id, event)]) other = lifeline history other := by
  rw [lifeline_append]
  simp [lifeline, Ne.symm h]

theorem Tracks.nil (h : lawful []) : Tracks lawful bound [] [] :=
  ⟨.nil, fun _ hp => (by cases hp), fun _ hp => (by cases hp), fun _ _ => rfl, fun _ => h⟩

theorem Tracks.perm (h : Tracks lawful bound places history) (hperm : places.Perm places') :
    Tracks lawful bound places' history where
  nodup := (hperm.map _).nodup h.nodup
  below place hp := h.below place (hperm.mem_iff.mpr hp)
  placed place hp := h.placed place (hperm.mem_iff.mpr hp)
  fresh := h.fresh
  lawful := h.lawful

/-- A thing that is let go leaves its place with a last event. -/
theorem Tracks.drop (h : Tracks lawful bound ((id, line) :: places) history)
    (hlawful : lawful (line ++ [event])) :
    Tracks lawful bound places (history ++ [(id, event)]) := by
  have hself : lifeline history id = line := h.placed (id, line) (List.mem_cons_self ..)
  have hbelow : id < bound := h.below (id, line) (List.mem_cons_self ..)
  obtain ⟨hnot, hnodup⟩ := List.nodup_cons.mp h.nodup
  refine ⟨hnodup, fun place hp => h.below place (List.mem_cons_of_mem _ hp), fun place hp => ?_,
    fun other hother => ?_, fun other => ?_⟩
  · have hne : place.1 ≠ id := fun heq => hnot (List.mem_map.mpr ⟨place, hp, heq⟩)
    rw [lifeline_concat_ne _ _ hne]
    exact h.placed place (List.mem_cons_of_mem _ hp)
  · rw [lifeline_concat_ne _ _ (by omega)]
    exact h.fresh other hother
  · by_cases hother : other = id
    · rw [hother, lifeline_concat_self, hself]
      exact hlawful
    · rw [lifeline_concat_ne _ _ hother]
      exact h.lawful other

/-- A thing that moves is in its new place with one more event. -/
theorem Tracks.move (h : Tracks lawful bound ((id, line) :: places) history)
    (hlawful : lawful (line ++ [event])) :
    Tracks lawful bound ((id, line ++ [event]) :: places) (history ++ [(id, event)]) := by
  have hself : lifeline history id = line := h.placed (id, line) (List.mem_cons_self ..)
  have hrest := h.drop hlawful
  refine ⟨h.nodup, fun place hp => ?_, fun place hp => ?_, hrest.fresh, hrest.lawful⟩
  · rcases List.mem_cons.mp hp with rfl | hp
    · exact h.below (id, line) (List.mem_cons_self ..)
    · exact hrest.below place hp
  · rcases List.mem_cons.mp hp with rfl | hp
    · rw [lifeline_concat_self, hself]
    · exact hrest.placed place hp

/-- Several things are let go one after the other. -/
theorem Tracks.dropAll (event : ε) {gone : List (ℕ × List ε)}
    (h : Tracks lawful bound (gone ++ places) history)
    (hlawful : ∀ place ∈ gone, lawful (place.2 ++ [event])) :
    Tracks lawful bound places (history ++ gone.map fun place => (place.1, event)) := by
  induction gone generalizing history with
  | nil => simpa using h
  | cons place gone ih =>
    have hfirst := Tracks.drop h (hlawful place (List.mem_cons_self ..))
    have hrest := ih hfirst fun other hother => hlawful other (List.mem_cons_of_mem _ hother)
    rwa [List.append_assoc] at hrest

/-- A new thing takes the next number. -/
theorem Tracks.add (event : ε) (h : Tracks lawful bound places history) (hlawful : lawful [event]) :
    Tracks lawful (bound + 1) ((bound, [event]) :: places) (history ++ [(bound, event)]) := by
  have hself : lifeline (history ++ [(bound, event)]) bound = [event] := by
    rw [lifeline_concat_self, h.fresh bound (Nat.le_refl _), List.nil_append]
  have hnot : bound ∉ places.map Prod.fst := fun hmem => by
    obtain ⟨place, hp, heq⟩ := List.mem_map.mp hmem
    have := h.below place hp
    omega
  refine ⟨List.nodup_cons.mpr ⟨hnot, h.nodup⟩, fun place hp => ?_, fun place hp => ?_,
    fun other hother => ?_, fun other => ?_⟩
  · rcases List.mem_cons.mp hp with rfl | hp
    · exact Nat.lt_succ_self _
    · exact Nat.lt_succ_of_lt (h.below place hp)
  · rcases List.mem_cons.mp hp with rfl | hp
    · exact hself
    · rw [lifeline_concat_ne _ _ (Nat.ne_of_lt (h.below place hp))]
      exact h.placed place hp
  · rw [lifeline_concat_ne _ _ (by omega)]
    exact h.fresh other (by omega)
  · by_cases hother : other = bound
    · rw [hother, hself]
      exact hlawful
    · rw [lifeline_concat_ne _ _ hother]
      exact h.lawful other

/-- A list is what stands at a position and the rest. -/
theorem perm_cons_eraseIdx {α : Type*} {l : List α} {i : ℕ} {x : α} (h : l[i]? = some x) :
    l.Perm (x :: l.eraseIdx i) := by
  induction l generalizing i with
  | nil => cases h
  | cons y l ih =>
    cases i with
    | zero =>
      cases h
      exact .refl _
    | succ i => exact ((ih (by simpa using h)).cons y).trans (.swap x y _)

end Fleetd.Tally
