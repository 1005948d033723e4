import Mathlib.Data.List.Basic

/-!
# Tables of tasks

Tasks are numbered in the order in which they were started, and keep their numbers. What is known
of one task is a property of its entry; a step changes one entry, or starts a task.
-/

namespace Effects

variable {α β : Type} {tasks : List α} {number other : Nat} {P Q : α → Prop}

/-- What is true of a task. -/
def TaskIs (tasks : List α) (number : Nat) (P : α → Prop) : Prop :=
  ∃ task, tasks[number]? = some task ∧ P task

instance (tasks : List α) (number : Nat) (P : α → Prop) [DecidablePred P] :
    Decidable (TaskIs tasks number P) :=
  decidable_of_iff (∃ task ∈ tasks[number]?, P task) Iff.rfl

/-- What follows from it is true of the task as well. -/
theorem TaskIs.imp (h : TaskIs tasks number P) (hPQ : ∀ task, P task → Q task) :
    TaskIs tasks number Q := by
  obtain ⟨task, htask, hP⟩ := h
  exact ⟨task, htask, hPQ task hP⟩

/-- A task has one entry. -/
theorem TaskIs.and (h : TaskIs tasks number P) (h' : TaskIs tasks number Q) :
    TaskIs tasks number fun task => P task ∧ Q task := by
  obtain ⟨task, htask, hP⟩ := h
  obtain ⟨same, hsame, hQ⟩ := h'
  obtain rfl : task = same := Option.some.inj (htask.symm.trans hsame)
  exact ⟨task, htask, hP, hQ⟩

/-- A task that is in the table has a number below its length. -/
theorem TaskIs.lt (h : TaskIs tasks number P) : number < tasks.length := by
  obtain ⟨task, htask, -⟩ := h
  exact (List.getElem?_eq_some_iff.1 htask).1

/-- What is true of a task after one of them changed. -/
theorem taskIs_modify {f : α → α} : TaskIs (tasks.modify other f) number P ↔
    other = number ∧ TaskIs tasks number (fun task => P (f task)) ∨
      other ≠ number ∧ TaskIs tasks number P := by
  unfold TaskIs
  rw [List.getElem?_modify]
  by_cases hother : other = number
  · cases tasks[number]? with
    | none => simp
    | some task => simp [hother]
  · cases tasks[number]? with
    | none => simp
    | some task => simp [hother]

/-- A change of one task that does not concern a property. -/
theorem taskIs_modify_iff {f : α → α} (changed : ∀ task, P (f task) ↔ P task) :
    TaskIs (tasks.modify other f) number P ↔ TaskIs tasks number P := by
  rw [taskIs_modify]
  simp only [changed]
  rw [← or_and_right]
  exact and_iff_right (Decidable.em _)

/-- A new task comes last. -/
theorem taskIs_append {task : α} : TaskIs (tasks ++ [task]) number P ↔
    TaskIs tasks number P ∨ number = tasks.length ∧ P task := by
  unfold TaskIs
  rw [List.getElem?_append]
  by_cases hlt : number < tasks.length
  · rw [if_pos hlt]
    constructor
    · exact Or.inl
    · rintro (h | ⟨rfl, -⟩)
      · exact h
      · exact absurd hlt (Nat.lt_irrefl _)
  · rw [if_neg hlt, List.getElem?_eq_none (Nat.not_lt.1 hlt), List.getElem?_singleton]
    constructor
    · rintro ⟨found, hfound, hP⟩
      split at hfound
      · cases hfound
        exact .inr ⟨by omega, hP⟩
      · cases hfound
    · rintro (⟨found, hfound, -⟩ | ⟨rfl, hP⟩)
      · cases hfound
      · exact ⟨task, by rw [Nat.sub_self, if_pos rfl], hP⟩

/-- A task that is put in the place of another. -/
theorem taskIs_set {before after : α} (found : tasks[other]? = some before) :
    TaskIs (tasks.set other after) number P ↔
      number = other ∧ P after ∨ number ≠ other ∧ TaskIs tasks number P := by
  unfold TaskIs
  obtain ⟨hlt, -⟩ := List.getElem?_eq_some_iff.1 found
  by_cases hother : number = other
  · subst hother
    rw [List.getElem?_set_self hlt]
    simp
  · rw [List.getElem?_set_ne (Ne.symm hother)]
    simp [hother]

/-- A change of one task that keeps what is read off every task. -/
theorem tasks_map_modify {f : α → α} {g : α → β} (h : ∀ task, g (f task) = g task) :
    (tasks.modify other f).map g = tasks.map g := by
  apply List.ext_getElem?
  intro number
  rw [List.getElem?_map, List.getElem?_map, List.getElem?_modify]
  cases tasks[number]? with
  | none => rfl
  | some task =>
    split
    · exact congrArg some (h task)
    · rfl

/-- A task in the place of another of which the same is read off. -/
theorem tasks_map_set {before after : α} {g : α → β} (found : tasks[other]? = some before)
    (h : g after = g before) : (tasks.set other after).map g = tasks.map g := by
  obtain ⟨hlt, -⟩ := List.getElem?_eq_some_iff.1 found
  apply List.ext_getElem?
  intro number
  rw [List.getElem?_map, List.getElem?_map, List.getElem?_set]
  by_cases hother : other = number
  · subst hother
    rw [found, if_pos rfl, if_pos hlt]
    exact congrArg some h
  · rw [if_neg hother]

/-- What stays where it was in a longer list. -/
theorem getElem?_of_earlier {later : List α} {task : α} (h : tasks <+: later)
    (htask : tasks[number]? = some task) : later[number]? = some task := by
  obtain ⟨rest, rfl⟩ := h
  obtain ⟨hlt, -⟩ := List.getElem?_eq_some_iff.1 htask
  rwa [List.getElem?_append_left hlt]

end Effects
