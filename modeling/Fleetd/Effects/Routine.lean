import Mathlib.Tactic.Common

/-!
# Routines that may leave

A routine is a computation over a state that returns a value or leaves for good. What it did to
the state stays in either case. A triple says of every state with a property where a routine
returns and where it leaves; each combinator has one rule for it.
-/

namespace Effects

/-- A computation over a state that returns or leaves. -/
def Routine (σ ε α : Type) : Type := σ → Except ε α × σ

namespace Routine

variable {σ ε δ α β : Type}

/-- Continues with what a routine returned, unless it left. -/
def andThen (x : Routine σ ε α) (f : α → Routine σ ε β) : Routine σ ε β := fun s =>
  match x s with
  | (.ok a, t) => f a t
  | (.error e, t) => (.error e, t)

instance : Monad (Routine σ ε) where
  pure a := fun s => (.ok a, s)
  bind := andThen

/-- Leaves with an exit. -/
def leave (e : ε) : Routine σ ε α := fun s => (.error e, s)

/-- Evaluates a question about the current state. -/
def ask (q : σ → α) : Routine σ ε α := fun s => (.ok (q s), s)

/-- Changes the state and returns what the change reports. -/
def act (f : σ → α × σ) : Routine σ ε α := fun s => (.ok (f s).1, (f s).2)

/-- Turns the end of a routine into a value, so that an exit can be looked at. -/
def attempt (x : Routine σ ε α) : Routine σ δ (Except ε α) := fun s => (.ok (x s).1, (x s).2)

/-- Goes through a list, unless it leaves on the way. -/
def each (f : α → Routine σ ε Unit) : List α → Routine σ ε Unit
  | [] => pure ()
  | a :: rest => do
    f a
    each f rest

@[simp] theorem pure_run (a : α) (s : σ) : (pure a : Routine σ ε α) s = (.ok a, s) := rfl

@[simp] theorem leave_run (e : ε) (s : σ) : (leave e : Routine σ ε α) s = (.error e, s) := rfl

@[simp] theorem ask_run (q : σ → α) (s : σ) : (ask q : Routine σ ε α) s = (.ok (q s), s) := rfl

@[simp] theorem act_run (f : σ → α × σ) (s : σ) :
    (act f : Routine σ ε α) s = (.ok (f s).1, (f s).2) := rfl

@[simp] theorem attempt_run (x : Routine σ ε α) (s : σ) :
    (attempt x : Routine σ δ (Except ε α)) s = (.ok (x s).1, (x s).2) := rfl

/-- A routine that returned is continued from where it returned. -/
theorem bind_of_ok {x : Routine σ ε α} {f : α → Routine σ ε β} {s t : σ} {a : α}
    (h : x s = (.ok a, t)) : (x >>= f) s = f a t := by
  change andThen x f s = f a t
  rw [andThen, h]

/-- A routine that left is not continued. -/
theorem bind_of_error {x : Routine σ ε α} {f : α → Routine σ ε β} {s t : σ} {e : ε}
    (h : x s = (.error e, t)) : (x >>= f) s = (.error e, t) := by
  change andThen x f s = (.error e, t)
  rw [andThen, h]

/-! ## Triples -/

/-- From a state with a property, a routine returns to one end or leaves to another. -/
def Meets (P : σ → Prop) (x : Routine σ ε α) (Q : α → σ → Prop) (E : ε → σ → Prop) : Prop :=
  ∀ s, P s → match x s with
    | (.ok a, t) => Q a t
    | (.error e, t) => E e t

variable {P P' : σ → Prop} {Q Q' : α → σ → Prop} {R : β → σ → Prop} {E E' : ε → σ → Prop}

/-- What a routine that returned has met. -/
theorem Meets.of_ok {x : Routine σ ε α} (h : Meets P x Q E) {s t : σ} {a : α} (hs : P s)
    (hx : x s = (.ok a, t)) : Q a t := by
  have hmeets := h s hs
  rw [hx] at hmeets
  exact hmeets

/-- What a routine that left has met. -/
theorem Meets.of_error {x : Routine σ ε α} (h : Meets P x Q E) {s t : σ} {e : ε} (hs : P s)
    (hx : x s = (.error e, t)) : E e t := by
  have hmeets := h s hs
  rw [hx] at hmeets
  exact hmeets

theorem Meets.pure {a : α} (h : ∀ s, P s → Q a s) :
    Meets P (pure a : Routine σ ε α) Q E :=
  fun s hs => h s hs

theorem Meets.leave {e : ε} (h : ∀ s, P s → E e s) :
    Meets P (leave e : Routine σ ε α) Q E :=
  fun s hs => h s hs

theorem Meets.ask {q : σ → α} (h : ∀ s, P s → Q (q s) s) :
    Meets P (ask q : Routine σ ε α) Q E :=
  fun s hs => h s hs

theorem Meets.act {f : σ → α × σ} (h : ∀ s, P s → Q (f s).1 (f s).2) :
    Meets P (act f : Routine σ ε α) Q E :=
  fun s hs => h s hs

/-- A sequence meets what its parts meet one after the other. -/
theorem Meets.bind {x : Routine σ ε α} {f : α → Routine σ ε β} (hx : Meets P x Q E)
    (hf : ∀ a, Meets (Q a) (f a) R E) : Meets P (x >>= f) R E := by
  intro s hs
  cases h : x s with
  | mk result t =>
    cases result with
    | ok a =>
      rw [bind_of_ok h]
      exact hf a t (hx.of_ok hs h)
    | error e =>
      rw [bind_of_error h]
      exact hx.of_error hs h

/-- A sequence goes on with the one value that its first part returns. -/
theorem Meets.bind_eq {x : Routine σ ε α} {a : α} {f : α → Routine σ ε β} {S : σ → Prop}
    (hx : Meets P x (fun b s => b = a ∧ S s) E) (hf : Meets S (f a) R E) : Meets P (x >>= f) R E :=
  hx.bind fun b s ⟨hb, hs⟩ => by
    subst hb
    exact hf s hs

/-- What holds of the elements that were gone through, one more element at a time, holds of all. -/
theorem Meets.each {I : List α → σ → Prop} {f : α → Routine σ ε Unit} {items : List α}
    (step : ∀ seen item rest, items = seen ++ item :: rest →
      Meets (I seen) (f item) (fun _ => I (seen ++ [item])) E) :
    Meets (I []) (each f items) (fun _ => I items) E := by
  suffices hrest : ∀ rest seen, items = seen ++ rest →
      Meets (I seen) (Routine.each f rest) (fun _ => I items) E from hrest items [] rfl
  intro rest
  induction rest with
  | nil =>
    rintro seen rfl
    rw [List.append_nil]
    exact Meets.pure fun _ hs => hs
  | cons item rest ih =>
    intro seen hsplit
    refine (step seen item rest hsplit).bind fun _ => ?_
    exact ih (seen ++ [item]) (by rw [hsplit, List.append_assoc, List.singleton_append])

/-- An exit that is looked at is met as a value. -/
theorem Meets.attempt {x : Routine σ ε α} {F : δ → σ → Prop} (hx : Meets P x Q E) :
    Meets P (attempt x : Routine σ δ (Except ε α))
      (fun result t => match result with
        | .ok a => Q a t
        | .error e => E e t) F := by
  intro s hs
  cases h : x s with
  | mk result t =>
    cases result with
    | ok a =>
      rw [attempt_run, h]
      exact hx.of_ok hs h
    | error e =>
      rw [attempt_run, h]
      exact hx.of_error hs h

/-- More may be asked of the start, and less of the ends. -/
theorem Meets.weaken {x : Routine σ ε α} (hx : Meets P x Q E) (hP : ∀ s, P' s → P s)
    (hQ : ∀ a t, Q a t → Q' a t) (hE : ∀ e t, E e t → E' e t) : Meets P' x Q' E' := by
  intro s hs
  cases h : x s with
  | mk result t =>
    cases result with
    | ok a => exact hQ a t (hx.of_ok (hP s hs) h)
    | error e => exact hE e t (hx.of_error (hP s hs) h)

/-- A fact that does not depend on the state may be assumed. -/
theorem Meets.assume {x : Routine σ ε α} {fact : Prop} (h : fact → Meets P x Q E) :
    Meets (fun s => fact ∧ P s) x Q E :=
  fun s hs => h hs.1 s hs.2

end Routine

end Effects
