import Mathlib.Tactic.Common

/-!
# Transactions over a state

A transaction reads and writes a state and may stop with an error. The state is returned
only on success, so an error is a rollback: its caller still holds the state from before.
Each combinator has one equation for running it and one lemma that says when it succeeds;
inverting a program is a chain of the latter.
-/

namespace Fleetd.Relational

/-- A state transformer whose failures discard every write. -/
abbrev Transaction (σ ε α : Type) := StateT σ (Except ε) α

namespace Transaction

variable {σ ε α β : Type}

/-- Evaluate a query on the current state. -/
def read (q : σ → α) : Transaction σ ε α := fun s => .ok (q s, s)

/-- Apply a statement to the current state and return what it reports. -/
def write (f : σ → α × σ) : Transaction σ ε α := fun s => .ok (f s)

/-- Stop with an error unless a condition holds. -/
def ensure (c : Prop) [Decidable c] (e : ε) : Transaction σ ε Unit :=
  fun s => if c then .ok ((), s) else .error e

/-- Stop with an error. -/
def fail (e : ε) : Transaction σ ε α := fun _ => .error e

/-- Run a check that does not look at the state. -/
def check (v : Except ε α) : Transaction σ ε α :=
  fun s => match v with
    | .ok a => .ok (a, s)
    | .error e => .error e

/-- Unwrap an optional row, stopping with an error when it is absent. -/
def require (o : Option α) (e : ε) : Transaction σ ε α :=
  fun s => match o with
    | some a => .ok (a, s)
    | none => .error e

/-- Put back an earlier state. -/
def rollback (s₀ : σ) : Transaction σ ε Unit := fun _ => .ok ((), s₀)

/-- The state a caller holds after running a transaction, whatever it returned. -/
def commit (x : Transaction σ ε α) (s : σ) : σ :=
  match x s with
  | .ok (_, t) => t
  | .error _ => s

section Run

variable (s : σ)

theorem bind_run (x : Transaction σ ε α) (f : α → Transaction σ ε β) :
    (x >>= f) s = match x s with
      | .ok (a, t) => f a t
      | .error e => .error e := by
  change (Except.bind (x s) fun p => f p.1 p.2) = _
  cases x s <;> rfl

@[simp] theorem pure_run (a : α) : (pure a : Transaction σ ε α) s = .ok (a, s) := rfl

@[simp] theorem read_run (q : σ → α) : (read q : Transaction σ ε α) s = .ok (q s, s) := rfl

@[simp] theorem write_run (f : σ → α × σ) : (write f : Transaction σ ε α) s = .ok (f s) := rfl

@[simp] theorem fail_run (e : ε) : (fail e : Transaction σ ε α) s = .error e := rfl

@[simp] theorem ensure_run (c : Prop) [Decidable c] (e : ε) :
    (ensure c e : Transaction σ ε Unit) s = if c then .ok ((), s) else .error e := rfl

@[simp] theorem check_ok_run (a : α) : (check (.ok a) : Transaction σ ε α) s = .ok (a, s) := rfl

@[simp] theorem check_error_run (e : ε) : (check (.error e) : Transaction σ ε α) s = .error e := rfl

@[simp] theorem require_some_run (a : α) (e : ε) :
    (require (some a) e : Transaction σ ε α) s = .ok (a, s) := rfl

@[simp] theorem require_none_run (e : ε) :
    (require none e : Transaction σ ε α) s = .error e := rfl

@[simp] theorem rollback_run (s₀ : σ) :
    (rollback s₀ : Transaction σ ε Unit) s = .ok ((), s₀) := rfl

end Run

section Inversion

variable {s t : σ}

/-- A sequence succeeds when its first part succeeds and the rest succeeds from there. -/
theorem bind_ok {x : Transaction σ ε α} {f : α → Transaction σ ε β} {b : β} :
    (x >>= f) s = .ok (b, t) ↔ ∃ a s₁, x s = .ok (a, s₁) ∧ f a s₁ = .ok (b, t) := by
  rw [bind_run]
  cases h : x s with
  | error e => simp
  | ok p =>
    obtain ⟨a, u⟩ := p
    simp

theorem pure_ok {a b : α} : (pure a : Transaction σ ε α) s = .ok (b, t) ↔ a = b ∧ s = t := by
  simp

theorem read_ok {q : σ → α} {b : α} :
    (read q : Transaction σ ε α) s = .ok (b, t) ↔ q s = b ∧ s = t := by
  simp

theorem write_ok {f : σ → α × σ} {b : α} :
    (write f : Transaction σ ε α) s = .ok (b, t) ↔ f s = (b, t) := by
  simp

theorem fail_ok {e : ε} {b : α} : (fail e : Transaction σ ε α) s = .ok (b, t) ↔ False := by
  simp

theorem ensure_ok {c : Prop} [Decidable c] {e : ε} {u : Unit} :
    (ensure c e : Transaction σ ε Unit) s = .ok (u, t) ↔ c ∧ s = t := by
  by_cases hc : c <;> simp [hc]

theorem check_ok {v : Except ε α} {b : α} :
    (check v : Transaction σ ε α) s = .ok (b, t) ↔ v = .ok b ∧ s = t := by
  cases v <;> simp

theorem require_ok {o : Option α} {e : ε} {b : α} :
    (require o e : Transaction σ ε α) s = .ok (b, t) ↔ o = some b ∧ s = t := by
  cases o <;> simp

theorem rollback_ok {s₀ : σ} {u : Unit} :
    (rollback s₀ : Transaction σ ε Unit) s = .ok (u, t) ↔ s₀ = t := by
  simp

/-- A committed result is the state the transaction returned. -/
theorem commit_of_ok {x : Transaction σ ε α} {a : α} (h : x s = .ok (a, t)) : commit x s = t := by
  simp [commit, h]

/-- An error leaves the caller's state alone. -/
theorem commit_of_error {x : Transaction σ ε α} {e : ε} (h : x s = .error e) : commit x s = s := by
  simp [commit, h]

/-- Every committed state was returned by the transaction or is the old state. -/
theorem commit_cases (x : Transaction σ ε α) (s : σ) :
    (∃ a, x s = .ok (a, commit x s)) ∨ (∃ e, x s = .error e) ∧ commit x s = s := by
  cases h : x s with
  | ok p => exact .inl ⟨p.1, by simp [commit, h]⟩
  | error e => exact .inr ⟨⟨e, rfl⟩, commit_of_error h⟩

end Inversion

end Transaction

end Fleetd.Relational
