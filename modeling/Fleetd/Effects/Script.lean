import Mathlib.Data.List.Basic

/-!
# Computations with a record of their effects

A script is a computation that may fail and that leaves a list of the effects it had, in order.
The order of effects is stated of the list alone: each effect of one kind comes after an effect
of another.
-/

namespace Effects

variable {ε δ δ' α β : Type}

/-- A computation with the effects it had and how it ended. -/
structure Script (ε δ α : Type) where
  effects : List ε
  result : Except δ α
  deriving DecidableEq, Repr

namespace Script

/-- A script without any effect. -/
def done (a : α) : Script ε δ α := ⟨[], .ok a⟩

/-- Continues with what a script returned, unless it failed. -/
def andThen (x : Script ε δ α) (f : α → Script ε δ β) : Script ε δ β :=
  match x.result with
  | .ok a => ⟨x.effects ++ (f a).effects, (f a).result⟩
  | .error e => ⟨x.effects, .error e⟩

instance : Monad (Script ε δ) where
  pure := done
  bind := andThen

/-- A script that fails. -/
def fail (e : δ) : Script ε δ α := ⟨[], .error e⟩

/-- A script of one effect. -/
def emit (e : ε) : Script ε δ Unit := ⟨[e], .ok ()⟩

/-- The effects of a list, in order. -/
def emitAll (es : List ε) : Script ε δ Unit := ⟨es, .ok ()⟩

/-- An answer that may be a failure. -/
def lift (answer : Except δ α) : Script ε δ α := ⟨[], answer⟩

/-- A failure under another name. -/
def mapError (f : δ → δ') (x : Script ε δ α) : Script ε δ' α := ⟨x.effects, x.result.mapError f⟩

/-- Turns the end of a script into a value, so that a failure can be looked at. -/
def attempt (x : Script ε δ α) : Script ε δ' (Except δ α) := ⟨x.effects, .ok x.result⟩

@[simp] theorem pure_eq (a : α) : (pure a : Script ε δ α) = ⟨[], .ok a⟩ := rfl

@[simp] theorem bind_ok (effects : List ε) (a : α) (f : α → Script ε δ β) :
    ((⟨effects, .ok a⟩ : Script ε δ α) >>= f) = ⟨effects ++ (f a).effects, (f a).result⟩ := rfl

@[simp] theorem bind_error (effects : List ε) (e : δ) (f : α → Script ε δ β) :
    ((⟨effects, .error e⟩ : Script ε δ α) >>= f) = ⟨effects, .error e⟩ := rfl

@[simp] theorem fail_eq (e : δ) : (fail e : Script ε δ α) = ⟨[], .error e⟩ := rfl

@[simp] theorem emit_bind (e : ε) (f : Unit → Script ε δ β) :
    (emit e >>= f) = ⟨e :: (f ()).effects, (f ()).result⟩ := rfl

@[simp] theorem emitAll_bind (es : List ε) (f : Unit → Script ε δ β) :
    (emitAll es >>= f) = ⟨es ++ (f ()).effects, (f ()).result⟩ := rfl

@[simp] theorem lift_ok_bind (a : α) (f : α → Script ε δ β) :
    (lift (.ok a) >>= f) = ⟨(f a).effects, (f a).result⟩ := rfl

@[simp] theorem lift_error_bind (e : δ) (f : α → Script ε δ β) :
    (lift (.error e) >>= f) = ⟨[], .error e⟩ := rfl

@[simp] theorem attempt_bind (x : Script ε δ α) (f : Except δ α → Script ε δ' β) :
    (x.attempt >>= f) = ⟨x.effects ++ (f x.result).effects, (f x.result).result⟩ := rfl

/-- Renaming what a script returns adds no effect. -/
@[simp] theorem effects_bind_pure (x : Script ε δ α) (f : α → β) :
    (x >>= fun a => pure (f a)).effects = x.effects := by
  match x with
  | ⟨effects, .ok a⟩ => simp
  | ⟨effects, .error e⟩ => rfl

/-- What a renamed script returned was returned. -/
theorem exists_of_bind_pure_ok {x : Script ε δ α} {f : α → β} {b : β}
    (h : (x >>= fun a => pure (f a)).result = .ok b) : ∃ a, x.result = .ok a := by
  match x with
  | ⟨effects, .ok a⟩ => exact ⟨a, rfl⟩
  | ⟨effects, .error e⟩ => cases h

/-! ## Failures -/

/-- A script fails, if at all, in one way only. -/
def FailsOnly (x : Script ε δ α) (allowed : δ → Prop) : Prop := ∀ e, x.result = .error e → allowed e

section
variable {allowed : δ → Prop}

theorem FailsOnly.pure (a : α) : FailsOnly (pure a : Script ε δ α) allowed := fun _ h => nomatch h

theorem FailsOnly.emitAll (es : List ε) : FailsOnly (emitAll es : Script ε δ Unit) allowed :=
  fun _ h => nomatch h

theorem FailsOnly.emit (e : ε) : FailsOnly (emit e : Script ε δ Unit) allowed := fun _ h => nomatch h

/-- A sequence fails in the ways in which its parts do. -/
theorem FailsOnly.bind {x : Script ε δ α} {f : α → Script ε δ β} (hx : FailsOnly x allowed)
    (hf : ∀ a, FailsOnly (f a) allowed) : FailsOnly (x >>= f) allowed := by
  match x with
  | ⟨effects, .ok a⟩ => exact hf a
  | ⟨effects, .error e⟩ =>
    intro e' h
    cases h
    exact hx e rfl

/-- A failure that is looked at is one of those in which the script fails. -/
theorem FailsOnly.attempt_bind {allowed' : δ' → Prop} {x : Script ε δ' α}
    {f : Except δ' α → Script ε δ β} (hx : FailsOnly x allowed')
    (hf : ∀ result, (∀ e, result = .error e → allowed' e) → FailsOnly (f result) allowed) :
    FailsOnly (x.attempt >>= f) allowed :=
  hf x.result hx

end

/-! ## Kinds of effects -/

/-- A script has, if any, effects of one kind only. -/
def EmitsOnly (x : Script ε δ α) (allowed : ε → Prop) : Prop := ∀ e ∈ x.effects, allowed e

section
variable {allowed : ε → Prop}

theorem EmitsOnly.pure (a : α) : EmitsOnly (pure a : Script ε δ α) allowed := List.forall_mem_nil _

theorem EmitsOnly.fail (e : δ) : EmitsOnly (fail e : Script ε δ α) allowed := List.forall_mem_nil _

theorem EmitsOnly.lift (answer : Except δ α) : EmitsOnly (lift answer : Script ε δ α) allowed :=
  List.forall_mem_nil _

theorem EmitsOnly.emitAll {es : List ε} (h : ∀ e ∈ es, allowed e) :
    EmitsOnly (emitAll es : Script ε δ Unit) allowed := h

theorem EmitsOnly.emit {e : ε} (h : allowed e) : EmitsOnly (emit e : Script ε δ Unit) allowed :=
  List.forall_mem_singleton.2 h

/-- A sequence has the effects of its parts. -/
theorem EmitsOnly.bind {x : Script ε δ α} {f : α → Script ε δ β} (hx : EmitsOnly x allowed)
    (hf : ∀ a, EmitsOnly (f a) allowed) : EmitsOnly (x >>= f) allowed := by
  match x with
  | ⟨effects, .ok a⟩ => exact List.forall_mem_append.2 ⟨hx, hf a⟩
  | ⟨effects, .error e⟩ => exact hx

/-- Looking at a failure adds no effect. -/
theorem EmitsOnly.attempt_bind {x : Script ε δ' α} {f : Except δ' α → Script ε δ β}
    (hx : EmitsOnly x allowed) (hf : ∀ result, EmitsOnly (f result) allowed) :
    EmitsOnly (x.attempt >>= f) allowed :=
  List.forall_mem_append.2 ⟨hx, hf x.result⟩

end

end Script

/-! ## Order -/

/-- Each effect of one kind comes after some effect of another. -/
def EachAfter (first later : ε → Prop) (trace : List ε) : Prop :=
  ∀ before e after, trace = before ++ e :: after → later e → ∃ x ∈ before, first x

section
variable {first later : ε → Prop} {s t : List ε}

/-- Nothing has to come first where nothing comes later. -/
theorem eachAfter_of_forall_not (h : ∀ e ∈ s, ¬ later e) : EachAfter first later s := by
  intro before e after hs he
  refine absurd he (h e ?_)
  rw [hs]
  exact List.mem_append_right before (List.mem_cons_self ..)

/-- What happens after a first effect is in order. -/
theorem EachAfter.append_of_exists (h : EachAfter first later s) (hfirst : ∃ x ∈ s, first x) :
    EachAfter first later (s ++ t) := by
  intro before e after hst he
  rw [List.append_eq_append_iff] at hst
  obtain ⟨rest, rfl, _⟩ | ⟨rest, rfl, hrest⟩ := hst
  · obtain ⟨x, hx, hp⟩ := hfirst
    exact ⟨x, List.mem_append_left rest hx, hp⟩
  · cases rest with
    | nil =>
      obtain ⟨x, hx, hp⟩ := hfirst
      exact ⟨x, by simpa using hx, hp⟩
    | cons y rest =>
      obtain ⟨rfl, rfl⟩ := List.cons.inj hrest
      exact h before e rest rfl he

/-- Two parts in order are in order together. -/
theorem EachAfter.append (hs : EachAfter first later s) (ht : EachAfter first later t) :
    EachAfter first later (s ++ t) := by
  intro before e after hst he
  rw [List.append_eq_append_iff] at hst
  obtain ⟨rest, rfl, hrest⟩ | ⟨rest, rfl, hrest⟩ := hst
  · obtain ⟨x, hx, hp⟩ := ht rest e after hrest he
    exact ⟨x, List.mem_append_right s hx, hp⟩
  · cases rest with
    | nil =>
      obtain ⟨x, hx, hp⟩ := ht [] e after (by simpa using hrest.symm) he
      exact absurd hx List.not_mem_nil
    | cons y rest =>
      obtain ⟨rfl, rfl⟩ := List.cons.inj hrest
      exact hs before e rest rfl he

/-- A part that is in order by itself stays so after anything. -/
theorem EachAfter.append_left (hs : ∀ e ∈ s, ¬ later e) (ht : EachAfter first later t) :
    EachAfter first later (s ++ t) :=
  (eachAfter_of_forall_not hs).append ht

/-- An effect that nothing of the first kind comes before is out of order. -/
theorem not_eachAfter {e : ε} (hs : ∀ x ∈ s, ¬ first x) (he : later e) :
    ¬ EachAfter first later (s ++ e :: t) := by
  intro h
  obtain ⟨x, hx, hp⟩ := h s e t rfl he
  exact hs x hx hp

end

end Effects
