import Mathlib.Data.List.Induction

/-!
# Running digests

A running digest folds a list into one value: each element is digested and linked to the
value so far. When no two inputs that were actually digested or linked collide, the value
identifies the list. Byte strings that are joined by a separator are read back as long as
the separator does not occur in the first of them.
-/

namespace Fleetd.Evidence

variable {α β δ : Type*}

/-- A function that separates the members of a list. -/
def CollisionFree (f : α → β) (xs : List α) : Prop :=
  ∀ x ∈ xs, ∀ y ∈ xs, f x = f y → x = y

instance [DecidableEq α] [DecidableEq β] (f : α → β) (xs : List α) :
    Decidable (CollisionFree f xs) :=
  inferInstanceAs (Decidable (∀ x ∈ xs, ∀ y ∈ xs, f x = f y → x = y))

/-- Separating more members separates fewer of them. -/
theorem CollisionFree.mono {f : α → β} {xs ys : List α} (h : CollisionFree f ys) (hsub : xs ⊆ ys) :
    CollisionFree f xs :=
  fun x hx y hy => h x (hsub hx) y (hsub hy)

section Chain

variable (link : Option δ → δ → δ) (digest : α → δ)

/-- The running digest of a list, absent for the empty one. -/
def chain (es : List α) : Option δ :=
  es.foldl (fun previous e => some (link previous (digest e))) none

/-- The pairs that are linked from some value on. -/
def linkedFrom : Option δ → List α → List (Option δ × δ)
  | _, [] => []
  | previous, e :: es =>
    (previous, digest e) :: linkedFrom (some (link previous (digest e))) es

/-- The pairs that are linked while a list is digested. -/
def linked (es : List α) : List (Option δ × δ) := linkedFrom link digest none es

@[simp] theorem chain_nil : chain link digest [] = none := rfl

/-- The last element is linked to the digest of the others. -/
@[simp] theorem chain_concat (es : List α) (e : α) :
    chain link digest (es ++ [e]) = some (link (chain link digest es) (digest e)) := by
  simp [chain, List.foldl_append]

/-- Only the empty list has no running digest. -/
theorem chain_eq_none {es : List α} : chain link digest es = none ↔ es = [] := by
  induction es using List.reverseRecOn with
  | nil => simp
  | append_singleton es e _ => simp

/-- The last link from some value on. -/
theorem linkedFrom_concat (previous : Option δ) (es : List α) (e : α) :
    linkedFrom link digest previous (es ++ [e]) = linkedFrom link digest previous es ++
      [(es.foldl (fun previous e => some (link previous (digest e))) previous, digest e)] := by
  induction es generalizing previous with
  | nil => rfl
  | cons x es ih =>
    rw [List.cons_append, linkedFrom, ih, linkedFrom, List.foldl_cons, List.cons_append]

/-- The last link of a list is to the digest of the others. -/
theorem linked_concat (es : List α) (e : α) :
    linked link digest (es ++ [e]) =
      linked link digest es ++ [(chain link digest es, digest e)] :=
  linkedFrom_concat link digest none es e

/-- What is linked to is the start or a link. -/
theorem linked_fst {es : List α} {p : Option δ × δ} (h : p ∈ linked link digest es) {d : δ}
    (hd : p.1 = some d) : ∃ previous event, d = link previous event := by
  induction es using List.reverseRecOn with
  | nil => cases h
  | append_singleton es e ih =>
    rw [linked_concat] at h
    rcases List.mem_append.mp h with h | h
    · exact ih h
    · rw [List.mem_singleton.mp h] at hd
      cases es using List.reverseRecOn with
      | nil => cases hd
      | append_singleton fs f =>
        rw [chain_concat] at hd
        exact ⟨_, _, (Option.some.inj hd).symm⟩

variable {link digest}

/-- Lists with the same running digest are the same list, when neither the digests of their
elements nor the links made for them collide. -/
theorem chain_injective {es es' : List α}
    (hlink : CollisionFree (fun p => link p.1 p.2) (linked link digest es ++ linked link digest es'))
    (hdigest : CollisionFree digest (es ++ es'))
    (h : chain link digest es = chain link digest es') : es = es' := by
  induction es using List.reverseRecOn generalizing es' with
  | nil => exact ((chain_eq_none link digest).mp h.symm).symm
  | append_singleton es e ih =>
    cases es' using List.reverseRecOn with
    | nil =>
      rw [chain_concat] at h
      cases h
    | append_singleton fs f =>
      rw [chain_concat, chain_concat] at h
      rw [linked_concat, linked_concat] at hlink
      -- the last links agree, so the earlier digests and the last elements do
      have hpair : (chain link digest es, digest e) = (chain link digest fs, digest f) :=
        hlink _ (by simp) _ (by simp) (Option.some.inj h)
      obtain ⟨hchain, hlast⟩ := Prod.ext_iff.mp hpair
      have hsame : es = fs := by
        refine ih (hlink.mono fun p hp => ?_) (hdigest.mono fun x hx => ?_) hchain
        · rcases List.mem_append.mp hp with hp | hp <;> simp [hp]
        · rcases List.mem_append.mp hx with hx | hx <;> simp [hx]
      rw [hsame, hdigest e (by simp) f (by simp) hlast]

end Chain

/-- Two parts joined by a separator that the first part does not contain are read back. -/
theorem separator_injective {sep : α} {a a' b b' : List α} (ha : sep ∉ a) (ha' : sep ∉ a')
    (h : a ++ [sep] ++ b = a' ++ [sep] ++ b') : a = a' ∧ b = b' := by
  induction a generalizing a' with
  | nil =>
    cases a' with
    | nil => exact ⟨rfl, by simpa using h⟩
    | cons x xs =>
      simp only [List.nil_append, List.cons_append, List.cons.injEq] at h
      exact absurd (h.1 ▸ List.mem_cons_self) ha'
  | cons x xs ih =>
    cases a' with
    | nil =>
      simp only [List.nil_append, List.cons_append, List.cons.injEq] at h
      exact absurd (h.1 ▸ List.mem_cons_self) ha
    | cons y ys =>
      simp only [List.cons_append, List.cons.injEq] at h
      obtain ⟨hxs, hb⟩ := ih (fun hmem => ha (List.mem_cons_of_mem _ hmem))
        (fun hmem => ha' (List.mem_cons_of_mem _ hmem)) h.2
      exact ⟨by rw [h.1, hxs], hb⟩

end Fleetd.Evidence
