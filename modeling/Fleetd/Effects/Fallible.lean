import Mathlib.Data.List.Forall2

/-!
# Computations that may fail

What a successful computation has gone through: each part of a sequence succeeded, and so did each
element of a list that was gone through in order.
-/

namespace Effects

variable {ε α β : Type}

/-- A sequence that succeeded is two parts that did. -/
theorem except_bind_ok {x : Except ε α} {f : α → Except ε β} {b : β} :
    (x >>= f) = .ok b ↔ ∃ a, x = .ok a ∧ f a = .ok b := by
  cases x <;> simp [bind, Except.bind]

/-- A value that is returned is the result. -/
theorem except_pure_ok {a b : α} : (pure a : Except ε α) = .ok b ↔ b = a := by
  constructor
  · intro h
    cases h
    rfl
  · intro h
    rw [h]
    rfl

/-- Going through a list succeeds when every element does. -/
theorem except_mapM_ok {f : α → Except ε β} {l : List α}
    (h : ∀ x ∈ l, ∃ y, f x = .ok y) : ∃ ys, l.mapM f = .ok ys := by
  induction l with
  | nil => exact ⟨[], rfl⟩
  | cons x rest ih =>
    obtain ⟨y, hy⟩ := h x (List.mem_cons_self ..)
    obtain ⟨ys, hys⟩ := ih fun z hz => h z (List.mem_cons_of_mem _ hz)
    exact ⟨y :: ys, by rw [List.mapM_cons, hy, hys]; rfl⟩

/-- A list that was gone through gave a result for each element, in order. -/
theorem forall₂_of_except_mapM {f : α → Except ε β} {l : List α} {ys : List β}
    (h : l.mapM f = .ok ys) : List.Forall₂ (fun x y => f x = .ok y) l ys := by
  induction l generalizing ys with
  | nil =>
    cases h
    exact .nil
  | cons x rest ih =>
    rw [List.mapM_cons, except_bind_ok] at h
    obtain ⟨y, hy, h⟩ := h
    obtain ⟨zs, hzs, h⟩ := except_bind_ok.mp h
    cases h
    exact .cons hy (ih hzs)

/-- What succeeds for an element has given one of the results, and every result is one. -/
theorem mem_of_except_mapM {f : α → Except ε β} {l : List α} {ys : List β}
    (h : l.mapM f = .ok ys) :
    (∀ x ∈ l, ∃ y ∈ ys, f x = .ok y) ∧ ∀ y ∈ ys, ∃ x ∈ l, f x = .ok y := by
  have hforall := forall₂_of_except_mapM h
  clear h
  induction hforall with
  | nil => simp
  | @cons x y rest zs hy _ ih =>
    constructor
    · intro z hz
      obtain rfl | hz := List.mem_cons.1 hz
      · exact ⟨y, List.mem_cons_self, hy⟩
      · obtain ⟨w, hw, hzw⟩ := ih.1 z hz
        exact ⟨w, List.mem_cons_of_mem y hw, hzw⟩
    · intro z hz
      obtain rfl | hz := List.mem_cons.1 hz
      · exact ⟨x, List.mem_cons_self, hy⟩
      · obtain ⟨w, hw, hwz⟩ := ih.2 z hz
        exact ⟨w, List.mem_cons_of_mem x hw, hwz⟩

/-- Going through a list while the keys seen so far are kept: every element passes its own check,
its key is not among those seen before, and no key comes twice. -/
theorem foldlM_fresh {κ : Type} {step : List κ → α → Except ε (List κ)} {accepts : α → Prop}
    {key : α → κ}
    (hstep : ∀ seen x after, step seen x = .ok after ↔
      accepts x ∧ key x ∉ seen ∧ after = key x :: seen) {l : List α} {seen : List κ} :
    (∃ after, l.foldlM step seen = .ok after) ↔
      (∀ x ∈ l, accepts x ∧ key x ∉ seen) ∧ (l.map key).Nodup := by
  induction l generalizing seen with
  | nil => simp [except_pure_ok]
  | cons x rest ih =>
    simp only [List.foldlM_cons, except_bind_ok, hstep, List.forall_mem_cons, List.map_cons,
      List.nodup_cons]
    constructor
    · rintro ⟨after, _, ⟨hx, hfresh, rfl⟩, hrest⟩
      obtain ⟨hall, hnodup⟩ := ih.1 ⟨after, hrest⟩
      refine ⟨⟨⟨hx, hfresh⟩, fun y hy => ⟨(hall y hy).1, ?_⟩⟩, ?_, hnodup⟩
      · exact fun hseen => (hall y hy).2 (List.mem_cons_of_mem _ hseen)
      · intro hmem
        obtain ⟨y, hy, hkey⟩ := List.mem_map.1 hmem
        exact (hall y hy).2 (hkey ▸ List.mem_cons_self)
    · rintro ⟨⟨⟨hx, hfresh⟩, hall⟩, hkey, hnodup⟩
      have hlater : ∀ y ∈ rest, accepts y ∧ key y ∉ key x :: seen := by
        intro y hy
        refine ⟨(hall y hy).1, ?_⟩
        intro hmem
        rcases List.mem_cons.1 hmem with heq | hseen
        · exact hkey (heq ▸ List.mem_map_of_mem hy)
        · exact (hall y hy).2 hseen
      obtain ⟨after, hafter⟩ := ih.2 ⟨hlater, hnodup⟩
      exact ⟨after, _, ⟨hx, hfresh, rfl⟩, hafter⟩

end Effects
