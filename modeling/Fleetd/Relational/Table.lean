import Mathlib.Data.List.Basic
import Mathlib.Data.List.Nodup
import Mathlib.Data.List.Count

/-!
# Tables as lists of rows

A table is the list of its rows in insertion order. Updates rewrite every row that a
predicate selects, and the number of selected rows is the count a database reports back.
A column list that identifies a row is stated as `KeyUnique`, so that a statement which
addresses a row by its key touches that row and no other.
-/

namespace Fleetd.Relational

variable {α κ : Type*}

/-- Rewrite every selected row and keep the others in place. -/
def updateWhere (p : α → Bool) (f : α → α) (rows : List α) : List α :=
  rows.map fun row => if p row then f row else row

/-- Put one row in the place of another. -/
def replaceRow [DecidableEq α] (row row' : α) (rows : List α) : List α :=
  updateWhere (fun x => decide (x = row)) (fun _ => row') rows

/-- No two rows share a key. -/
def KeyUnique (key : α → κ) (rows : List α) : Prop :=
  (rows.map key).Nodup

/-- A row after an update is an old row, rewritten exactly when it was selected. -/
theorem mem_updateWhere {p : α → Bool} {f : α → α} {rows : List α} {x : α} :
    x ∈ updateWhere p f rows ↔ ∃ y ∈ rows, x = if p y then f y else y := by
  simp only [updateWhere, List.mem_map]
  exact ⟨fun ⟨y, hy, h⟩ => ⟨y, hy, h.symm⟩, fun ⟨y, hy, h⟩ => ⟨y, hy, h.symm⟩⟩

/-- The rewritten form of a selected row is present. -/
theorem mem_updateWhere_of_pos {p : α → Bool} {f : α → α} {rows : List α} {y : α}
    (hy : y ∈ rows) (hp : p y = true) : f y ∈ updateWhere p f rows :=
  mem_updateWhere.mpr ⟨y, hy, by rw [if_pos hp]⟩

/-- A row that was not selected is still present. -/
theorem mem_updateWhere_of_neg {p : α → Bool} {f : α → α} {rows : List α} {y : α}
    (hy : y ∈ rows) (hp : p y = false) : y ∈ updateWhere p f rows :=
  mem_updateWhere.mpr ⟨y, hy, by simp [hp]⟩

/-- An update that selects nothing changes nothing. -/
theorem updateWhere_eq_self {p : α → Bool} {f : α → α} {rows : List α}
    (h : ∀ x ∈ rows, p x = false) : updateWhere p f rows = rows := by
  have hmap : rows.map (fun row => if p row then f row else row) = rows.map id :=
    List.map_congr_left fun x hx => by simp [h x hx]
  rw [updateWhere, hmap, List.map_id]

/-- Updates that agree on every row of the table have the same effect. -/
theorem updateWhere_congr {p q : α → Bool} {f g : α → α} {rows : List α}
    (hpq : ∀ x ∈ rows, p x = q x) (hfg : ∀ x ∈ rows, p x = true → f x = g x) :
    updateWhere p f rows = updateWhere q g rows := by
  refine List.map_congr_left fun x hx => ?_
  rw [← hpq x hx]
  by_cases hp : p x = true
  · simp [hp, hfg x hx hp]
  · simp [hp]

/-- An update that selects exactly one row replaces that row. -/
theorem updateWhere_eq_replaceRow [DecidableEq α] {p : α → Bool} {f : α → α} {rows : List α}
    {row : α} (h : ∀ x ∈ rows, p x = true ↔ x = row) :
    updateWhere p f rows = replaceRow row (f row) rows := by
  refine updateWhere_congr (fun x hx => ?_) (fun x hx hp => by rw [(h x hx).mp hp])
  rw [Bool.eq_iff_iff, decide_eq_true_iff]
  exact h x hx

/-- Two updates by the same function, the second of which selects no rewritten row, are one
update. -/
theorem updateWhere_updateWhere {p q : α → Bool} {f : α → α} {rows : List α}
    (h : ∀ x ∈ rows, p x = true → q (f x) = false) :
    updateWhere q f (updateWhere p f rows) = updateWhere (fun x => p x || q x) f rows := by
  rw [updateWhere, updateWhere, updateWhere, List.map_map]
  refine List.map_congr_left fun x hx => ?_
  by_cases hp : p x = true
  · simp [hp, h x hx hp]
  · simp [hp]

/-- The rows after a replacement are the new row and every other old row. -/
theorem mem_replaceRow [DecidableEq α] {row row' : α} {rows : List α} {x : α} :
    x ∈ replaceRow row row' rows ↔ (x = row' ∧ row ∈ rows) ∨ (x ∈ rows ∧ x ≠ row) := by
  simp only [replaceRow, mem_updateWhere, decide_eq_true_eq]
  constructor
  · rintro ⟨y, hy, rfl⟩
    by_cases h : y = row
    · subst h; simp [hy]
    · simp [h, hy]
  · rintro (⟨rfl, h⟩ | ⟨hx, hne⟩)
    · exact ⟨row, h, by simp⟩
    · exact ⟨x, hx, by simp [hne]⟩

/-- A replacement of an old row leaves appended rows alone. -/
theorem replaceRow_append [DecidableEq α] {row row' : α} {rows new : List α} (h : row ∉ new) :
    replaceRow row row' (rows ++ new) = replaceRow row row' rows ++ new := by
  have hnew : replaceRow row row' new = new :=
    updateWhere_eq_self fun x hx => decide_eq_false fun heq => h (heq ▸ hx)
  calc replaceRow row row' (rows ++ new) = replaceRow row row' rows ++ replaceRow row row' new :=
        List.map_append
    _ = replaceRow row row' rows ++ new := by rw [hnew]

/-- A key that updates preserve keeps its column of values. -/
theorem map_updateWhere {p : α → Bool} {f : α → α} {key : α → κ} {rows : List α}
    (h : ∀ x ∈ rows, p x = true → key (f x) = key x) :
    (updateWhere p f rows).map key = rows.map key := by
  rw [updateWhere, List.map_map]
  refine List.map_congr_left fun x hx => ?_
  by_cases hp : p x = true
  · simp [hp, h x hx hp]
  · simp [hp]

/-- Key-preserving updates keep keys unique. -/
theorem KeyUnique.updateWhere {p : α → Bool} {f : α → α} {key : α → κ} {rows : List α}
    (hu : KeyUnique key rows) (h : ∀ x ∈ rows, p x = true → key (f x) = key x) :
    KeyUnique key (updateWhere p f rows) := by
  rw [KeyUnique, map_updateWhere h]
  exact hu

/-- A replacement under the same key keeps keys unique. -/
theorem KeyUnique.replaceRow [DecidableEq α] {key : α → κ} {rows : List α} {row row' : α}
    (hu : KeyUnique key rows) (h : key row' = key row) :
    KeyUnique key (replaceRow row row' rows) :=
  hu.updateWhere fun x _ hx => by rw [of_decide_eq_true hx, h]

/-- Appending a row with a new key keeps keys unique. -/
theorem KeyUnique.append {key : α → κ} {rows new : List α} (hu : KeyUnique key rows)
    (hn : KeyUnique key new) (h : ∀ x ∈ rows, ∀ y ∈ new, key x ≠ key y) :
    KeyUnique key (rows ++ new) := by
  rw [KeyUnique, List.map_append, List.nodup_append]
  refine ⟨hu, hn, ?_⟩
  intro a ha b hb
  obtain ⟨x, hx, rfl⟩ := List.mem_map.mp ha
  obtain ⟨y, hy, rfl⟩ := List.mem_map.mp hb
  exact h x hx y hy

/-- One row is trivially identified by its key. -/
theorem KeyUnique.singleton (key : α → κ) (row : α) : KeyUnique key [row] :=
  List.nodup_singleton _

/-- Rows with equal keys are the same row. -/
theorem KeyUnique.eq {key : α → κ} {rows : List α} (hu : KeyUnique key rows) {x y : α}
    (hx : x ∈ rows) (hy : y ∈ rows) (h : key x = key y) : x = y :=
  List.inj_on_of_nodup_map hu hx hy h

/-- A selection that some row meets, and only under that row's key, affects one row. -/
theorem KeyUnique.countP_eq_one {key : α → κ} {rows : List α} (hu : KeyUnique key rows)
    {p : α → Bool} {row : α} (hr : row ∈ rows) (hp : p row = true)
    (h : ∀ x ∈ rows, p x = true → key x = key row) : rows.countP p = 1 := by
  have hnodup : (rows.filter p).Nodup := (hu.of_map).filter p
  have hall : ∀ x ∈ rows.filter p, x = row := fun x hx =>
    hu.eq (List.mem_filter.mp hx).1 hr (h x (List.mem_filter.mp hx).1 (List.mem_filter.mp hx).2)
  rw [List.countP_eq_length_filter]
  have hmem : row ∈ rows.filter p := List.mem_filter.mpr ⟨hr, hp⟩
  obtain ⟨l₁, l₂, hl⟩ := List.append_of_mem hmem
  rw [hl] at hnodup hall
  cases l₁ with
  | cons a l₁ =>
    have ha := hall a (by simp)
    subst ha
    simp at hnodup
  | nil =>
    cases l₂ with
    | cons a l₂ =>
      have ha := hall a (by simp)
      subst ha
      simp at hnodup
    | nil => rw [hl]; rfl

/-- A selection that one row meets, and no other key, selects that row and nothing else. -/
theorem KeyUnique.filter_eq_singleton {key : α → κ} {rows : List α} (hu : KeyUnique key rows)
    {p : α → Bool} {row : α} (hr : row ∈ rows) (hp : p row = true)
    (h : ∀ x ∈ rows, p x = true → key x = key row) : rows.filter p = [row] := by
  have hone := hu.countP_eq_one hr hp h
  rw [List.countP_eq_length_filter, List.length_eq_one_iff] at hone
  obtain ⟨x, hx⟩ := hone
  have hmem : row ∈ rows.filter p := List.mem_filter.mpr ⟨hr, hp⟩
  rw [hx, List.mem_singleton] at hmem
  rw [hx, hmem]

/-- When one row was affected, exactly one row was selected. -/
theorem exists_of_countP_eq_one {p : α → Bool} {rows : List α} (h : rows.countP p = 1) :
    ∃ row ∈ rows, p row = true ∧ ∀ x ∈ rows, p x = true ↔ x = row := by
  rw [List.countP_eq_length_filter, List.length_eq_one_iff] at h
  obtain ⟨row, hrow⟩ := h
  have hmem : ∀ x, x ∈ rows ∧ p x = true ↔ x = row := fun x => by
    rw [← List.mem_filter, hrow, List.mem_singleton]
  obtain ⟨hr, hp⟩ := (hmem row).mpr rfl
  exact ⟨row, hr, hp, fun x hx => ⟨fun h => (hmem x).mp ⟨hx, h⟩, fun h => h ▸ hp⟩⟩

/-- An update that affected one row replaced that row. -/
theorem exists_replaceRow_of_countP [DecidableEq α] {p : α → Bool} {rows : List α}
    (h : rows.countP p = 1) (f : α → α) :
    ∃ row ∈ rows, p row = true ∧ updateWhere p f rows = replaceRow row (f row) rows := by
  obtain ⟨row, hr, hp, hall⟩ := exists_of_countP_eq_one h
  exact ⟨row, hr, hp, updateWhere_eq_replaceRow hall⟩

/-- A lookup that only one key can satisfy finds the row of that key. -/
theorem KeyUnique.find?_eq_some {key : α → κ} {rows : List α} (hu : KeyUnique key rows)
    {p : α → Bool} {row : α} (hr : row ∈ rows) (hp : p row = true)
    (h : ∀ x ∈ rows, p x = true → key x = key row) : rows.find? p = some row := by
  cases hf : rows.find? p with
  | none => exact absurd hp (by simpa using List.find?_eq_none.mp hf row hr)
  | some y =>
    have hy := List.mem_of_find?_eq_some hf
    rw [hu.eq hy hr (h y hy (List.find?_some hf))]

/-! ## Tables over time -/

/-- Every old row is still in its place, changed at most as `R` allows, and new rows come
after the old ones. -/
def Extends (R : α → α → Prop) (rows rows' : List α) : Prop :=
  ∃ kept new, rows' = kept ++ new ∧ List.Forall₂ R rows kept

variable {R : α → α → Prop} {rows rows' rows'' : List α}

/-- A table that did not change extends itself. -/
theorem Extends.refl (hR : ∀ x, R x x) (rows : List α) : Extends R rows rows :=
  ⟨rows, [], by simp, List.forall₂_same.mpr fun x _ => hR x⟩

/-- The part of an extension that comes from the older rows. -/
theorem forall₂_append_split (hR : ∀ x y z, R x y → R y z → R x z) {kept new kept' : List α}
    (hk : List.Forall₂ R rows kept) (hk' : List.Forall₂ R (kept ++ new) kept') :
    ∃ k₁ k₂, kept' = k₁ ++ k₂ ∧ List.Forall₂ R rows k₁ := by
  induction hk generalizing kept' with
  | nil => exact ⟨[], kept', rfl, .nil⟩
  | cons hxy _ ih =>
    cases hk' with
    | cons hyz hrest =>
      obtain ⟨k₁, k₂, rfl, h⟩ := ih hrest
      exact ⟨_ :: k₁, k₂, rfl, .cons (hR _ _ _ hxy hyz) h⟩

/-- Extensions compose. -/
theorem Extends.trans (hR : ∀ x y z, R x y → R y z → R x z) (h : Extends R rows rows')
    (h' : Extends R rows' rows'') : Extends R rows rows'' := by
  obtain ⟨kept, new, rfl, hk⟩ := h
  obtain ⟨kept', new', rfl, hk'⟩ := h'
  obtain ⟨k₁, k₂, rfl, h⟩ := forall₂_append_split hR hk hk'
  exact ⟨k₁, k₂ ++ new', by simp, h⟩

/-- New rows extend a table. -/
theorem Extends.append (hR : ∀ x, R x x) (rows new : List α) : Extends R rows (rows ++ new) :=
  ⟨rows, new, rfl, List.forall₂_same.mpr fun x _ => hR x⟩

/-- An update that `R` allows extends a table. -/
theorem Extends.updateWhere (hR : ∀ x, R x x) {p : α → Bool} {f : α → α}
    (h : ∀ x ∈ rows, p x = true → R x (f x)) : Extends R rows (updateWhere p f rows) := by
  refine ⟨Relational.updateWhere p f rows, [], by simp, ?_⟩
  rw [Relational.updateWhere, List.forall₂_map_right_iff, List.forall₂_same]
  intro x hx
  by_cases hp : p x = true
  · simpa [hp] using h x hx hp
  · simpa [hp] using hR x

/-- A replacement that `R` allows extends a table. -/
theorem Extends.replaceRow [DecidableEq α] (hR : ∀ x, R x x) {row row' : α} (h : R row row') :
    Extends R rows (replaceRow row row' rows) :=
  Extends.updateWhere hR fun x _ hx => by rw [of_decide_eq_true hx]; exact h

/-- Every old row has its successor. -/
theorem Extends.mem (h : Extends R rows rows') {x : α} (hx : x ∈ rows) : ∃ y ∈ rows', R x y := by
  obtain ⟨kept, new, rfl, hk⟩ := h
  obtain ⟨y, hy, hxy⟩ : ∃ y ∈ kept, R x y := by
    induction hk with
    | nil => cases hx
    | cons hxy _ ih =>
      rcases List.mem_cons.mp hx with rfl | hx
      · exact ⟨_, List.mem_cons_self .., hxy⟩
      · obtain ⟨y, hy, h⟩ := ih hx
        exact ⟨y, List.mem_cons_of_mem _ hy, h⟩
  exact ⟨y, List.mem_append_left _ hy, hxy⟩

/-- A lookup that `R` respects finds the successor of what it found before. -/
theorem Extends.find? (h : Extends R rows rows') {p : α → Bool}
    (hp : ∀ x y, R x y → p y = p x) {x : α} (hx : rows.find? p = some x) :
    ∃ y, rows'.find? p = some y ∧ R x y := by
  obtain ⟨kept, new, rfl, hk⟩ := h
  induction hk with
  | nil => cases hx
  | cons hab _ ih =>
    rw [List.cons_append, List.find?_cons, hp _ _ hab]
    rw [List.find?_cons] at hx
    split at hx
    · cases hx
      exact ⟨_, rfl, hab⟩
    · exact ih hx

/-- A key that `R` keeps stays present. -/
theorem Extends.mem_map (h : Extends R rows rows') {key : α → κ}
    (hkey : ∀ x y, R x y → key y = key x) {k : κ} (hk : k ∈ rows.map key) :
    k ∈ rows'.map key := by
  obtain ⟨x, hx, rfl⟩ := List.mem_map.mp hk
  obtain ⟨y, hy, hxy⟩ := h.mem hx
  exact List.mem_map.mpr ⟨y, hy, hkey x y hxy⟩

end Fleetd.Relational
