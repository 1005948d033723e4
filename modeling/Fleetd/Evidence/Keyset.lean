import Mathlib.Data.List.Sort
import Mathlib.Data.List.Nodup
import Mathlib.Order.Basic

/-!
# Reading a growing table by position

Rows have positions in a linear order, and a reader remembers the position of the last row
it received. A page holds the first rows past that position, in order, up to a limit. As
long as every row that appears is past the position a reader holds, the reader has received
exactly the rows between where it started and where it stands, each one once and in order.
-/

namespace Fleetd.Keyset

variable {α κ : Type*}

/-- The position of a reader after a page: that of its last row, if it has one. -/
def advance (pos : α → κ) (cursor : Option κ) (page : List α) : Option κ :=
  (page.getLast?.map pos).or cursor

/-- Reads page after page until one is empty. Nothing is returned when the reads do not suffice. -/
def walk {ε : Type*} (read : Option κ → Except ε (List α)) (pos : α → κ) :
    ℕ → Option κ → Except ε (Option (List α))
  | 0, _ => .ok none
  | reads + 1, cursor =>
    match read cursor with
    | .error e => .error e
    | .ok [] => .ok (some [])
    | .ok (row :: rest) =>
      (walk read pos reads (advance pos cursor (row :: rest))).map (Option.map (row :: rest ++ ·))

/-- An empty page leaves the reader where it was. -/
@[simp] theorem advance_nil {pos : α → κ} {cursor : Option κ} :
    advance pos cursor ([] : List α) = cursor := rfl

/-- A reader stands at the last row of the page it read. -/
theorem advance_concat {pos : α → κ} {cursor : Option κ} (page : List α) (q : α) :
    advance pos cursor (page ++ [q]) = some (pos q) := by
  simp [advance]

variable [LinearOrder κ]

/-- A position the reader has not passed yet. -/
def Past (cursor : Option κ) (k : κ) : Prop := ∀ c ∈ cursor, c < k

/-- The first rows past a position, in order, up to a limit. -/
structure IsPage (pos : α → κ) (cursor : Option κ) (limit : ℕ) (rows page : List α) : Prop where
  mem : ∀ r ∈ page, r ∈ rows ∧ Past cursor (pos r)
  sorted : page.Pairwise fun a b => pos a < pos b
  first : ∀ r ∈ rows, Past cursor (pos r) → r ∉ page → page.length = limit ∧ ∀ q ∈ page, pos q < pos r

/-- A reader has received exactly the rows between where it started and where it stands. -/
structure Tailing (pos : α → κ) (start cursor : Option κ) (rows received : List α) : Prop where
  mem : ∀ r, r ∈ received ↔ r ∈ rows ∧ Past start (pos r) ∧ ¬ Past cursor (pos r)
  sorted : received.Pairwise fun a b => pos a < pos b
  forward : ∀ k, Past cursor k → Past start k

variable {pos : α → κ} {start cursor : Option κ} {limit : ℕ} {rows rows' received page : List α}

/-- Every position is past no cursor. -/
@[simp] theorem past_none (k : κ) : Past none k := fun _ hc => by cases hc

/-- A position is past a cursor when it is above it. -/
@[simp] theorem past_some {c k : κ} : Past (some c) k ↔ c < k :=
  ⟨fun h => h c rfl, fun h _ hc => (Option.some.inj hc) ▸ h⟩

/-- What is above a position past the cursor is past the cursor. -/
theorem Past.trans {j k : κ} (h : Past cursor j) (hjk : j < k) : Past cursor k :=
  fun c hc => (h c hc).trans hjk

/-- A position that is not past a cursor is at or below it. -/
theorem exists_of_not_past {k : κ} (h : ¬ Past cursor k) : ∃ c ∈ cursor, k ≤ c := by
  by_contra hno
  refine h fun c hc => lt_of_not_ge fun hle => hno ⟨c, hc, hle⟩

/-- The head of the sorted rows past a position is a page. -/
theorem isPage_take {selected : List α} (hsorted : selected.Pairwise fun a b => pos a < pos b)
    (hmem : ∀ r, r ∈ selected ↔ r ∈ rows ∧ Past cursor (pos r)) :
    IsPage pos cursor limit rows (selected.take limit) where
  mem r hr := (hmem r).mp (List.mem_of_mem_take hr)
  sorted := hsorted.sublist (List.take_sublist ..)
  first r hr hpast hnot := by
    have hin : r ∈ selected := (hmem r).mpr ⟨hr, hpast⟩
    rw [← List.take_append_drop limit selected] at hin hsorted
    have hdrop : r ∈ selected.drop limit := (List.mem_append.mp hin).resolve_left hnot
    refine ⟨?_, fun q hq => (List.pairwise_append.mp hsorted).2.2 q hq r hdrop⟩
    have hpos : 0 < (selected.drop limit).length := List.length_pos_of_mem hdrop
    rw [List.length_drop] at hpos
    rw [List.length_take]
    omega

/-- The head of the rows past a position, sorted by position, is a page. -/
theorem isPage_sort {r : α → α → Prop} [DecidableRel r] (hr : ∀ a b, r a b ↔ pos a ≤ pos b)
    {selected : List α} (hkeys : (selected.map pos).Nodup)
    (hmem : ∀ x, x ∈ selected ↔ x ∈ rows ∧ Past cursor (pos x)) :
    IsPage pos cursor limit rows ((selected.insertionSort r).take limit) := by
  have htotal : Std.Total r := ⟨fun a b => by simpa only [hr] using le_total (pos a) (pos b)⟩
  have htrans : IsTrans α r := ⟨fun a b c => by simpa only [hr] using le_trans⟩
  have hdistinct : (selected.insertionSort r).Pairwise fun a b => pos a ≠ pos b := by
    rw [← List.pairwise_map (f := pos)]
    exact ((List.perm_insertionSort r selected).map pos).nodup_iff.mpr hkeys
  refine isPage_take ?_ fun x => ?_
  · refine ((List.pairwise_insertionSort r selected).and hdistinct).imp fun hab => ?_
    exact lt_of_le_of_ne ((hr _ _).mp hab.1) hab.2
  · rw [List.mem_insertionSort, hmem]

/-- A reader that has just started has received nothing. -/
theorem Tailing.init (pos : α → κ) (start : Option κ) (rows : List α) :
    Tailing pos start start rows [] where
  mem r := by
    constructor
    · intro hr
      cases hr
    · rintro ⟨_, hpast, hnot⟩
      exact absurd hpast hnot
  sorted := .nil
  forward _ h := h

/-- Rows that appear past the reader do not disturb what it received. -/
theorem Tailing.commit (h : Tailing pos start cursor rows received)
    (hkept : ∀ r ∈ rows, r ∈ rows') (hnew : ∀ r ∈ rows', r ∈ rows ∨ Past cursor (pos r)) :
    Tailing pos start cursor rows' received where
  mem r := by
    rw [h.mem r]
    constructor
    · rintro ⟨hr, hbetween⟩
      exact ⟨hkept r hr, hbetween⟩
    · rintro ⟨hr, hstart, hnot⟩
      rcases hnew r hr with hold | hpast
      · exact ⟨hold, hstart, hnot⟩
      · exact absurd hpast hnot
  sorted := h.sorted
  forward := h.forward

/-- A page moves the reader over exactly the rows of the page. -/
theorem Tailing.read (h : Tailing pos start cursor rows received)
    (hpage : IsPage pos cursor limit rows page) :
    Tailing pos start (advance pos cursor page) rows (received ++ page) := by
  have hbelow : ∀ r ∈ received, ∀ q ∈ page, pos r < pos q := by
    intro r hr q hq
    obtain ⟨c, hc, hle⟩ := exists_of_not_past ((h.mem r).mp hr).2.2
    exact hle.trans_lt ((hpage.mem q hq).2 c hc)
  have hsorted : (received ++ page).Pairwise fun a b => pos a < pos b :=
    List.pairwise_append.mpr ⟨h.sorted, hpage.sorted, hbelow⟩
  rcases List.eq_nil_or_concat page with rfl | ⟨front, q, rfl⟩
  · simpa using h
  rw [List.concat_eq_append] at *
  rw [advance_concat]
  have hq : q ∈ front ++ [q] := by simp
  refine ⟨fun r => ?_, hsorted, fun k hk => h.forward k ((hpage.mem q hq).2.trans (past_some.mp hk))⟩
  rw [past_some, not_lt]
  constructor
  · intro hr
    rcases List.mem_append.mp hr with hr | hr
    · obtain ⟨hrow, hstart, _⟩ := (h.mem r).mp hr
      exact ⟨hrow, hstart, (hbelow r hr q hq).le⟩
    · obtain ⟨hrow, hpast⟩ := hpage.mem r hr
      refine ⟨hrow, h.forward _ hpast, ?_⟩
      rcases List.mem_append.mp hr with hfront | hlast
      · exact ((List.pairwise_append.mp hpage.sorted).2.2 r hfront q (by simp)).le
      · rw [List.mem_singleton.mp hlast]
  · rintro ⟨hrow, hstart, hle⟩
    refine List.mem_append.mpr ?_
    by_cases hpast : Past cursor (pos r)
    · refine .inr (by_contra fun hnot => ?_)
      exact absurd ((hpage.first r hrow hpast hnot).2 q hq) (not_lt.mpr hle)
    · exact .inl ((h.mem r).mpr ⟨hrow, hstart, hpast⟩)

/-- A reader that finds nothing more has received every row past its start. -/
theorem Tailing.drained (h : Tailing pos start cursor rows received) (hlimit : 0 < limit)
    (hpage : IsPage pos cursor limit rows []) {r : α} (hr : r ∈ rows) (hstart : Past start (pos r)) :
    r ∈ received := by
  refine (h.mem r).mpr ⟨hr, hstart, fun hpast => ?_⟩
  have hfull := (hpage.first r hr hpast List.not_mem_nil).1
  rw [List.length_nil] at hfull
  omega

/-- A reader receives no row twice. -/
theorem Tailing.nodup (h : Tailing pos start cursor rows received) : received.Nodup :=
  h.sorted.imp fun hlt heq => absurd (heq ▸ hlt) (lt_irrefl _)

/-- A reader receives at most as many rows as there are. -/
theorem Tailing.length_le (h : Tailing pos start cursor rows received) :
    received.length ≤ rows.length :=
  (List.subperm_of_subset h.nodup fun r hr => ((h.mem r).mp hr).1).length_le

/-! ## Walks -/

omit [LinearOrder κ] in
/-- Where the last row of a page is in a table, so is the position of the reader. -/
theorem mem_advance (hcursor : ∀ c ∈ cursor, ∃ r ∈ rows, pos r = c) (hpage : ∀ r ∈ page, r ∈ rows) :
    ∀ c ∈ advance pos cursor page, ∃ r ∈ rows, pos r = c := by
  intro c hc
  rcases List.eq_nil_or_concat page with rfl | ⟨front, q, rfl⟩
  · exact hcursor c hc
  · rw [List.concat_eq_append] at hc hpage
    rw [advance_concat] at hc
    exact ⟨q, hpage q (by simp), Option.some.inj hc⟩

/-- A walk ends when it has enough reads, and then it has received every row past its start. -/
theorem Tailing.walk {ε : Type*} {read : Option κ → Except ε (List α)} (hlimit : 0 < limit)
    (hread : ∀ cursor, (∀ c ∈ cursor, ∃ r ∈ rows, pos r = c) →
      ∃ page, read cursor = .ok page ∧ IsPage pos cursor limit rows page)
    (h : Tailing pos start cursor rows received) (hcursor : ∀ c ∈ cursor, ∃ r ∈ rows, pos r = c)
    {reads : ℕ} (hreads : rows.length < received.length + reads) :
    ∃ rest, walk read pos reads cursor = .ok (some rest) ∧
      (∀ r, r ∈ received ++ rest ↔ r ∈ rows ∧ Past start (pos r)) ∧
      (received ++ rest).Pairwise fun a b => pos a < pos b := by
  induction reads generalizing cursor received with
  | zero =>
    have hle := h.length_le
    omega
  | succ reads ih =>
    obtain ⟨page, hok, hpage⟩ := hread cursor hcursor
    rw [Keyset.walk, hok]
    cases page with
    | nil =>
      refine ⟨[], rfl, fun r => ?_, by simpa using h.sorted⟩
      rw [List.append_nil]
      refine ⟨fun hr => ?_, fun hr => h.drained hlimit hpage hr.1 hr.2⟩
      exact ⟨((h.mem r).mp hr).1, ((h.mem r).mp hr).2.1⟩
    | cons row page =>
      have hnext := mem_advance hcursor fun r hr => (hpage.mem r hr).1
      obtain ⟨rest, hrest, hmem, hsorted⟩ := ih (h.read hpage) hnext (by
        rw [List.length_append, List.length_cons]
        omega)
      rw [List.append_assoc] at hmem hsorted
      refine ⟨row :: page ++ rest, ?_, hmem, hsorted⟩
      dsimp only
      rw [hrest]
      rfl

/-- Rows in the order of their positions are determined by which rows they are. -/
theorem eq_of_pairwise {rows' : List α} (hsorted : rows.Pairwise fun a b => pos a < pos b)
    (hsorted' : rows'.Pairwise fun a b => pos a < pos b) (hmem : ∀ r, r ∈ rows ↔ r ∈ rows') :
    rows = rows' := by
  have hnodup : ∀ {l : List α}, (l.Pairwise fun a b => pos a < pos b) → l.Nodup := fun hl =>
    hl.imp fun hlt heq => absurd (heq ▸ hlt) (lt_irrefl _)
  have hperm : rows.Perm rows' := (List.perm_ext_iff_of_nodup (hnodup hsorted) (hnodup hsorted')).2 hmem
  exact hperm.eq_of_pairwise (fun _ _ _ _ hlt hlt' => absurd hlt' (not_lt.2 hlt.le)) hsorted hsorted'

/-- A walk over a whole table returns its rows in order. -/
theorem walk_eq {ε : Type*} {read : Option κ → Except ε (List α)} {sorted : List α}
    (hlimit : 0 < limit) (hread : ∀ cursor, (∀ c ∈ cursor, ∃ r ∈ rows, pos r = c) →
      ∃ page, read cursor = .ok page ∧ IsPage pos cursor limit rows page)
    (hsorted : sorted.Pairwise fun a b => pos a < pos b) (hmem : ∀ r, r ∈ sorted ↔ r ∈ rows)
    {reads : ℕ} (hreads : rows.length < reads) : walk read pos reads none = .ok (some sorted) := by
  obtain ⟨rest, hwalk, hrest, hpairwise⟩ := (Tailing.init pos none rows).walk hlimit hread
    (fun c hc => by cases hc) (by simpa using hreads)
  rw [List.nil_append] at hrest hpairwise
  have heq : rest = sorted := eq_of_pairwise hpairwise hsorted fun r => by
    rw [hrest, hmem]
    exact and_iff_left (past_none _)
  rw [hwalk, heq]

end Fleetd.Keyset
