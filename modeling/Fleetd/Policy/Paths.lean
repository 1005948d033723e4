import Mathlib.Data.Finset.Sort
import Mathlib.Data.List.Lex
import Mathlib.Data.String.Basic

/-!
# Canonical paths

Absolute paths as lists of components, written with a slash before each. The components are read
back from the text, so a relation between paths is one between components, never one between texts.
Paths are ordered component by component.
-/

namespace Policy

/-- A component of a resolved path. -/
def IsComponent (component : String) : Prop :=
  component ≠ "" ∧ component ≠ "." ∧ component ≠ ".." ∧ '/' ∉ component.toList

instance (component : String) : Decidable (IsComponent component) :=
  inferInstanceAs (Decidable (_ ∧ _ ∧ _ ∧ _))

/-- An absolute path without links, dots or doubled slashes. -/
structure CanonicalPath where
  components : List String
  valid : ∀ component ∈ components, IsComponent component

namespace CanonicalPath

theorem components_injective : Function.Injective components := by
  intro a b h
  cases a
  cases b
  cases h
  rfl

@[ext] theorem ext {a b : CanonicalPath} (h : a.components = b.components) : a = b :=
  components_injective h

instance : LinearOrder CanonicalPath := LinearOrder.lift' components components_injective

/-- The root of the file system. -/
def root : CanonicalPath := ⟨[], fun _ hmem => absurd hmem List.not_mem_nil⟩

/-- The path as it is written. -/
def text (path : CanonicalPath) : String :=
  String.ofList (['/'].intercalate ([] :: path.components.map String.toList) ++
    if path.components = [] then ['/'] else [])

/-- The first components of a path. -/
def take (path : CanonicalPath) (n : Nat) : CanonicalPath :=
  ⟨path.components.take n, fun c hc => path.valid c (List.mem_of_mem_take hc)⟩

/-- A path with the directories above it, the nearest first and the root last. -/
def ancestors (path : CanonicalPath) : List CanonicalPath :=
  (List.range (path.components.length + 1)).reverse.map path.take

/-- The path is a directory or what it holds, at any depth. -/
def Under (directory path : CanonicalPath) : Prop := directory.components <+: path.components

instance (directory path : CanonicalPath) : Decidable (Under directory path) :=
  inferInstanceAs (Decidable (_ <+: _))

/-- The directory is above the path and is not the root. -/
def Above (directory path : CanonicalPath) : Prop :=
  Under directory path ∧ directory ≠ path ∧ directory ≠ root

/-- The ancestors of a path after itself, without the root, are what is above it. -/
theorem mem_ancestors_tail {directory path : CanonicalPath} :
    directory ∈ path.ancestors.tail ∧ directory ≠ root ↔ Above directory path := by
  have htail : path.ancestors.tail = (List.range path.components.length).reverse.map path.take := by
    rw [ancestors, List.range_succ, List.reverse_append, List.reverse_singleton]
    rfl
  rw [htail]
  constructor
  · rintro ⟨hmem, hroot⟩
    obtain ⟨n, hn, rfl⟩ := List.mem_map.1 hmem
    have hless : n < path.components.length := List.mem_range.1 (List.mem_reverse.1 hn)
    refine ⟨List.take_prefix _ _, fun heq => ?_, hroot⟩
    have hlength := congrArg (fun p : CanonicalPath => p.components.length) heq
    rw [take, List.length_take] at hlength
    omega
  · rintro ⟨hunder, hne, hroot⟩
    refine ⟨List.mem_map.2 ⟨directory.components.length, ?_, ?_⟩, hroot⟩
    · rw [List.mem_reverse, List.mem_range]
      apply Nat.lt_of_le_of_ne hunder.length_le
      intro hlength
      exact hne (CanonicalPath.ext (hunder.eq_of_length hlength))
    · exact CanonicalPath.ext (List.prefix_iff_eq_take.1 hunder).symm

end CanonicalPath

/-- The components of a written path. -/
def pathComponents (text : String) : List String :=
  ((text.toList.splitOn '/').filter (· ≠ [])).map String.ofList

/-- The components of a path are read back from its text. -/
theorem pathComponents_text (path : CanonicalPath) : pathComponents path.text = path.components := by
  have hslash : ∀ part ∈ path.components.map String.toList, '/' ∉ part := by
    intro part hpart
    obtain ⟨component, hcomponent, rfl⟩ := List.mem_map.1 hpart
    exact (path.valid component hcomponent).2.2.2
  have hkept : (path.components.map String.toList).filter (· ≠ []) =
      path.components.map String.toList := by
    apply List.filter_eq_self.2
    intro part hpart
    obtain ⟨component, hcomponent, rfl⟩ := List.mem_map.1 hpart
    rw [decide_eq_true_iff, ne_eq, String.toList_eq_nil_iff]
    exact (path.valid component hcomponent).1
  have hback : (path.components.map String.toList).map String.ofList = path.components := by
    rw [List.map_map]
    exact (List.map_congr_left fun component _ => String.ofList_toList).trans (List.map_id _)
  have hsplit : pathComponents (String.ofList
      (['/'].intercalate ([] :: path.components.map String.toList))) = path.components := by
    rw [pathComponents, String.toList_ofList, List.splitOn_intercalate '/' _ (List.cons_ne_nil _ _),
      List.filter_cons_of_neg (by decide), hkept, hback]
    intro part hpart
    rcases List.mem_cons.1 hpart with rfl | hpart
    · exact List.not_mem_nil
    · exact hslash part hpart
  by_cases hroot : path.components = []
  · rw [CanonicalPath.text, if_pos hroot, hroot]
    rfl
  · rw [CanonicalPath.text, if_neg hroot, List.append_nil]
    exact hsplit

theorem CanonicalPath.text_injective : Function.Injective CanonicalPath.text := by
  intro a b h
  apply CanonicalPath.ext
  rw [← pathComponents_text a, ← pathComponents_text b, h]

end Policy
