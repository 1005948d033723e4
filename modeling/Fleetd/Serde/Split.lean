import Mathlib.Data.List.Basic

/-!
# Splitting at separators

The two ways in which a text is taken apart at one separator: at the first occurrence of a word, and
at the last occurrence of a letter.
-/

namespace Serde

variable {α : Type} [DecidableEq α]

/-- Splits at the first occurrence of a word. -/
def splitOnce (word : List α) : List α → Option (List α × List α)
  | [] => if word = [] then some ([], []) else none
  | a :: rest =>
    if word.isPrefixOf (a :: rest) then some ([], (a :: rest).drop word.length)
    else (splitOnce word rest).map fun parts => (a :: parts.1, parts.2)

/-- Splits at the last occurrence of a letter. -/
def rsplitOnce (letter : α) : List α → Option (List α × List α)
  | [] => none
  | a :: rest =>
    match rsplitOnce letter rest with
    | some (front, back) => some (a :: front, back)
    | none => if a = letter then some ([], rest) else none

/-- The parts of a split text make it up again. -/
theorem eq_of_splitOnce {word text front back : List α}
    (h : splitOnce word text = some (front, back)) : text = front ++ word ++ back := by
  induction text generalizing front back with
  | nil =>
    rw [splitOnce] at h
    split at h
    · rename_i hword
      cases h
      rw [hword]
      rfl
    · cases h
  | cons a rest ih =>
    rw [splitOnce] at h
    split at h
    · rename_i hstart
      cases h
      obtain ⟨tail, htail⟩ := List.isPrefixOf_iff_prefix.1 hstart
      rw [← htail, List.drop_left, List.nil_append]
    · obtain ⟨parts, hparts, hsome⟩ := Option.map_eq_some_iff.1 h
      cases hsome
      rw [ih hparts]
      rfl

/-- A word splits a text behind a part in which its first letter does not occur. -/
theorem splitOnce_append {letter : α} {word front back : List α} (hfront : letter ∉ front) :
    splitOnce (letter :: word) (front ++ (letter :: word) ++ back) = some (front, back) := by
  induction front with
  | nil =>
    rw [List.nil_append, List.cons_append, splitOnce, if_pos, ← List.cons_append, List.drop_left]
    rw [List.isPrefixOf_iff_prefix, ← List.cons_append]
    exact List.prefix_append _ _
  | cons a rest ih =>
    rw [List.mem_cons, not_or] at hfront
    obtain ⟨hne, hrest⟩ := hfront
    rw [List.cons_append, List.cons_append, splitOnce, if_neg, ih hrest]
    · rfl
    · rw [List.isPrefixOf_iff_prefix]
      exact fun hstart => hne (List.cons_prefix_cons.1 hstart).1

/-- A letter that does not occur splits nothing. -/
theorem rsplitOnce_eq_none {letter : α} {text : List α} (h : letter ∉ text) :
    rsplitOnce letter text = none := by
  induction text with
  | nil => rfl
  | cons a rest ih =>
    rw [List.mem_cons, not_or] at h
    obtain ⟨hne, hrest⟩ := h
    rw [rsplitOnce, ih hrest]
    exact if_neg (Ne.symm hne)

/-- A letter splits a text in front of a part in which it does not occur. -/
theorem rsplitOnce_append {letter : α} {front back : List α} (hback : letter ∉ back) :
    rsplitOnce letter (front ++ letter :: back) = some (front, back) := by
  induction front with
  | nil =>
    rw [List.nil_append, rsplitOnce, rsplitOnce_eq_none hback]
    exact if_pos rfl
  | cons a rest ih => rw [List.cons_append, rsplitOnce, ih]

omit [DecidableEq α] in
/-- A letter that occurs has a last occurrence. -/
theorem exists_last_of_mem {letter : α} {text : List α} (h : letter ∈ text) :
    ∃ front back, text = front ++ letter :: back ∧ letter ∉ back := by
  obtain ⟨back, front, hreverse, hback⟩ := List.eq_append_cons_of_mem (List.mem_reverse.2 h)
  refine ⟨front.reverse, back.reverse, ?_, fun hmem => hback (List.mem_reverse.1 hmem)⟩
  rw [← List.reverse_reverse text, hreverse, List.reverse_append, List.reverse_cons, List.append_assoc]
  rfl

end Serde
