import Mathlib.Data.List.Basic

/-!
# Ordered rules

Rules that allow or deny, of which the last one that covers a request decides it. What nothing
covers is denied. A request is looked up from the end, so rules that only allow can be taken off the
end one list at a time.
-/

namespace Policy

inductive Verdict
  | allow
  | deny
  deriving DecidableEq, Repr

variable {Rule Request : Type} (covers : Rule → Request → Bool) (verdict : Rule → Verdict)

/-- The last rule that covers a request. -/
def deciding (rules : List Rule) (request : Request) : Option Rule :=
  (rules.filter fun rule => covers rule request).getLast?

/-- The rules allow a request. -/
def Grants (rules : List Rule) (request : Request) : Prop :=
  ∃ rule, deciding covers rules request = some rule ∧ verdict rule = .allow

variable {covers verdict}

/-- Later rules decide what they cover. -/
theorem deciding_append (rules later : List Rule) (request : Request) :
    deciding covers (rules ++ later) request =
      (deciding covers later request).or (deciding covers rules request) := by
  rw [deciding, List.filter_append, List.getLast?_append]
  rfl

theorem deciding_eq_none {rules : List Rule} {request : Request} :
    deciding covers rules request = none ↔ ∀ rule ∈ rules, covers rule request = false := by
  rw [deciding, List.getLast?_eq_none_iff, List.filter_eq_nil_iff]
  simp only [Bool.not_eq_true]

theorem mem_of_deciding {rules : List Rule} {request : Request} {rule : Rule}
    (h : deciding covers rules request = some rule) : rule ∈ rules ∧ covers rule request = true :=
  List.mem_filter.1 (List.mem_of_getLast? h)

theorem grants_nil (request : Request) : ¬ Grants covers verdict [] request := by
  rintro ⟨rule, hrule, _⟩
  cases hrule

/-- Rules that all allow grant what they cover, and leave the rest to the rules before them. -/
theorem grants_append_allow {rules later : List Rule} (hlater : ∀ rule ∈ later, verdict rule = .allow)
    (request : Request) : Grants covers verdict (rules ++ later) request ↔
      Grants covers verdict rules request ∨ ∃ rule ∈ later, covers rule request = true := by
  unfold Grants
  rw [deciding_append]
  cases hdeciding : deciding covers later request with
  | none =>
    have hnone := deciding_eq_none.1 hdeciding
    rw [Option.none_or]
    constructor
    · exact Or.inl
    · rintro (hgrants | ⟨rule, hrule, hcovers⟩)
      · exact hgrants
      · rw [hnone rule hrule] at hcovers
        cases hcovers
  | some rule =>
    obtain ⟨hrule, hcovers⟩ := mem_of_deciding hdeciding
    rw [Option.some_or]
    constructor
    · exact fun _ => Or.inr ⟨rule, hrule, hcovers⟩
    · exact fun _ => ⟨rule, rfl, hlater rule hrule⟩

/-- A rule at the end that denies takes away what it covers. -/
theorem grants_concat_deny {rules : List Rule} {rule : Rule} (hdeny : verdict rule = .deny)
    (request : Request) : Grants covers verdict (rules ++ [rule]) request ↔
      Grants covers verdict rules request ∧ covers rule request = false := by
  have hlast : deciding covers [rule] request = if covers rule request then some rule else none := by
    rw [deciding, List.filter_singleton]
    cases covers rule request <;> rfl
  unfold Grants
  rw [deciding_append, hlast]
  cases covers rule request with
  | true =>
    constructor
    · rintro ⟨decided, hdecided, hallow⟩
      cases hdecided
      rw [hdeny] at hallow
      cases hallow
    · rintro ⟨_, hcovers⟩
      cases hcovers
  | false =>
    constructor
    · exact fun hgrants => ⟨hgrants, rfl⟩
    · exact fun hgrants => hgrants.1

end Policy
