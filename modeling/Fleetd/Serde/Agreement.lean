import Mathlib.Data.List.Nodup
import Fleetd.Serde.Value

/-!
# Values up to the order of their members

The library keeps the members of an object in the order in which they were set, but does
not look at that order when it compares two objects: they are equal if they have as many
members and each member of the one has an equal counterpart under its key in the other.
-/

namespace Serde

mutual

/-- Whether two values are equal, whatever the order of members. -/
def Value.agrees : Value → Value → Bool
  | .null, .null => true
  | .bool a, .bool b => decide (a = b)
  | .number a, .number b => decide (a = b)
  | .string a, .string b => decide (a = b)
  | .array a, .array b => Value.agreesItems a b
  | .object a, .object b => decide (a.length = b.length) && Value.agreesMembers a b
  | _, _ => false
termination_by structural a => a

/-- Whether two lists of items are equal, one by one. -/
def Value.agreesItems : List Value → List Value → Bool
  | [], [] => true
  | a :: as, b :: bs => a.agrees b && Value.agreesItems as bs
  | _, _ => false
termination_by structural a => a

/-- Whether every one of some members has its counterpart among others. -/
def Value.agreesMembers : List (String × Value) → List (String × Value) → Bool
  | [], _ => true
  | member :: members, others =>
    Value.agreesMember member others && Value.agreesMembers members others
termination_by structural a => a

/-- Whether a member has its counterpart among others. -/
def Value.agreesMember : String × Value → List (String × Value) → Bool
  | (key, a), others =>
    match (Value.object others).get key with
    | some b => a.agrees b
    | none => false
termination_by structural a => a

end

/-- Whether two values that may be missing are both missing or equal. -/
def Value.agreesOptional : Option Value → Option Value → Bool
  | some a, some b => a.agrees b
  | none, none => true
  | _, _ => false

mutual

/-- No object in the value has two members under one key. -/
def Value.Keyed : Value → Prop
  | .null => True
  | .bool _ => True
  | .number _ => True
  | .string _ => True
  | .array items => Value.KeyedItems items
  | .object members => (members.map Prod.fst).Nodup ∧ Value.KeyedMembers members

/-- No object in the items has two members under one key. -/
def Value.KeyedItems : List Value → Prop
  | [] => True
  | item :: items => item.Keyed ∧ Value.KeyedItems items

/-- No object in the members has two members under one key. -/
def Value.KeyedMembers : List (String × Value) → Prop
  | [] => True
  | member :: members => Value.KeyedMember member ∧ Value.KeyedMembers members

/-- No object in the value of a member has two members under one key. -/
def Value.KeyedMember : String × Value → Prop
  | (_, value) => value.Keyed

end

/-! ## Reading members -/

@[simp]
theorem get_nil (key : String) : (Value.object []).get key = none := rfl

/-- The first member is read under its own key, the others under theirs. -/
@[simp]
theorem get_cons (key other : String) (value : Value) (members : List (String × Value)) :
    (Value.object ((other, value) :: members)).get key =
      if other = key then some value else (Value.object members).get key := by
  by_cases h : other = key <;> simp [Value.get, h]

/-- What is read under a key is the value of one of the members. -/
theorem mem_of_get {key : String} {value : Value} {members : List (String × Value)}
    (h : (Value.object members).get key = some value) : (key, value) ∈ members := by
  induction members with
  | nil => simp at h
  | cons member members ih =>
    obtain ⟨other, first⟩ := member
    rw [get_cons] at h
    by_cases hkey : other = key
    · rw [if_pos hkey, Option.some.injEq] at h
      rw [hkey, h]
      exact List.mem_cons_self
    · rw [if_neg hkey] at h
      exact List.mem_cons_of_mem _ (ih h)

/-- Without repeated keys every member is read under its key. -/
theorem get_of_mem {key : String} {value : Value} {members : List (String × Value)}
    (hkeys : (members.map Prod.fst).Nodup) (h : (key, value) ∈ members) :
    (Value.object members).get key = some value := by
  induction members with
  | nil => simp at h
  | cons member members ih =>
    obtain ⟨other, first⟩ := member
    rw [List.map_cons, List.nodup_cons] at hkeys
    rw [get_cons]
    rcases List.mem_cons.1 h with heq | hmem
    · simp_all
    · have hne : other ≠ key := by
        intro heq
        exact hkeys.1 (List.mem_map.2 ⟨_, hmem, heq.symm⟩)
      rw [if_neg hne]
      exact ih hkeys.2 hmem

/-! ## What agrees -/

mutual

/-- A value with distinct keys agrees with itself. -/
theorem Value.agrees_refl : (value : Value) → value.Keyed → value.agrees value = true
  | .null, _ => by simp [Value.agrees]
  | .bool _, _ => by simp [Value.agrees]
  | .number _, _ => by simp [Value.agrees]
  | .string _, _ => by simp [Value.agrees]
  | .array items, h => by
    rw [Value.agrees]
    exact Value.agreesItems_refl items h
  | .object members, h => by
    rw [Value.agrees, Bool.and_eq_true]
    exact ⟨decide_eq_true rfl,
      Value.agreesMembers_refl members members h.2 h.1 fun _ hmem => hmem⟩

/-- Items with distinct keys agree with themselves. -/
theorem Value.agreesItems_refl : (items : List Value) → Value.KeyedItems items →
    Value.agreesItems items items = true
  | [], _ => rfl
  | item :: items, h => by
    rw [Value.agreesItems, Value.agrees_refl item h.1, Value.agreesItems_refl items h.2]
    rfl

/-- Some of the members of an object have their counterparts in it. -/
theorem Value.agreesMembers_refl : (members others : List (String × Value)) →
    Value.KeyedMembers members → (others.map Prod.fst).Nodup → (∀ m ∈ members, m ∈ others) →
    Value.agreesMembers members others = true
  | [], _, _, _, _ => rfl
  | member :: members, others, h, hkeys, hmem => by
    rw [Value.agreesMembers,
      Value.agreesMember_refl member others h.1 hkeys (hmem _ List.mem_cons_self),
      Value.agreesMembers_refl members others h.2 hkeys
        fun m hm => hmem m (List.mem_cons_of_mem _ hm)]
    rfl

/-- A member of an object has its counterpart in it. -/
theorem Value.agreesMember_refl : (member : String × Value) → (others : List (String × Value)) →
    Value.KeyedMember member → (others.map Prod.fst).Nodup → member ∈ others →
    Value.agreesMember member others = true
  | (key, value), others, h, hkeys, hmem => by
    rw [Value.agreesMember, get_of_mem hkeys hmem]
    exact Value.agrees_refl value h

end

/-- A text agrees with nothing but itself. -/
@[simp]
theorem agrees_string {value : Value} {text : String} :
    value.agrees (.string text) = true ↔ value = .string text := by
  cases value <;> simp [Value.agrees]

/-- A number agrees with nothing but itself. -/
@[simp]
theorem agrees_number {value : Value} {number : Number} :
    value.agrees (.number number) = true ↔ value = .number number := by
  cases value <;> simp [Value.agrees]

/-- A member has its counterpart under its key. -/
theorem agreesMember_eq (member : String × Value) (others : List (String × Value)) :
    Value.agreesMember member others =
      ((Value.object others).get member.1).any fun b => member.2.agrees b := by
  obtain ⟨key, value⟩ := member
  rw [Value.agreesMember]
  cases (Value.object others).get key <;> rfl

/-- Members that have their counterparts do so one by one. -/
theorem agreesMembers_iff {members others : List (String × Value)} :
    Value.agreesMembers members others = true ↔
      ∀ m ∈ members, ((Value.object others).get m.1).any (fun b => m.2.agrees b) = true := by
  induction members with
  | nil => simp [Value.agreesMembers]
  | cons member members ih =>
    rw [Value.agreesMembers, Bool.and_eq_true, ih, List.forall_mem_cons, agreesMember_eq]

/-- What one of two values that agree has under a key, the other has too. -/
theorem agrees_get {a b v : Value} {key : String} (h : a.agrees b = true)
    (hget : a.get key = some v) : ∃ w, b.get key = some w ∧ v.agrees w = true := by
  cases a with
  | object members =>
    cases b with
    | object others =>
      rw [Value.agrees, Bool.and_eq_true, agreesMembers_iff] at h
      obtain ⟨w, hw, hv⟩ := (Option.any_eq_true _ _).1 (h.2 _ (mem_of_get hget))
      exact ⟨w, hw, hv⟩
    | _ => simp [Value.agrees] at h
  | _ => simp [Value.get] at hget

/-- A value that may be missing agrees with itself. -/
theorem agreesOptional_refl {value : Option Value} (h : ∀ v, value = some v → v.Keyed) :
    Value.agreesOptional value value = true := by
  cases value with
  | none => rfl
  | some v => exact v.agrees_refl (h v rfl)

end Serde
