import Fleetd.Evidence.HashChain

/-!
# Fields behind separators

A record is written as a list of fields, each with a separator in front of it. Fields without the
separator in them can be told apart again. What follows such fields may be anything that begins with
a separator, so the end of a record need not be made of such fields.
-/

namespace Fleetd.Evidence

variable {α : Type*} {sep : α} {fields others : List (List α)} {field a rest last : List α}

/-- The text of some fields. -/
def prefixed (sep : α) (fields : List (List α)) : List α := fields.flatMap fun field => sep :: field

/-- No field has a separator in it. -/
def PlainFields (sep : α) (fields : List (List α)) : Prop := ∀ field ∈ fields, sep ∉ field

theorem prefixed_cons : prefixed sep (field :: fields) = sep :: (field ++ prefixed sep fields) := rfl

theorem prefixed_append :
    prefixed sep (fields ++ others) = prefixed sep fields ++ prefixed sep others :=
  List.flatMap_append

theorem PlainFields.head (h : PlainFields sep (field :: fields)) : sep ∉ field :=
  h field List.mem_cons_self

theorem PlainFields.of_cons (h : PlainFields sep (field :: fields)) : PlainFields sep fields :=
  fun other hother => h other (List.mem_cons_of_mem _ hother)

/-- Fields in front of a separator begin with one. -/
theorem exists_prefixed_sep (sep : α) (fields : List (List α)) (rest : List α) :
    ∃ text, prefixed sep fields ++ sep :: rest = sep :: text := by
  cases fields with
  | nil => exact ⟨rest, rfl⟩
  | cons field fields => exact ⟨_, rfl⟩

/-- As many plain fields are told apart, whatever follows them. -/
theorem prefixed_injective (hfields : PlainFields sep fields) (hothers : PlainFields sep others)
    (hlength : fields.length = others.length)
    (h : prefixed sep fields ++ sep :: rest = prefixed sep others ++ sep :: last) :
    fields = others ∧ rest = last := by
  induction fields generalizing others with
  | nil =>
    obtain rfl := List.length_eq_zero_iff.1 hlength.symm
    exact ⟨rfl, (List.cons.inj h).2⟩
  | cons field fields ih =>
    cases others with
    | nil => cases hlength
    | cons other others =>
      obtain ⟨text, htext⟩ := exists_prefixed_sep sep fields rest
      obtain ⟨text', htext'⟩ := exists_prefixed_sep sep others last
      rw [prefixed_cons, prefixed_cons, List.cons_append, List.cons_append, List.append_assoc,
        List.append_assoc, htext, htext'] at h
      have hcons : field ++ [sep] ++ text = other ++ [sep] ++ text' := by
        simpa using (List.cons.inj h).2
      obtain ⟨rfl, rfl⟩ := separator_injective hfields.head hothers.head hcons
      obtain ⟨rfl, hrest⟩ :=
        ih hfields.of_cons hothers.of_cons (Nat.succ.inj hlength) (htext.trans htext'.symm)
      exact ⟨rfl, hrest⟩

/-- Records agree on the plain fields that they have in the same places. -/
theorem prefixed_append_injective (hfields : PlainFields sep fields) (hothers : PlainFields sep others)
    (hlength : fields.length = others.length) {more less : List (List α)}
    (h : prefixed sep (fields ++ more) ++ sep :: rest = prefixed sep (others ++ less) ++ sep :: last) :
    fields = others ∧ prefixed sep more ++ sep :: rest = prefixed sep less ++ sep :: last := by
  obtain ⟨text, htext⟩ := exists_prefixed_sep sep more rest
  obtain ⟨text', htext'⟩ := exists_prefixed_sep sep less last
  rw [prefixed_append, prefixed_append, List.append_assoc, List.append_assoc, htext, htext'] at h
  obtain ⟨hsame, rfl⟩ := prefixed_injective hfields hothers hlength h
  exact ⟨hsame, htext.trans htext'.symm⟩

/-- A record of plain fields is told by its text. -/
theorem prefixed_injective_of_plain (hfields : PlainFields sep fields) (hothers : PlainFields sep others)
    (h : prefixed sep fields = prefixed sep others) : fields = others := by
  induction fields generalizing others with
  | nil =>
    cases others with
    | nil => rfl
    | cons other others => cases h
  | cons field fields ih =>
    cases others with
    | nil => cases h
    | cons other others =>
      have hfirst : PlainFields sep [field] := fun _ hmem => List.mem_singleton.1 hmem ▸ hfields.head
      have hsecond : PlainFields sep [other] := fun _ hmem => List.mem_singleton.1 hmem ▸ hothers.head
      have happend : prefixed sep ([field] ++ fields) ++ sep :: [] =
          prefixed sep ([other] ++ others) ++ sep :: [] := congrArg (· ++ [sep]) h
      obtain ⟨hhead, hrest⟩ := prefixed_append_injective hfirst hsecond rfl happend
      rw [(List.cons.inj hhead).1,
        ih hfields.of_cons hothers.of_cons (List.append_cancel_right hrest)]

/-- A separator inside some plain fields stands in front of one of them. -/
theorem exists_field_of_sep (hplain : PlainFields sep fields)
    (h : a ++ sep :: rest = prefixed sep fields ++ last)
    (hinside : a.length < (prefixed sep fields).length) :
    ∃ before field after, fields = before ++ field :: after ∧ a = prefixed sep before ∧
      rest = field ++ (prefixed sep after ++ last) := by
  induction fields generalizing a with
  | nil => exact absurd hinside (Nat.not_lt_zero _)
  | cons field fields ih =>
    rw [prefixed_cons, List.cons_append, List.append_assoc] at h
    cases a with
    | nil => exact ⟨[], field, fields, rfl, rfl, (List.cons.inj h).2⟩
    | cons c a =>
      obtain ⟨rfl, hcons⟩ := List.cons.inj h
      obtain ⟨more, rfl, hmore⟩ : ∃ more, a = field ++ more ∧
          more ++ c :: rest = prefixed c fields ++ last := by
        obtain ⟨more, hfield, hmore⟩ | ⟨more, ha, hmore⟩ := List.append_eq_append_iff.1 hcons
        · cases more with
          | nil => exact ⟨[], by rw [hfield, List.append_nil, List.append_nil], hmore⟩
          | cons d more =>
            obtain ⟨rfl, -⟩ := List.cons.inj hmore
            exact absurd (hfield ▸ List.mem_append_right _ List.mem_cons_self) hplain.head
        · exact ⟨more, ha, hmore.symm⟩
      have hlength : more.length < (prefixed c fields).length := by
        rw [prefixed_cons, List.length_cons, List.length_cons, List.length_append,
          List.length_append] at hinside
        omega
      obtain ⟨before, next, after, rfl, rfl, hafter⟩ := ih hplain.of_cons hmore hlength
      exact ⟨field :: before, next, after, rfl, rfl, hafter⟩

end Fleetd.Evidence
