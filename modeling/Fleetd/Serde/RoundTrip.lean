import Fleetd.Serde.Numbers
import Fleetd.Serde.Pretty

/-!
# Reading indented text back

The parser reads the indented text of a value and stops where the text ends. It gives the value
back with repeated keys merged, and it does so exactly if the value is not nested too deeply.
-/

namespace Serde

/-! ## Nesting -/

mutual

/-- The brackets of a value that are open inside one another. -/
def Value.nesting : Value → Nat
  | .null => 0
  | .bool _ => 0
  | .number _ => 0
  | .string _ => 0
  | .array items => Value.nestingItems items + 1
  | .object members => Value.nestingMembers members + 1

/-- The deepest of some items. -/
def Value.nestingItems : List Value → Nat
  | [] => 0
  | item :: items => max item.nesting (Value.nestingItems items)

/-- The deepest of some members. -/
def Value.nestingMembers : List (String × Value) → Nat
  | [] => 0
  | member :: members => max (Value.nestingMember member) (Value.nestingMembers members)

/-- The nesting of the value of a member. -/
def Value.nestingMember : String × Value → Nat
  | (_, value) => value.nesting

end

attribute [local simp] Value.nesting Value.nestingItems Value.nestingMembers Value.nestingMember
attribute [local simp] parseValue parseItems parseMembers
attribute [local simp] Value.printPretty Value.prettyItems Value.prettyMember Value.prettyMembers

/-- Items are as deep as the deepest of them. -/
theorem Value.nestingItems_le_iff (items : List Value) (limit : Nat) :
    Value.nestingItems items ≤ limit ↔ ∀ item ∈ items, item.nesting ≤ limit := by
  induction items with
  | nil => simp [Value.nestingItems]
  | cons item items ih => simp [Value.nestingItems, ih]

mutual

/-- A value with the repeated keys of its objects merged. -/
def Value.merged : Value → Value
  | .null => .null
  | .bool value => .bool value
  | .number value => .number value
  | .string text => .string text
  | .array items => .array (Value.mergedItems items)
  | .object members => .object (collectMembers (Value.mergedMembers members))

/-- Some items, merged. -/
def Value.mergedItems : List Value → List Value
  | [] => []
  | item :: items => item.merged :: Value.mergedItems items

/-- Some members, merged one by one. -/
def Value.mergedMembers : List (String × Value) → List (String × Value)
  | [] => []
  | member :: members => Value.mergedMember member :: Value.mergedMembers members

/-- A member with its value merged. -/
def Value.mergedMember : String × Value → String × Value
  | (key, value) => (key, value.merged)

end

/-! ## Spaces -/

theorem skipSpace_append {spaces : List Char} (h : ∀ c ∈ spaces, isSpace c = true)
    (text : List Char) : skipSpace (spaces ++ text) = skipSpace text :=
  List.dropWhile_append_of_pos h

theorem skipSpace_cons {c : Char} (h : isSpace c = false) (text : List Char) :
    skipSpace (c :: text) = c :: text := by
  rw [skipSpace, List.dropWhile_cons_of_neg]
  simp [h]

/-- A line break with an indentation. -/
def lineBreak (depth : Nat) : List Char := '\n' :: List.replicate (2 * depth) ' '

theorem isSpace_of_mem_lineBreak {depth : Nat} {c : Char} (h : c ∈ lineBreak depth) :
    isSpace c = true := by
  obtain rfl | h := List.mem_cons.1 h
  · rfl
  · rw [List.eq_of_mem_replicate h]
    rfl

@[simp] theorem skipSpace_lineBreak (depth : Nat) (text : List Char) :
    skipSpace (lineBreak depth ++ text) = skipSpace text :=
  skipSpace_append (fun _ => isSpace_of_mem_lineBreak) text

/-- Spaces in front of a value are skipped. -/
theorem parseValue_append {spaces : List Char} (h : ∀ c ∈ spaces, isSpace c = true)
    (remaining fuel : Nat) (text : List Char) :
    parseValue remaining fuel (spaces ++ text) = parseValue remaining fuel text := by
  cases fuel with
  | zero => rw [parseValue, parseValue]
  | succ fuel => rw [parseValue, parseValue, skipSpace_append h]

/-! ## Strings -/

theorem hexValue_hexDigit : ∀ d < 16, hexValue (hexDigit d) = some d := by decide

/-- A control character is read back from its escape. -/
theorem scanEscape_control {c : Char} (h : c.toNat < 32) (rest : List Char) :
    scanEscape ('u' :: '0' :: '0' :: hexDigit (c.toNat / 16) :: hexDigit (c.toNat % 16) :: rest) =
      some (c, rest) := by
  have hzero : hexValue '0' = some 0 := by decide
  have hhigh := hexValue_hexDigit (c.toNat / 16) (by omega)
  have hlow := hexValue_hexDigit (c.toNat % 16) (by omega)
  have hunit : 4096 * 0 + 256 * 0 + 16 * (c.toNat / 16) + c.toNat % 16 = c.toNat := by omega
  rw [scanEscape, scanUnicode, scanUnit, hzero, hhigh, hlow]
  simp only [Option.bind_eq_bind, Option.bind_some, hunit]
  rw [if_neg (by omega), if_neg (by omega), Char.ofNat_toNat]

/-- An escape stands for one character. -/
theorem scanString_backslash {fuel : Nat} {c : Char} {text rest : List Char}
    (h : scanEscape text = some (c, rest)) : scanString (fuel + 1) ('\\' :: text) =
      (scanString fuel rest).map fun scan => (c :: scan.1, scan.2) := by
  rw [scanString, if_neg (by decide), if_pos rfl, h, Option.bind_eq_bind, Option.bind_some]
  dsimp only
  cases scanString fuel rest <;> rfl

/-- An escaped character is read back. -/
theorem scanString_escapeChar (fuel : Nat) (c : Char) (text : List Char) :
    scanString (fuel + 1) ((escapeChar c).toList ++ text) =
      (scanString fuel text).map fun scan => (c :: scan.1, scan.2) := by
  unfold escapeChar
  split
  case h_8 hquote hslash _ _ _ _ _ =>
    split
    case isTrue hcontrol =>
      have htext : ("\\u00" ++ String.singleton (hexDigit (c.toNat / 16)) ++
          String.singleton (hexDigit (c.toNat % 16))).toList =
          ['\\', 'u', '0', '0', hexDigit (c.toNat / 16), hexDigit (c.toNat % 16)] := by
        simp
      rw [htext]
      exact scanString_backslash (scanEscape_control hcontrol text)
    case isFalse hplain =>
      rw [String.toList_singleton]
      show scanString (fuel + 1) (c :: text) = _
      rw [scanString, if_neg hquote, if_neg hslash, if_neg hplain]
      cases scanString fuel text <;> rfl
  all_goals exact scanString_backslash rfl

/-- A printed string is read back up to its closing quote. -/
theorem scanString_escape (chars : List Char) {fuel : Nat} (h : chars.length < fuel)
    (rest : List Char) : scanString fuel ((escape chars).toList ++ '"' :: rest) = some (chars, rest) := by
  induction chars generalizing fuel with
  | nil =>
    obtain ⟨fuel, rfl⟩ := Nat.exists_eq_add_one_of_ne_zero (Nat.ne_zero_of_lt h)
    exact if_pos rfl
  | cons c chars ih =>
    obtain ⟨fuel, rfl⟩ := Nat.exists_eq_add_one_of_ne_zero (Nat.ne_zero_of_lt h)
    rw [escape, String.toList_append, List.append_assoc, scanString_escapeChar,
      ih (Nat.lt_of_succ_lt_succ h)]
    rfl

theorem toList_printString (text : String) :
    (printString text).toList = '"' :: ((escape text.toList).toList ++ ['"']) := by
  rw [printString, String.toList_append, String.toList_append]
  rfl

theorem length_le_escape (chars : List Char) : chars.length ≤ (escape chars).toList.length := by
  induction chars with
  | nil => exact Nat.zero_le _
  | cons c chars ih =>
    have hpos : 0 < (escapeChar c).toList.length := by
      rw [List.length_pos_iff, ne_eq, String.toList_eq_nil_iff]
      intro hempty
      have hsize := (charSize_bounds c).1
      have hc := Char.utf8Size_pos c
      rw [charSize, hempty] at hsize
      exact absurd (Nat.lt_of_lt_of_le hc hsize) (by decide)
    rw [escape, String.toList_append, List.length_append, List.length_cons]
    omega

/-- A printed string is read back. -/
theorem parseString_print (text : String) (rest : List Char) :
    parseString ((printString text).toList ++ rest) = some (text, rest) := by
  have hlength := length_le_escape text.toList
  rw [toList_printString, List.cons_append, List.append_assoc, parseString]
  show Option.map _ (scanString _ (_ ++ '"' :: rest)) = _
  rw [scanString_escape text.toList (by simp only [List.length_cons, List.length_append]; omega)]
  exact congrArg (fun text => some (text, rest)) String.ofList_toList

/-! ## One step of the parser -/

/-- What is read after an item. -/
def moreItems (remaining fuel : Nat) (item : Value) (text : List Char) :
    Option (List Value × List Char) :=
  match skipSpace text with
  | ',' :: rest => (parseItems remaining fuel rest).map fun items => (item :: items.1, items.2)
  | ']' :: rest => some ([item], rest)
  | _ => none

/-- A member and what follows it. -/
def parseMember (remaining fuel : Nat) (text : List Char) :
    Option ((String × Value) × List Char) :=
  match parseString (skipSpace text) with
  | none => none
  | some (key, rest) =>
    match skipSpace rest with
    | ':' :: rest => (parseValue remaining fuel rest).map fun value => ((key, value.1), value.2)
    | _ => none

/-- What is read after a member. -/
def moreMembers (remaining fuel : Nat) (member : String × Value) (text : List Char) :
    Option (List (String × Value) × List Char) :=
  match skipSpace text with
  | ',' :: rest =>
    (parseMembers remaining fuel rest).map fun members => (member :: members.1, members.2)
  | '\x7d' :: rest => some ([member], rest)
  | _ => none

/-- Spaces in front of a member are skipped. -/
theorem parseMember_append {spaces : List Char} (h : ∀ c ∈ spaces, isSpace c = true)
    (remaining fuel : Nat) (text : List Char) :
    parseMember remaining fuel (spaces ++ text) = parseMember remaining fuel text := by
  rw [parseMember, parseMember, skipSpace_append h]

theorem parseItems_succ (remaining fuel : Nat) (text : List Char) :
    parseItems remaining (fuel + 1) text = (parseValue remaining fuel text).bind fun value =>
      moreItems remaining fuel value.1 value.2 := by
  rw [parseItems]
  cases parseValue remaining fuel text with
  | none => rfl
  | some value => rfl

theorem parseMembers_succ (remaining fuel : Nat) (text : List Char) :
    parseMembers remaining (fuel + 1) text = (parseMember remaining fuel text).bind fun member =>
      moreMembers remaining fuel member.1 member.2 := by
  rw [parseMembers, parseMember]
  cases parseString (skipSpace text) with
  | none => rfl
  | some key =>
    obtain ⟨key, rest⟩ := key
    dsimp only
    cases skipSpace rest with
    | nil => rfl
    | cons c tail =>
      by_cases hcolon : c = ':'
      · subst hcolon
        show _ = ((parseValue remaining fuel tail).map fun value => ((key, value.1), value.2)).bind _
        cases hvalue : parseValue remaining fuel tail with
        | none => simp only [hvalue, Option.map_none, Option.bind_none]
        | some value =>
          simp only [hvalue, Option.map_some, Option.bind_some]
          rfl
      · simp only [List.cons.injEq, hcolon, false_and, imp_self, implies_true, Option.bind_none]

/-- An array that is not empty. -/
theorem parseValue_items {remaining fuel : Nat} {text rest : List Char} {c : Char}
    (htext : skipSpace text = c :: rest) (hc : c ≠ ']') :
    parseValue remaining (fuel + 1) ('[' :: text) =
      match remaining with
      | 0 => none
      | remaining + 1 =>
        (parseItems remaining fuel (c :: rest)).map fun items => (.array items.1, items.2) := by
  rw [parseValue, skipSpace_cons (by decide)]
  cases remaining with
  | zero => rfl
  | succ remaining =>
    simp only [htext]
    split
    case h_1 heq => exact absurd (List.cons.inj heq).1 hc
    case h_2 => rfl

/-- An object that is not empty. -/
theorem parseValue_members {remaining fuel : Nat} {text rest : List Char} {c : Char}
    (htext : skipSpace text = c :: rest) (hc : c ≠ '\x7d') :
    parseValue remaining (fuel + 1) ('\x7b' :: text) =
      match remaining with
      | 0 => none
      | remaining + 1 => (parseMembers remaining fuel (c :: rest)).map fun members =>
        (.object (collectMembers members.1), members.2) := by
  rw [parseValue, skipSpace_cons (by decide)]
  cases remaining with
  | zero => rfl
  | succ remaining =>
    simp only [htext]
    split
    case h_1 heq => exact absurd (List.cons.inj heq).1 hc
    case h_2 => rfl

/-- A value that begins like a number is one. -/
theorem parseValue_number (remaining fuel : Nat) {c : Char} (hc : inNumber c = true)
    (text : List Char) : parseValue remaining (fuel + 1) (c :: text) =
      (parseNumber (c :: text)).map fun number => (.number number.1, number.2) := by
  have hspace : isSpace c = false := by
    by_contra h
    simp only [isSpace, Bool.not_eq_false, Bool.or_eq_true, decide_eq_true_eq] at h
    obtain ((rfl | rfl) | rfl) | rfl := h <;> exact absurd hc (by decide)
  rw [parseValue, skipSpace_cons hspace]
  split
  case h_7 => rfl
  all_goals
    rename_i heq
    rw [(List.cons.inj heq).1] at hc
    exact absurd hc (by decide)

/-! ## Indented texts -/

theorem toList_pretty_array (depth : Nat) (item : Value) (items : List Value) :
    ((Value.array (item :: items)).printPretty depth).toList =
      '[' :: (lineBreak (depth + 1) ++ ((item.printPretty (depth + 1)).toList ++
        ((Value.prettyItems (depth + 1) items).toList ++ (lineBreak depth ++ [']'])))) := by
  simp [Value.printPretty, indent, lineBreak]

theorem toList_pretty_object (depth : Nat) (member : String × Value)
    (members : List (String × Value)) :
    ((Value.object (member :: members)).printPretty depth).toList =
      '\x7b' :: (lineBreak (depth + 1) ++ ((Value.prettyMember (depth + 1) member).toList ++
        ((Value.prettyMembers (depth + 1) members).toList ++ (lineBreak depth ++ ['\x7d'])))) := by
  simp [Value.printPretty, indent, lineBreak]

theorem toList_prettyItems (depth : Nat) (item : Value) (items : List Value) :
    (Value.prettyItems depth (item :: items)).toList = ',' :: (lineBreak depth ++
      ((item.printPretty depth).toList ++ (Value.prettyItems depth items).toList)) := by
  simp [Value.prettyItems, indent, lineBreak]

theorem toList_prettyMembers (depth : Nat) (member : String × Value)
    (members : List (String × Value)) :
    (Value.prettyMembers depth (member :: members)).toList = ',' :: (lineBreak depth ++
      ((Value.prettyMember depth member).toList ++ (Value.prettyMembers depth members).toList)) := by
  simp [Value.prettyMembers, indent, lineBreak]

theorem toList_prettyMember (depth : Nat) (key : String) (value : Value) :
    (Value.prettyMember depth (key, value)).toList =
      (printString key).toList ++ ':' :: ' ' :: (value.printPretty depth).toList := by
  simp [Value.prettyMember]

/-- A printed number begins with a character of a number. -/
theorem head_print (number : Number) :
    ∃ c rest, number.print.toList = c :: rest ∧ inNumber c = true := by
  obtain ⟨scan, hscan, hrest, -⟩ := scanNumber_print number
  obtain ⟨htext, hchars⟩ := scanNumber_splits hscan
  rw [hrest, List.append_nil] at htext
  rw [htext] at hchars
  cases htext : number.print.toList with
  | nil =>
    rw [htext] at hscan
    cases hscan
  | cons c rest => exact ⟨c, rest, rfl, hchars c (htext ▸ List.mem_cons_self)⟩

/-- A printed value begins with no space and with no closing bracket. -/
theorem head_printPretty (depth : Nat) (value : Value) :
    ∃ c rest, (value.printPretty depth).toList = c :: rest ∧ isSpace c = false ∧ c ≠ ']' := by
  cases value with
  | null => exact ⟨'n', _, by rw [Value.printPretty]; rfl, by decide, by decide⟩
  | bool value =>
    cases value
    · exact ⟨'f', _, by rw [Value.printPretty]; rfl, by decide, by decide⟩
    · exact ⟨'t', _, by rw [Value.printPretty]; rfl, by decide, by decide⟩
  | number value =>
    obtain ⟨c, rest, htext, hc⟩ := head_print value
    refine ⟨c, rest, by rw [Value.printPretty, htext], ?_, ?_⟩
    · by_contra h
      simp only [isSpace, Bool.not_eq_false, Bool.or_eq_true, decide_eq_true_eq] at h
      obtain ((rfl | rfl) | rfl) | rfl := h <;> exact absurd hc (by decide)
    · rintro rfl
      exact absurd hc (by decide)
  | string text =>
    exact ⟨'"', _, by rw [Value.printPretty, toList_printString], by decide, by decide⟩
  | array items =>
    cases items with
    | nil => exact ⟨'[', _, by rw [Value.printPretty]; rfl, by decide, by decide⟩
    | cons item items => exact ⟨'[', _, toList_pretty_array depth item items, by decide, by decide⟩
  | object members =>
    cases members with
    | nil => exact ⟨'\x7b', _, by rw [Value.printPretty]; rfl, by decide, by decide⟩
    | cons member members =>
      exact ⟨'\x7b', _, toList_pretty_object depth member members, by decide, by decide⟩

theorem endsNumber_lineBreak (depth : Nat) (rest : List Char) : EndsNumber (lineBreak depth ++ rest) :=
  endsNumber_cons (by decide) _

/-- What follows an item is no part of it. -/
theorem endsNumber_prettyItems (depth outer : Nat) (items : List Value) (rest : List Char) :
    EndsNumber ((Value.prettyItems depth items).toList ++ (lineBreak outer ++ rest)) := by
  cases items with
  | nil =>
    rw [Value.prettyItems]
    exact endsNumber_lineBreak outer rest
  | cons item items =>
    rw [toList_prettyItems]
    exact endsNumber_cons (by decide) _

/-- What follows a member is no part of it. -/
theorem endsNumber_prettyMembers (depth outer : Nat) (members : List (String × Value))
    (rest : List Char) :
    EndsNumber ((Value.prettyMembers depth members).toList ++ (lineBreak outer ++ rest)) := by
  cases members with
  | nil =>
    rw [Value.prettyMembers]
    exact endsNumber_lineBreak outer rest
  | cons member members =>
    rw [toList_prettyMembers]
    exact endsNumber_cons (by decide) _

/-! ## The round trip -/

/-- The indented text of a value is read back, unless it is nested too deeply. -/
def ReadsBack (value : Value) : Prop :=
  ∀ (remaining fuel depth : Nat) (rest : List Char),
    (value.printPretty depth).toList.length < fuel → EndsNumber rest →
    parseValue remaining fuel ((value.printPretty depth).toList ++ rest) =
      if value.nesting ≤ remaining then some (value.merged, rest) else none

/-- The items after an item are read back. -/
def ItemsReadBack (items : List Value) : Prop :=
  ∀ (remaining fuel depth outer : Nat) (first : Value) (rest : List Char),
    (Value.prettyItems depth items).toList.length < fuel →
    moreItems remaining fuel first
        ((Value.prettyItems depth items).toList ++ (lineBreak outer ++ (']' :: rest))) =
      if Value.nestingItems items ≤ remaining then some (first :: Value.mergedItems items, rest)
      else none

/-- A member is read back. -/
def MemberReadsBack (member : String × Value) : Prop :=
  ∀ (remaining fuel depth : Nat) (rest : List Char),
    (Value.prettyMember depth member).toList.length < fuel → EndsNumber rest →
    parseMember remaining fuel ((Value.prettyMember depth member).toList ++ rest) =
      if Value.nestingMember member ≤ remaining then some (Value.mergedMember member, rest) else none

/-- The members after a member are read back. -/
def MembersReadBack (members : List (String × Value)) : Prop :=
  ∀ (remaining fuel depth outer : Nat) (first : String × Value) (rest : List Char),
    (Value.prettyMembers depth members).toList.length < fuel →
    moreMembers remaining fuel first
        ((Value.prettyMembers depth members).toList ++ (lineBreak outer ++ ('\x7d' :: rest))) =
      if Value.nestingMembers members ≤ remaining then
        some (first :: Value.mergedMembers members, rest)
      else none

theorem moreItems_comma {remaining fuel : Nat} {item : Value} {text rest : List Char}
    (h : skipSpace text = ',' :: rest) : moreItems remaining fuel item text =
      (parseItems remaining fuel rest).map fun items => (item :: items.1, items.2) := by
  rw [moreItems, h]
  rfl

theorem moreItems_close {remaining fuel : Nat} {item : Value} {text rest : List Char}
    (h : skipSpace text = ']' :: rest) : moreItems remaining fuel item text = some ([item], rest) := by
  rw [moreItems, h]
  rfl

theorem moreMembers_comma {remaining fuel : Nat} {member : String × Value} {text rest : List Char}
    (h : skipSpace text = ',' :: rest) : moreMembers remaining fuel member text =
      (parseMembers remaining fuel rest).map fun members => (member :: members.1, members.2) := by
  rw [moreMembers, h]
  rfl

theorem moreMembers_close {remaining fuel : Nat} {member : String × Value} {text rest : List Char}
    (h : skipSpace text = '\x7d' :: rest) :
    moreMembers remaining fuel member text = some ([member], rest) := by
  rw [moreMembers, h]
  rfl

theorem readsBack_null : ReadsBack .null := by
  intro remaining fuel depth rest hfuel _
  obtain ⟨fuel, rfl⟩ := Nat.exists_eq_add_one_of_ne_zero (Nat.ne_zero_of_lt hfuel)
  rw [Value.printPretty, Value.nesting, if_pos (Nat.zero_le _)]
  show parseValue remaining (fuel + 1) ('n' :: 'u' :: 'l' :: 'l' :: rest) = _
  rw [parseValue, skipSpace_cons (by decide)]
  rfl

theorem readsBack_bool (value : Bool) : ReadsBack (.bool value) := by
  intro remaining fuel depth rest hfuel _
  obtain ⟨fuel, rfl⟩ := Nat.exists_eq_add_one_of_ne_zero (Nat.ne_zero_of_lt hfuel)
  rw [Value.printPretty, Value.nesting, if_pos (Nat.zero_le _)]
  cases value with
  | false =>
    show parseValue remaining (fuel + 1) ('f' :: 'a' :: 'l' :: 's' :: 'e' :: rest) = _
    rw [parseValue, skipSpace_cons (by decide)]
    rfl
  | true =>
    show parseValue remaining (fuel + 1) ('t' :: 'r' :: 'u' :: 'e' :: rest) = _
    rw [parseValue, skipSpace_cons (by decide)]
    rfl

theorem readsBack_number (value : Number) : ReadsBack (.number value) := by
  intro remaining fuel depth rest hfuel hrest
  obtain ⟨fuel, rfl⟩ := Nat.exists_eq_add_one_of_ne_zero (Nat.ne_zero_of_lt hfuel)
  obtain ⟨c, text, htext, hc⟩ := head_print value
  have hnumber := parseNumber_print value hrest
  rw [Value.printPretty, Value.nesting, if_pos (Nat.zero_le _)]
  rw [htext, List.cons_append] at hnumber ⊢
  rw [parseValue_number remaining fuel hc, hnumber]
  rfl

theorem readsBack_string (text : String) : ReadsBack (.string text) := by
  intro remaining fuel depth rest hfuel _
  obtain ⟨fuel, rfl⟩ := Nat.exists_eq_add_one_of_ne_zero (Nat.ne_zero_of_lt hfuel)
  have hstring := parseString_print text rest
  rw [Value.printPretty, Value.nesting, if_pos (Nat.zero_le _)]
  rw [toList_printString, List.cons_append] at hstring ⊢
  rw [parseValue, skipSpace_cons (by decide)]
  exact congrArg (Option.map fun text : String × List Char => (Value.string text.1, text.2)) hstring

theorem readsBack_array_nil : ReadsBack (.array []) := by
  intro remaining fuel depth rest hfuel _
  obtain ⟨fuel, rfl⟩ := Nat.exists_eq_add_one_of_ne_zero (Nat.ne_zero_of_lt hfuel)
  rw [Value.printPretty, Value.nesting, Value.nestingItems]
  show parseValue remaining (fuel + 1) ('[' :: ']' :: rest) = _
  rw [parseValue, skipSpace_cons (by decide)]
  cases remaining <;> rfl

theorem readsBack_object_nil : ReadsBack (.object []) := by
  intro remaining fuel depth rest hfuel _
  obtain ⟨fuel, rfl⟩ := Nat.exists_eq_add_one_of_ne_zero (Nat.ne_zero_of_lt hfuel)
  rw [Value.printPretty, Value.nesting, Value.nestingMembers]
  show parseValue remaining (fuel + 1) ('\x7b' :: '\x7d' :: rest) = _
  rw [parseValue, skipSpace_cons (by decide)]
  cases remaining <;> rfl

/-- Two parts that each fit are read one after the other. -/
theorem readBoth {α β γ : Type} {first : α} {text : List Char} {rest : β} {a b limit : Nat}
    (after : α → List Char → Option β) (combine : β → γ)
    (hafter : after first text = if b ≤ limit then some rest else none) :
    ((if a ≤ limit then some (first, text) else none).bind fun value =>
        after value.1 value.2).map combine =
      if max a b ≤ limit then some (combine rest) else none := by
  by_cases ha : a ≤ limit
  · rw [if_pos ha, Option.bind_some, hafter]
    by_cases hb : b ≤ limit
    · rw [if_pos hb, if_pos (Nat.max_le.2 ⟨ha, hb⟩)]
      rfl
    · rw [if_neg hb, if_neg fun h => hb (Nat.max_le.1 h).2]
      rfl
  · rw [if_neg ha, if_neg fun h => ha (Nat.max_le.1 h).1]
    rfl

theorem ReadsBack.array {item : Value} {items : List Value} (hitem : ReadsBack item)
    (hitems : ItemsReadBack items) : ReadsBack (.array (item :: items)) := by
  intro remaining fuel depth rest hfuel _
  obtain ⟨fuel, rfl⟩ := Nat.exists_eq_add_one_of_ne_zero (Nat.ne_zero_of_lt hfuel)
  obtain ⟨c, text, htext, hc, hclose⟩ := head_printPretty (depth + 1) item
  rw [toList_pretty_array] at hfuel ⊢
  simp only [List.length_cons, List.length_append, List.length_nil, lineBreak] at hfuel
  have hskip : ∀ tail, skipSpace (lineBreak (depth + 1) ++ ((item.printPretty (depth + 1)).toList ++
      tail)) = c :: (text ++ tail) := by
    intro tail
    rw [skipSpace_lineBreak, htext]
    exact skipSpace_cons hc _
  simp only [List.cons_append, List.append_assoc, List.nil_append]
  rw [parseValue_items (hskip _) hclose, ← List.cons_append, ← htext, Value.nesting,
    Value.nestingItems]
  cases remaining with
  | zero => exact (if_neg (Nat.not_succ_le_zero _)).symm
  | succ remaining =>
    obtain ⟨fuel, rfl⟩ : ∃ k, fuel = k + 1 := Nat.exists_eq_add_one_of_ne_zero (by omega)
    dsimp only
    rw [parseItems_succ, hitem _ _ _ _ (by omega) (endsNumber_prettyItems _ _ _ _)]
    simp only [Nat.add_le_add_iff_right]
    exact readBoth (moreItems remaining fuel) (fun items : List Value × List Char => (Value.array items.1, items.2))
      (hitems remaining fuel (depth + 1) depth item.merged rest (by omega))

theorem MemberReadsBack.object {member : String × Value} {members : List (String × Value)}
    (hmember : MemberReadsBack member) (hmembers : MembersReadBack members) :
    ReadsBack (.object (member :: members)) := by
  intro remaining fuel depth rest hfuel _
  obtain ⟨fuel, rfl⟩ := Nat.exists_eq_add_one_of_ne_zero (Nat.ne_zero_of_lt hfuel)
  obtain ⟨text, htext⟩ : ∃ text, (Value.prettyMember (depth + 1) member).toList = '"' :: text := by
    obtain ⟨key, value⟩ := member
    exact ⟨_, by rw [toList_prettyMember, toList_printString, List.cons_append]⟩
  rw [toList_pretty_object] at hfuel ⊢
  simp only [List.length_cons, List.length_append, List.length_nil, lineBreak] at hfuel
  have hskip : ∀ tail, skipSpace (lineBreak (depth + 1) ++
      ((Value.prettyMember (depth + 1) member).toList ++ tail)) = '"' :: (text ++ tail) := by
    intro tail
    rw [skipSpace_lineBreak, htext]
    exact skipSpace_cons (by decide) _
  simp only [List.cons_append, List.append_assoc, List.nil_append]
  rw [parseValue_members (hskip _) (by decide), ← List.cons_append, ← htext, Value.nesting,
    Value.nestingMembers]
  cases remaining with
  | zero => exact (if_neg (Nat.not_succ_le_zero _)).symm
  | succ remaining =>
    obtain ⟨fuel, rfl⟩ : ∃ k, fuel = k + 1 := Nat.exists_eq_add_one_of_ne_zero (by omega)
    dsimp only
    rw [parseMembers_succ, hmember _ _ _ _ (by omega) (endsNumber_prettyMembers _ _ _ _)]
    simp only [Nat.add_le_add_iff_right]
    exact readBoth (moreMembers remaining fuel) (fun members : List (String × Value) × List Char =>
        (Value.object (collectMembers members.1), members.2))
      (hmembers remaining fuel (depth + 1) depth (Value.mergedMember member) rest (by omega))

theorem itemsReadBack_nil : ItemsReadBack [] := by
  intro remaining fuel depth outer first rest _
  rw [Value.prettyItems, Value.nestingItems, if_pos (Nat.zero_le _)]
  refine moreItems_close ?_
  show skipSpace (lineBreak outer ++ (']' :: rest)) = _
  rw [skipSpace_lineBreak, skipSpace_cons (by decide)]

theorem ReadsBack.items {item : Value} {items : List Value} (hitem : ReadsBack item)
    (hitems : ItemsReadBack items) : ItemsReadBack (item :: items) := by
  intro remaining fuel depth outer first rest hfuel
  rw [toList_prettyItems] at hfuel ⊢
  simp only [List.length_cons, List.length_append, lineBreak] at hfuel
  obtain ⟨fuel, rfl⟩ : ∃ k, fuel = k + 1 := Nat.exists_eq_add_one_of_ne_zero (by omega)
  simp only [List.cons_append, List.append_assoc]
  rw [moreItems_comma (skipSpace_cons (by decide) _), parseItems_succ,
    parseValue_append (fun _ => isSpace_of_mem_lineBreak),
    hitem _ _ _ _ (by omega) (endsNumber_prettyItems _ _ _ _), Value.nestingItems]
  exact readBoth (moreItems remaining fuel) (fun items : List Value × List Char => (first :: items.1, items.2))
    (hitems remaining fuel depth outer item.merged rest (by omega))

theorem ReadsBack.member {value : Value} (hvalue : ReadsBack value) (key : String) :
    MemberReadsBack (key, value) := by
  intro remaining fuel depth rest hfuel hrest
  rw [toList_prettyMember] at hfuel ⊢
  simp only [List.length_cons, List.length_append] at hfuel
  have hkey := parseString_print key (':' :: ' ' :: ((value.printPretty depth).toList ++ rest))
  rw [List.append_assoc, List.cons_append, List.cons_append, parseMember]
  rw [toList_printString, List.cons_append] at hkey ⊢
  rw [skipSpace_cons (by decide), hkey]
  have hspace : parseValue remaining fuel (' ' :: ((value.printPretty depth).toList ++ rest)) =
      parseValue remaining fuel ((value.printPretty depth).toList ++ rest) := by
    refine @parseValue_append [' '] (fun c hc => ?_) remaining fuel _
    rw [List.mem_singleton.1 hc]
    rfl
  show (parseValue remaining fuel (' ' :: _)).map (fun value => ((key, value.1), value.2)) = _
  rw [hspace, hvalue remaining fuel depth rest (by omega) hrest, Value.nestingMember]
  split <;> rfl

theorem membersReadBack_nil : MembersReadBack [] := by
  intro remaining fuel depth outer first rest _
  rw [Value.prettyMembers, Value.nestingMembers, if_pos (Nat.zero_le _)]
  refine moreMembers_close ?_
  show skipSpace (lineBreak outer ++ ('\x7d' :: rest)) = _
  rw [skipSpace_lineBreak, skipSpace_cons (by decide)]

theorem MemberReadsBack.members {member : String × Value} {members : List (String × Value)}
    (hmember : MemberReadsBack member) (hmembers : MembersReadBack members) :
    MembersReadBack (member :: members) := by
  intro remaining fuel depth outer first rest hfuel
  rw [toList_prettyMembers] at hfuel ⊢
  simp only [List.length_cons, List.length_append, lineBreak] at hfuel
  obtain ⟨fuel, rfl⟩ : ∃ k, fuel = k + 1 := Nat.exists_eq_add_one_of_ne_zero (by omega)
  simp only [List.cons_append, List.append_assoc]
  rw [moreMembers_comma (skipSpace_cons (by decide) _), parseMembers_succ,
    parseMember_append (fun _ => isSpace_of_mem_lineBreak),
    hmember _ _ _ _ (by omega) (endsNumber_prettyMembers _ _ _ _), Value.nestingMembers]
  exact readBoth (moreMembers remaining fuel) (fun members : List (String × Value) × List Char => (first :: members.1, members.2))
    (hmembers remaining fuel depth outer (Value.mergedMember member) rest (by omega))

mutual

/-- An indented value is read back, unless it is nested too deeply. -/
theorem readsBack : (value : Value) → ReadsBack value
  | .null => readsBack_null
  | .bool value => readsBack_bool value
  | .number value => readsBack_number value
  | .string text => readsBack_string text
  | .array [] => readsBack_array_nil
  | .array (item :: items) => (readsBack item).array (itemsReadBack items)
  | .object [] => readsBack_object_nil
  | .object (member :: members) => (memberReadsBack member).object (membersReadBack members)

/-- Indented items are read back. -/
theorem itemsReadBack : (items : List Value) → ItemsReadBack items
  | [] => itemsReadBack_nil
  | item :: items => (readsBack item).items (itemsReadBack items)

/-- An indented member is read back. -/
theorem memberReadsBack : (member : String × Value) → MemberReadsBack member
  | (key, value) => (readsBack value).member key

/-- Indented members are read back. -/
theorem membersReadBack : (members : List (String × Value)) → MembersReadBack members
  | [] => membersReadBack_nil
  | member :: members => (memberReadsBack member).members (membersReadBack members)

end

/-- The text of a value is parsed exactly if the value is not nested too deeply. -/
theorem parse_printPretty (value : Value) : parse (value.printPretty 0) =
    if value.nesting < recursionLimit then some value.merged else none := by
  have hread := readsBack value (recursionLimit - 1) ((value.printPretty 0).toList.length + 1) 0 []
    (Nat.lt_succ_self _) endsNumber_nil
  rw [List.append_nil] at hread
  rw [parse, hread]
  by_cases hnesting : value.nesting ≤ recursionLimit - 1
  · rw [if_pos hnesting, if_pos (Nat.lt_of_le_pred (by decide) hnesting)]
    rfl
  · rw [if_neg hnesting, if_neg fun h => hnesting (Nat.le_pred_of_lt h)]

end Serde
