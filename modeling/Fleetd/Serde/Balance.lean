import Fleetd.Serde.Numbers
import Fleetd.Serde.RoundTrip

/-!
# Balanced brackets

A scanner follows the brackets of a text and the strings in which brackets do not count. Whatever
the parser takes as a value is balanced, so a text whose brackets are still open somewhere cannot be
closed by a value that follows it.
-/

namespace Serde

/-! ## The scanner -/

/-- Where a text stands between its characters. -/
inductive Place
  | outside
  | text
  | escaped
  deriving DecidableEq, Repr

/-- A place and the number of brackets that are open there. -/
abbrev Brackets : Type := Place × Nat

/-- Follows one character; a closing bracket needs an open one, and strings have no line breaks. -/
def followChar (brackets : Brackets) (c : Char) : Option Brackets :=
  match brackets.1 with
  | .outside =>
    if c = '"' then some (.text, brackets.2)
    else if c = '[' ∨ c = '\x7b' then some (.outside, brackets.2 + 1)
    else if c = ']' ∨ c = '\x7d' then
      if brackets.2 = 0 then none else some (.outside, brackets.2 - 1)
    else some (.outside, brackets.2)
  | .text =>
    if c = '"' then some (.outside, brackets.2)
    else if c = '\\' then some (.escaped, brackets.2)
    else if c.toNat < 32 then none
    else some (.text, brackets.2)
  | .escaped => some (.text, brackets.2)

/-- Follows a text. -/
def follow (text : List Char) (brackets : Brackets) : Option Brackets :=
  text.foldlM followChar brackets

@[simp] theorem follow_nil (brackets : Brackets) : follow [] brackets = some brackets := rfl

@[simp] theorem follow_cons (c : Char) (text : List Char) (brackets : Brackets) :
    follow (c :: text) brackets = (followChar brackets c).bind (follow text) := rfl

@[simp] theorem follow_append (text rest : List Char) (brackets : Brackets) :
    follow (text ++ rest) brackets = (follow text brackets).bind (follow rest) :=
  List.foldlM_append

/-- A text that closes what it opens, whatever is open around it. -/
def Balanced (text : List Char) : Prop :=
  ∀ depth, follow text (.outside, depth) = some (.outside, depth)

/-- A character that opens and closes nothing. -/
def isQuiet (c : Char) : Bool := c ≠ '"' && c ≠ '[' && c ≠ ']' && c ≠ '\x7b' && c ≠ '\x7d'

theorem balanced_nil : Balanced [] := fun _ => rfl

theorem Balanced.append {text rest : List Char} (h : Balanced text) (hrest : Balanced rest) :
    Balanced (text ++ rest) := fun depth => by
  rw [follow_append, h depth, Option.bind_some, hrest depth]

theorem balanced_of_quiet {text : List Char} (h : ∀ c ∈ text, isQuiet c = true) : Balanced text := by
  intro depth
  induction text with
  | nil => rfl
  | cons c text ih =>
    have hc := h c List.mem_cons_self
    simp only [isQuiet, Bool.and_eq_true, decide_eq_true_eq] at hc
    obtain ⟨⟨⟨⟨hquote, hopen⟩, hclose⟩, hbrace⟩, hend⟩ := hc
    have hfollow : followChar (.outside, depth) c = some (.outside, depth) :=
      (if_neg hquote).trans ((if_neg (not_or.2 ⟨hopen, hbrace⟩)).trans
        (if_neg (not_or.2 ⟨hclose, hend⟩)))
    rw [follow_cons, hfollow, Option.bind_some]
    exact ih fun c hc => h c (List.mem_cons_of_mem _ hc)

/-- A balanced text in brackets is balanced. -/
theorem Balanced.brackets {text : List Char} (h : Balanced text) {opening closing : Char}
    (hopening : opening = '[' ∨ opening = '\x7b') (hclosing : closing = ']' ∨ closing = '\x7d') :
    Balanced (opening :: (text ++ [closing])) := by
  intro depth
  have hopen : followChar (.outside, depth) opening = some (.outside, depth + 1) := by
    obtain rfl | rfl := hopening <;> rfl
  have hclose : followChar (.outside, depth + 1) closing = some (.outside, depth) := by
    obtain rfl | rfl := hclosing <;> rfl
  rw [follow_cons, hopen, Option.bind_some, follow_append, h (depth + 1), Option.bind_some, follow_cons,
    hclose]
  rfl

theorem isQuiet_of_isSpace {c : Char} (h : isSpace c = true) : isQuiet c = true := by
  simp only [isSpace, Bool.or_eq_true, decide_eq_true_eq] at h
  obtain ((rfl | rfl) | rfl) | rfl := h <;> decide

theorem isQuiet_of_inNumber {c : Char} (h : inNumber c = true) : isQuiet c = true := by
  by_contra hloud
  simp only [isQuiet, Bool.and_eq_true, decide_eq_true_eq, not_and_or, not_not] at hloud
  obtain (((rfl | rfl) | rfl) | rfl) | rfl := hloud <;> exact absurd h (by decide)

/-! ## What the parser takes -/

/-- Spaces are balanced. -/
theorem exists_skipSpace (text : List Char) :
    ∃ spaces, text = spaces ++ skipSpace text ∧ Balanced spaces :=
  ⟨text.takeWhile isSpace, List.takeWhile_append_dropWhile.symm,
    balanced_of_quiet fun _ hc => isQuiet_of_isSpace (List.mem_takeWhile_imp hc)⟩

/-- A part of a string, between its quotes. -/
def InString (text : List Char) : Prop := ∀ depth, follow text (.text, depth) = some (.text, depth)

theorem InString.append {text rest : List Char} (h : InString text) (hrest : InString rest) :
    InString (text ++ rest) := fun depth => by
  rw [follow_append, h depth, Option.bind_some, hrest depth]

/-- What follows a backslash is no quote. -/
theorem InString.escape {text : List Char} (h : InString text) (c : Char) :
    InString ('\\' :: c :: text) := h

/-- A character that needs no escape. -/
theorem inString_cons {c : Char} {text : List Char} (hquote : c ≠ '"') (hslash : c ≠ '\\')
    (hplain : ¬ c.toNat < 32) (h : InString text) : InString (c :: text) := by
  intro depth
  have hfollow : followChar (.text, depth) c = some (.text, depth) :=
    (if_neg hquote).trans ((if_neg hslash).trans (if_neg hplain))
  rw [follow_cons, hfollow, Option.bind_some, h depth]

/-- A hexadecimal digit needs no escape. -/
theorem inString_hexDigit {c : Char} {n : Nat} (hc : hexValue c = some n) {text : List Char}
    (h : InString text) : InString (c :: text) := by
  refine inString_cons ?_ ?_ ?_ h
  · rintro rfl
    cases hc
  · rintro rfl
    cases hc
  · intro hlow
    have hnone : hexValue c = none := by
      have hle : ∀ {a b : Char}, a ≤ b → a.toNat ≤ b.toNat := fun h => UInt32.le_iff_toNat_le.1 h
      unfold hexValue
      rw [if_neg, if_neg, if_neg]
      · exact fun h => absurd (hle h.1) (by simpa using Nat.lt_of_lt_of_le hlow (by decide))
      · exact fun h => absurd (hle h.1) (by simpa using Nat.lt_of_lt_of_le hlow (by decide))
      · exact fun h => absurd (hle h.1) (by simpa using Nat.lt_of_lt_of_le hlow (by decide))
    rw [hnone] at hc
    cases hc

/-- Four digits are a part of a string. -/
theorem scanUnit_inString {text rest : List Char} {unit : Nat} (h : scanUnit text = some (unit, rest)) :
    ∃ used, text = used ++ rest ∧ InString used := by
  unfold scanUnit at h
  split at h
  case h_1 a b c d tail =>
    simp only [Option.bind_eq_bind, Option.bind_eq_some_iff, Option.some.injEq, Prod.mk.injEq] at h
    obtain ⟨_, ha, _, hb, _, hc, _, hd, -, rfl⟩ := h
    have hnil : InString [] := fun _ => rfl
    exact ⟨[a, b, c, d], rfl, inString_hexDigit ha (inString_hexDigit hb (inString_hexDigit hc
      (inString_hexDigit hd hnil)))⟩
  case h_2 => cases h

theorem scanLowSurrogate_inString {text rest : List Char} {low : Nat}
    (h : scanLowSurrogate text = some (low, rest)) : ∃ used, text = used ++ rest ∧ InString used := by
  unfold scanLowSurrogate at h
  split at h
  case h_1 tail =>
    simp only [Option.bind_eq_bind, Option.bind_eq_some_iff] at h
    obtain ⟨⟨unit, after⟩, hunit, h⟩ := h
    obtain ⟨used, rfl, hused⟩ := scanUnit_inString hunit
    dsimp only at h
    split at h
    · cases h
      exact ⟨'\\' :: 'u' :: used, rfl, hused.escape 'u'⟩
    · cases h
  case h_2 => cases h

theorem scanUnicode_inString {text rest : List Char} {c : Char}
    (h : scanUnicode text = some (c, rest)) : ∃ used, text = used ++ rest ∧ InString used := by
  unfold scanUnicode at h
  simp only [Option.bind_eq_bind, Option.bind_eq_some_iff] at h
  obtain ⟨⟨unit, after⟩, hunit, h⟩ := h
  obtain ⟨used, rfl, hused⟩ := scanUnit_inString hunit
  dsimp only at h
  split at h
  · simp only [Option.bind_eq_some_iff, Option.some.injEq, Prod.mk.injEq] at h
    obtain ⟨⟨low, last⟩, hlow, -, rfl⟩ := h
    obtain ⟨more, rfl, hmore⟩ := scanLowSurrogate_inString hlow
    exact ⟨used ++ more, (List.append_assoc used more _).symm, hused.append hmore⟩
  split at h
  · cases h
  · cases h
    exact ⟨used, rfl, hused⟩

/-- An escape is a part of a string. -/
theorem scanEscape_inString {text rest : List Char} {c : Char} (h : scanEscape text = some (c, rest)) :
    ∃ used, text = used ++ rest ∧ InString ('\\' :: used) := by
  have hnil : InString [] := fun _ => rfl
  unfold scanEscape at h
  split at h
  case h_9 tail =>
    obtain ⟨used, rfl, hused⟩ := scanUnicode_inString h
    exact ⟨'u' :: used, rfl, hused.escape 'u'⟩
  case h_10 => cases h
  all_goals
    cases h
    exact ⟨[_], rfl, hnil.escape _⟩

/-- The characters of a string run up to its closing quote. -/
theorem scanString_inString {fuel : Nat} {text rest chars : List Char}
    (h : scanString fuel text = some (chars, rest)) :
    ∃ used, text = used ++ '"' :: rest ∧ InString used := by
  induction fuel generalizing text chars with
  | zero => cases h
  | succ fuel ih =>
    cases text with
    | nil => cases h
    | cons c text =>
      rw [scanString] at h
      split at h
      case isTrue hquote =>
        cases h
        exact ⟨[], hquote ▸ rfl, fun _ => rfl⟩
      case isFalse hquote =>
        split at h
        case isTrue hslash =>
          simp only [Option.bind_eq_bind, Option.bind_eq_some_iff, Option.some.injEq,
            Prod.mk.injEq] at h
          obtain ⟨⟨escaped, after⟩, hescape, ⟨more, last⟩, hscan, -, rfl⟩ := h
          obtain ⟨used, rfl, hused⟩ := scanEscape_inString hescape
          obtain ⟨tail, htail, hin⟩ := ih hscan
          dsimp only at htail
          rw [htail, hslash]
          exact ⟨'\\' :: used ++ tail, by simp, hused.append hin⟩
        case isFalse hslash =>
          split at h
          case isTrue => cases h
          case isFalse hplain =>
            simp only [Option.bind_eq_bind, Option.bind_eq_some_iff, Option.some.injEq,
              Prod.mk.injEq] at h
            obtain ⟨⟨more, last⟩, hscan, -, rfl⟩ := h
            obtain ⟨tail, rfl, hin⟩ := ih hscan
            exact ⟨c :: tail, rfl, inString_cons hquote hslash hplain hin⟩

/-- A string is balanced. -/
theorem parseString_balanced {text rest : List Char} {value : String}
    (h : parseString text = some (value, rest)) : ∃ used, text = used ++ rest ∧ Balanced used := by
  unfold parseString at h
  split at h
  case h_1 tail =>
    rw [Option.map_eq_some_iff] at h
    obtain ⟨⟨chars, after⟩, hscan, hpair⟩ := h
    obtain ⟨used, rfl, hused⟩ := scanString_inString hscan
    cases hpair
    refine ⟨'"' :: (used ++ ['"']), by simp, fun depth => ?_⟩
    show follow (used ++ ['"']) (.text, depth) = _
    rw [follow_append, hused depth]
    rfl
  case h_2 => cases h

/-- A number is balanced. -/
theorem parseNumber_balanced {text rest : List Char} {value : Number}
    (h : parseNumber text = some (value, rest)) : ∃ used, text = used ++ rest ∧ Balanced used := by
  simp only [parseNumber, Option.bind_eq_bind, Option.bind_eq_some_iff] at h
  obtain ⟨scan, hscan, h⟩ := h
  obtain ⟨htext, hchars⟩ := scanNumber_splits hscan
  have hrest : scan.rest = rest := by
    split at h
    · cases h
    split at h <;> exact (Prod.mk.inj (Option.some.inj h)).2
  exact ⟨scan.whole ++ scan.fraction, hrest ▸ htext.symm,
    balanced_of_quiet fun c hc => isQuiet_of_inNumber (hchars c hc)⟩

/-- A parser that takes balanced texts. -/
def Takes {α : Type} (parser : List Char → Option (α × List Char)) : Prop :=
  ∀ {text value rest}, parser text = some (value, rest) →
    ∃ used, text = used ++ rest ∧ Balanced used

/-- A parser that takes balanced texts up to a closing bracket. -/
def TakesUntil {α : Type} (closing : Char) (parser : List Char → Option (α × List Char)) : Prop :=
  ∀ {text value rest}, parser text = some (value, rest) →
    ∃ used, text = used ++ closing :: rest ∧ Balanced used

/-- Spaces in front make no difference. -/
theorem Balanced.skip {text rest : List Char} (h : ∃ used, skipSpace text = used ++ rest ∧ Balanced used) :
    ∃ used, text = used ++ rest ∧ Balanced used := by
  obtain ⟨spaces, htext, hspaces⟩ := exists_skipSpace text
  obtain ⟨used, hskip, hused⟩ := h
  exact ⟨spaces ++ used, by rw [List.append_assoc, ← hskip, ← htext], hspaces.append hused⟩

/-- What stands between a pair of brackets, and the brackets. -/
theorem Balanced.between {text rest : List Char} {opening closing : Char}
    (hopening : opening = '[' ∨ opening = '\x7b') (hclosing : closing = ']' ∨ closing = '\x7d')
    (h : ∃ used, text = used ++ closing :: rest ∧ Balanced used) :
    ∃ used, opening :: text = used ++ rest ∧ Balanced used := by
  obtain ⟨used, rfl, hused⟩ := h
  exact ⟨opening :: (used ++ [closing]), by simp, hused.brackets hopening hclosing⟩

/-- A part, a separator and what follows it. -/
theorem Balanced.separated {text after rest : List Char} {separator : Char}
    (hquiet : isQuiet separator = true) (h : ∃ used, text = used ++ separator :: after ∧ Balanced used)
    (hafter : ∃ used, after = used ++ rest ∧ Balanced used) :
    ∃ used, text = used ++ rest ∧ Balanced used := by
  obtain ⟨used, rfl, hused⟩ := h
  obtain ⟨more, rfl, hmore⟩ := hafter
  have hseparator : Balanced [separator] :=
    balanced_of_quiet fun c hc => List.mem_singleton.1 hc ▸ hquiet
  exact ⟨used ++ ([separator] ++ more), by simp, hused.append (hseparator.append hmore)⟩

/-- A part and what is left of the text after some spaces. -/
theorem Balanced.then_skip {text after rest : List Char}
    (h : ∃ used, text = used ++ after ∧ Balanced used) (hskip : skipSpace after = rest) :
    ∃ used, text = used ++ rest ∧ Balanced used := by
  obtain ⟨used, rfl, hused⟩ := h
  obtain ⟨spaces, hafter, hspaces⟩ := exists_skipSpace after
  rw [hskip] at hafter
  exact ⟨used ++ spaces, by rw [List.append_assoc, ← hafter], hused.append hspaces⟩

theorem takesUntil_moreItems {remaining fuel : Nat} {item : Value} {text after : List Char}
    (hitems : TakesUntil ']' (parseItems remaining fuel))
    (h : ∃ used, text = used ++ after ∧ Balanced used) {items : List Value} {rest : List Char}
    (hmore : moreItems remaining fuel item after = some (items, rest)) :
    ∃ used, text = used ++ ']' :: rest ∧ Balanced used := by
  unfold moreItems at hmore
  split at hmore
  case h_1 tail heq =>
    rw [Option.map_eq_some_iff] at hmore
    obtain ⟨⟨others, last⟩, hparse, hpair⟩ := hmore
    cases hpair
    exact Balanced.separated (by decide) (Balanced.then_skip h heq) (hitems hparse)
  case h_2 tail heq =>
    cases hmore
    exact Balanced.then_skip h heq
  case h_3 => cases hmore

theorem takesUntil_moreMembers {remaining fuel : Nat} {member : String × Value}
    {text after : List Char} (hmembers : TakesUntil '\x7d' (parseMembers remaining fuel))
    (h : ∃ used, text = used ++ after ∧ Balanced used) {members : List (String × Value)}
    {rest : List Char} (hmore : moreMembers remaining fuel member after = some (members, rest)) :
    ∃ used, text = used ++ '\x7d' :: rest ∧ Balanced used := by
  unfold moreMembers at hmore
  split at hmore
  case h_1 tail heq =>
    rw [Option.map_eq_some_iff] at hmore
    obtain ⟨⟨others, last⟩, hparse, hpair⟩ := hmore
    cases hpair
    exact Balanced.separated (by decide) (Balanced.then_skip h heq) (hmembers hparse)
  case h_2 tail heq =>
    cases hmore
    exact Balanced.then_skip h heq
  case h_3 => cases hmore

theorem takes_parseMember {remaining fuel : Nat} (hvalue : Takes (parseValue remaining fuel)) :
    Takes (parseMember remaining fuel) := by
  intro text member rest h
  unfold parseMember at h
  split at h
  case h_1 => cases h
  case h_2 key after hkey =>
    split at h
    case h_1 tail heq =>
      rw [Option.map_eq_some_iff] at h
      obtain ⟨⟨value, last⟩, hparse, hpair⟩ := h
      cases hpair
      exact Balanced.separated (by decide)
        (Balanced.then_skip (Balanced.skip (parseString_balanced hkey)) heq) (hvalue hparse)
    case h_2 => cases h

/-- The members of an object up to its brace. -/
theorem takesUntil_object {remaining fuel : Nat} {text rest : List Char} {value : Value}
    (hmembers : ∀ remaining, TakesUntil '\x7d' (parseMembers remaining fuel))
    (h : (match remaining with
      | 0 => none
      | remaining + 1 =>
        match skipSpace text with
        | '\x7d' :: rest => some (.object [], rest)
        | rest => (parseMembers remaining fuel rest).map fun members =>
          (.object (collectMembers members.1), members.2)) = some (value, rest)) :
    ∃ used, text = used ++ '\x7d' :: rest ∧ Balanced used := by
  cases remaining with
  | zero => cases h
  | succ remaining =>
    dsimp only at h
    refine Balanced.skip ?_
    split at h
    case h_1 last hlast =>
      cases h
      exact ⟨[], hlast, balanced_nil⟩
    case h_2 =>
      rw [Option.map_eq_some_iff] at h
      obtain ⟨⟨members, last⟩, hparse, hpair⟩ := h
      cases hpair
      exact hmembers remaining hparse

/-- One level of the parser takes balanced texts if the level below does. -/
theorem takes_parseValue_succ {fuel : Nat}
    (hitems : ∀ remaining, TakesUntil ']' (parseItems remaining fuel))
    (hmembers : ∀ remaining, TakesUntil '\x7d' (parseMembers remaining fuel)) (remaining : Nat) :
    Takes (parseValue remaining (fuel + 1)) := by
  intro text value rest h
  refine Balanced.skip ?_
  rw [parseValue] at h
  split at h
  case h_1 tail heq =>
    cases h
    exact ⟨['n', 'u', 'l', 'l'], heq, balanced_of_quiet (List.all_eq_true.mp rfl)⟩
  case h_2 tail heq =>
    cases h
    exact ⟨['t', 'r', 'u', 'e'], heq, balanced_of_quiet (List.all_eq_true.mp rfl)⟩
  case h_3 tail heq =>
    cases h
    exact ⟨['f', 'a', 'l', 's', 'e'], heq, balanced_of_quiet (List.all_eq_true.mp rfl)⟩
  case h_4 tail heq =>
    rw [heq]
    refine Balanced.between (.inl rfl) (.inl rfl) ?_
    cases remaining with
    | zero => cases h
    | succ remaining =>
      dsimp only at h
      refine Balanced.skip ?_
      split at h
      case h_1 last hlast =>
        cases h
        exact ⟨[], hlast, balanced_nil⟩
      case h_2 =>
        rw [Option.map_eq_some_iff] at h
        obtain ⟨⟨items, last⟩, hparse, hpair⟩ := h
        cases hpair
        exact hitems remaining hparse
  case h_5 tail heq =>
    rw [heq]
    exact Balanced.between (.inr rfl) (.inr rfl) (takesUntil_object hmembers h)
  case h_6 tail heq =>
    rw [Option.map_eq_some_iff] at h
    obtain ⟨⟨chars, last⟩, hparse, hpair⟩ := h
    cases hpair
    rw [heq]
    exact parseString_balanced hparse
  case h_7 =>
    rw [Option.map_eq_some_iff] at h
    obtain ⟨⟨number, last⟩, hparse, hpair⟩ := h
    cases hpair
    exact parseNumber_balanced hparse

/-- Whatever the parser takes is balanced. -/
theorem takes_parse (fuel : Nat) : (∀ remaining, Takes (parseValue remaining fuel)) ∧
    (∀ remaining, TakesUntil ']' (parseItems remaining fuel)) ∧
    ∀ remaining, TakesUntil '\x7d' (parseMembers remaining fuel) := by
  induction fuel with
  | zero => exact ⟨fun _ _ _ _ h => (nomatch h), fun _ _ _ _ h => (nomatch h), fun _ _ _ _ h => (nomatch h)⟩
  | succ fuel ih =>
    obtain ⟨hvalue, hitems, hmembers⟩ := ih
    refine ⟨takes_parseValue_succ hitems hmembers, ?_, ?_⟩
    · intro remaining text items rest h
      rw [parseItems_succ, Option.bind_eq_some_iff] at h
      obtain ⟨⟨item, after⟩, hitem, hmore⟩ := h
      exact takesUntil_moreItems (hitems remaining) (hvalue remaining hitem) hmore
    · intro remaining text members rest h
      rw [parseMembers_succ, Option.bind_eq_some_iff] at h
      obtain ⟨⟨member, after⟩, hmember, hmore⟩ := h
      exact takesUntil_moreMembers (hmembers remaining)
        (takes_parseMember (hvalue remaining) hmember) hmore

/-- A printed value is balanced. -/
theorem balanced_printPretty (depth : Nat) (value : Value) :
    Balanced (value.printPretty depth).toList := by
  have hread := readsBack value value.nesting ((value.printPretty depth).toList.length + 1) depth []
    (Nat.lt_succ_self _) endsNumber_nil
  rw [if_pos (Nat.le_refl _), List.append_nil] at hread
  obtain ⟨used, htext, hused⟩ := (takes_parse _).1 _ hread
  rw [htext, List.append_nil]
  exact hused

/-! ## Texts that stay open -/

/-- An empty line can only stand outside of strings. -/
theorem follow_emptyLine {brackets after : Brackets}
    (h : follow ['\n', '\n'] brackets = some after) : after.1 = .outside := by
  obtain ⟨place, depth⟩ := brackets
  cases place with
  | outside =>
    cases h
    rfl
  | text => cases h
  | escaped => cases h

/-- A closing brace ends outside of strings only if it closes something there. -/
theorem followChar_close {brackets : Brackets} {depth : Nat}
    (h : followChar brackets '\x7d' = some (.outside, depth)) : brackets = (.outside, depth + 1) := by
  obtain ⟨place, opened⟩ := brackets
  cases place with
  | outside =>
    cases opened with
    | zero => cases h
    | succ opened =>
      cases h
      rfl
  | text => cases h
  | escaped => cases h

/-- Where a balanced text stands before its last brace. -/
theorem Balanced.before_close {text : List Char} (h : Balanced (text ++ ['\x7d'])) (depth : Nat) :
    follow text (.outside, depth) = some (.outside, depth + 1) := by
  have hall := h depth
  rw [follow_append, Option.bind_eq_some_iff] at hall
  obtain ⟨brackets, htext, hclose⟩ := hall
  rw [follow_cons, Option.bind_eq_some_iff] at hclose
  obtain ⟨after, hchar, hnil⟩ := hclose
  rw [follow_nil, Option.some.injEq] at hnil
  subst hnil
  rw [htext, followChar_close hchar]

theorem parseValue_brace (remaining fuel : Nat) (text : List Char) :
    parseValue remaining (fuel + 1) ('\x7b' :: text) =
      match remaining with
      | 0 => none
      | remaining + 1 =>
        match skipSpace text with
        | '\x7d' :: rest => some (.object [], rest)
        | rest => (parseMembers remaining fuel rest).map fun members =>
          (.object (collectMembers members.1), members.2) := by
  rw [parseValue, skipSpace_cons (by decide)]
  rfl

/-- What is skipped to the end is all spaces. -/
theorem isSpace_of_skipSpace {text : List Char} (h : (skipSpace text).isEmpty = true) {c : Char}
    (hc : c ∈ text) : isSpace c = true :=
  List.dropWhile_eq_nil_iff.1 (List.isEmpty_iff.1 h) c hc

/-- A brace that is open in front of an empty line is not closed by a whole value after it. -/
theorem parse_open_brace {opened text : List Char} (h : Balanced (text ++ ['\x7d'])) :
    parse (String.ofList ('\x7b' :: (opened ++ (['\n', '\n'] ++ (text ++ ['\x7d']))))) = none := by
  by_contra hparse
  obtain ⟨value, hvalue⟩ := Option.ne_none_iff_exists'.1 hparse
  unfold parse at hvalue
  rw [String.toList_ofList] at hvalue
  split at hvalue
  case h_2 => cases hvalue
  case h_1 result rest hread =>
    split at hvalue
    case isFalse => cases hvalue
    case isTrue hblank =>
      rw [parseValue_brace] at hread
      obtain ⟨used, hused, hbalanced⟩ := @takesUntil_object (recursionLimit - 1) _ _ _ _
        (takes_parse _).2.2 hread
      have hassoc : opened ++ (['\n', '\n'] ++ (text ++ ['\x7d'])) =
          (opened ++ (['\n', '\n'] ++ text)) ++ ['\x7d'] := by
        simp only [List.append_assoc]
      rw [hassoc] at hused
      -- Nothing is left after the brace, since the text ends with one.
      have hrest : rest = [] := by
        obtain hnil | ⟨before, last, rfl⟩ := rest.eq_nil_or_concat'
        · exact hnil
        · have hspace : isSpace last = true := isSpace_of_skipSpace hblank (by simp)
          have hassoc : used ++ '\x7d' :: (before ++ [last]) = (used ++ '\x7d' :: before) ++ [last] := by
            simp
          rw [hassoc] at hused
          have hlast := (List.append_inj' hused rfl).2
          rw [← (List.cons.inj hlast).1] at hspace
          exact absurd hspace (by decide)
      subst hrest
      obtain rfl := (List.append_inj' hused rfl).1
      have hzero := hbalanced 0
      rw [follow_append, Option.bind_eq_some_iff] at hzero
      obtain ⟨brackets, -, hline⟩ := hzero
      rw [follow_append, Option.bind_eq_some_iff] at hline
      obtain ⟨⟨place, depth⟩, hempty, htext⟩ := hline
      obtain rfl : place = .outside := follow_emptyLine hempty
      rw [h.before_close depth] at htext
      cases htext

end Serde
