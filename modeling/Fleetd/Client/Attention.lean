import Fleetd.Serde.Value

/-!
# Attention at the client

The checks that the TypeScript client makes on the attention it has fetched. A value is what the
engine has parsed the response to, and a member that is missing is undefined.
-/

namespace Fleetd.Client

open Serde (Value FloatLiteral)

/-- How the engine reads a floating-point literal that denotes a safe integer. -/
class NumberSyntax where
  safeFloat : FloatLiteral → Option Int

def maxSafeInteger : Nat := 9007199254740991

variable [NumberSyntax]

/-- The safe integer that a value is. -/
def safeInteger : Value → Option Int
  | .number (.integer i) => if i.natAbs ≤ maxSafeInteger then some i else none
  | .number (.float literal) => NumberSyntax.safeFloat literal
  | _ => none

/-- The latest sequence is null, or a safe integer that is not below the cursor. -/
def latestValid (read : Int) (latest : Option Value) : Bool :=
  decide (latest = some .null) || (latest.bind safeInteger).any fun l => decide (read ≤ l)

/-- A first unread sequence is null, or a safe integer between the cursor and the latest one. -/
def firstValid (read : Int) (latest first : Option Value) : Bool :=
  decide (first = some .null) || (first.bind safeInteger).any fun f =>
    decide (read < f) && (latest.bind safeInteger).any fun l => decide (f ≤ l)

/-- The checks on one row, beside the channels that were seen before. -/
def attentionValid (seen : List String) (value : Value) : Bool :=
  let latest := value.get "latest_message_seq"
  let firstUnread := value.get "first_unread_seq"
  let firstAddressed := value.get "first_addressed_unread_seq"
  match value.getStr "channel_id", (value.get "read_through_seq").bind safeInteger,
      (value.get "unread_count").bind safeInteger,
      (value.get "addressed_unread_count").bind safeInteger with
  | some channelId, some read, some unread, some addressed =>
    decide (channelId ≠ "") && decide (channelId ∉ seen) && decide (0 ≤ read) &&
      latestValid read latest && decide (0 ≤ unread) && decide (0 ≤ addressed) &&
      decide (addressed ≤ unread) &&
      decide (unread = 0 ↔ firstUnread = some .null) &&
      decide (addressed = 0 ↔ firstAddressed = some .null) &&
      firstValid read latest firstUnread && firstValid read latest firstAddressed
  | _, _, _, _ => false

/-- The rows after those whose channels were seen. -/
def checkAttention : List String → List Value → Except String Unit
  | _, [] => .ok ()
  | seen, value :: values =>
    if attentionValid seen value = true then
      checkAttention (((value.getStr "channel_id").getD "") :: seen) values
    else .error "Fleetd returned invalid conversation attention"

def checkedAttention (values : List Value) : Except String (List Value) :=
  (checkAttention [] values).map fun _ => values

/-- Rows pass if each of them does and no channel appears twice. -/
theorem checkAttention_ok {values : List Value} {seen : List String} (channels : List String)
    (hchannels : values.map (fun value => value.getStr "channel_id") = channels.map some)
    (hnodup : channels.Nodup) (hnew : ∀ channelId ∈ channels, channelId ∉ seen)
    (hvalid : ∀ value ∈ values, ∀ seen : List String,
      (∀ channelId, value.getStr "channel_id" = some channelId → channelId ∉ seen) →
        attentionValid seen value = true) : checkAttention seen values = .ok () := by
  induction values generalizing seen channels with
  | nil => rfl
  | cons value values ih =>
    cases channels with
    | nil => cases hchannels
    | cons channelId channels =>
      rw [List.map_cons, List.map_cons, List.cons.injEq] at hchannels
      obtain ⟨hhead, htail⟩ := hchannels
      rw [List.nodup_cons] at hnodup
      rw [checkAttention, if_pos, hhead, Option.getD_some]
      · refine ih channels htail hnodup.2 ?_ fun v hv => hvalid v (List.mem_cons_of_mem _ hv)
        intro other hother hmem
        obtain rfl | hmem := List.mem_cons.1 hmem
        · exact hnodup.1 hother
        · exact hnew other (List.mem_cons_of_mem _ hother) hmem
      · refine hvalid value List.mem_cons_self seen ?_
        intro other hother
        rw [hhead, Option.some.injEq] at hother
        exact hother ▸ hnew channelId List.mem_cons_self

end Fleetd.Client
