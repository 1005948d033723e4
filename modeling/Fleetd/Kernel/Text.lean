import Fleetd.Kernel.Schema

/-!
# Text checks and JSON payloads

The string predicates that the validators share, and the boundary to the JSON library.
A payload is an opaque value; the database stores the text that `serde_json` prints for
it, and a read parses that text again. The printer and the parser are parameters here,
and `LawfulSerdeJson` is the only thing ever assumed about them.
-/

namespace Fleetd

/-- Characters with the Unicode property `White_Space`, which `str::trim` removes. -/
def isWhiteSpace (c : Char) : Bool :=
  let n := c.toNat
  (9 ≤ n && n ≤ 13) || n == 0x20 || n == 0x85 || n == 0xA0 || n == 0x1680 ||
    (0x2000 ≤ n && n ≤ 0x200A) || n == 0x2028 || n == 0x2029 || n == 0x202F ||
    n == 0x205F || n == 0x3000

/-- `value.trim().is_empty()`. -/
def isBlank (value : String) : Bool := value.toList.all isWhiteSpace

/-- `value.len()`, which counts UTF-8 bytes. -/
def byteLen (value : String) : Nat := value.utf8ByteSize

/-- The largest value of a signed 64-bit column. -/
def i64Max : Nat := 9223372036854775807

/-- The printer and parser of the JSON library for one type of payload values. -/
class SerdeJson (Json : Type) where
  toString : Json → String
  fromStr : String → Option Json

/-- Printed payloads parse back to the same value. -/
class LawfulSerdeJson (Json : Type) [SerdeJson Json] : Prop where
  fromStr_toString : ∀ value : Json, SerdeJson.fromStr (SerdeJson.toString value) = some value

/-- The two boolean literals, as a payload type with the library's spelling of them. -/
instance : SerdeJson Bool where
  toString value := if value then "true" else "false"
  fromStr text := if text = "true" then some true else if text = "false" then some false else none

instance : LawfulSerdeJson Bool where
  fromStr_toString value := by cases value <;> decide

/-- The lower-case hexadecimal text of the SHA-256 of some bytes. -/
class Sha256 where
  hexDigest : List UInt8 → String

/-- The digits of a digest. -/
def hexDigits : List Char := "0123456789abcdef".toList

/-- Digests are printed in sixty-four lower-case hexadecimal digits. -/
class LawfulSha256 [Sha256] : Prop where
  length : ∀ bytes, (Sha256.hexDigest bytes).toList.length = 64
  digits : ∀ bytes, ∀ c ∈ (Sha256.hexDigest bytes).toList, c ∈ hexDigits

/-- `value.as_bytes()`. -/
def utf8Bytes (value : String) : List UInt8 := value.toByteArray.data.toList

/-- Names must not be blank. -/
def validateName (entity name : String) : Except FleetError Unit :=
  if isBlank name then .error (.invalid s!"{entity} name must not be empty") else .ok ()

/-- Rows that are present, by their `id` column. -/
def ensureExists (ids : Store → List String) (entity id : String) : Tx Unit := do
  let present ← Relational.Transaction.read ids
  Relational.Transaction.ensure (id ∈ present) (.notFound entity id)

/-- Signed 64-bit addition that refuses to wrap. -/
def checkedAdd (a b : Int) (message : String) : Except FleetError Int :=
  if -(i64Max : Int) - 1 ≤ a + b ∧ a + b ≤ (i64Max : Int) then .ok (a + b)
  else .error (.invalid message)

end Fleetd
