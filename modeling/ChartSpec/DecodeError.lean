import ChartSpec.Json.Basic
import ChartSpec.Text.Quoted

/-!
# Decoding errors

Why a JSON value is not a value of the type that was asked for.
-/

namespace ChartSpec

/-- What a decoder came upon. -/
inductive Found where
  | null
  | boolean (b : Bool)
  | integer (n : Int)
  | double (x : Binary64)
  | text (s : String)
  | sequence
  | map
  deriving DecidableEq

namespace Found

def ofJson : Json → Found
  | .null => null
  | .bool b => boolean b
  | .int n => integer n
  | .float x => double x
  | .str s => text s
  | .arr _ => sequence
  | .obj _ => map

def describe : Found → String
  | null => "null"
  | boolean b => "boolean `" ++ (if b then "true" else "false") ++ "`"
  | integer n => "integer `" ++ toString n ++ "`"
  | double x => "floating point `" ++ Json.floatText x ++ "`"
  | text s => "string " ++ Text.quoted s
  | sequence => "sequence"
  | map => "map"

end Found

inductive DecodeError where
  | unknownField (key : String) (known : List String)
  | missingField (name : String)
  | duplicateField (name : String)
  | wrongType (found : Found) (expected : String)
  | wrongValue (found : Found) (expected : String)
  | unknownVariant (word : String) (known : List String)
  /-- None of the forms that a value may take fits. -/
  | noForm (type : String)
  | wrongLength (length : Nat) (expected : String)
  deriving DecidableEq

namespace DecodeError

/-- A choice between names: one, one or the other, or one of many. -/
def choice (names : List String) : String :=
  match names.map fun n => "`" ++ n ++ "`" with
  | [] => ""
  | [a] => "expected " ++ a
  | [a, b] => "expected " ++ a ++ " or " ++ b
  | many => "expected one of " ++ ", ".intercalate many

def message : DecodeError → String
  | unknownField key [] => "unknown field `" ++ key ++ "`, there are no fields"
  | unknownField key known => "unknown field `" ++ key ++ "`, " ++ choice known
  | missingField name => "missing field `" ++ name ++ "`"
  | duplicateField name => "duplicate field `" ++ name ++ "`"
  | wrongType found expected => "invalid type: " ++ found.describe ++ ", expected " ++ expected
  | wrongValue found expected => "invalid value: " ++ found.describe ++ ", expected " ++ expected
  | unknownVariant word known => "unknown variant `" ++ word ++ "`, " ++ choice known
  | noForm type => "data did not match any variant of untagged enum " ++ type
  | wrongLength length expected =>
    "invalid length " ++ toString length ++ ", expected " ++ expected

/-- The error of a value whose type does not fit. -/
def mismatch (v : Json) (expected : String) : DecodeError := wrongType (Found.ofJson v) expected

end DecodeError

/-! ## Decoders of common types -/

namespace Decode

def text : Json → Except DecodeError String
  | .str s => .ok s
  | v => .error (.mismatch v "a string")

def flag : Json → Except DecodeError Bool
  | .bool b => .ok b
  | v => .error (.mismatch v "a boolean")

/-- A double; an integer counts as the nearest one. -/
def double : Json → Except DecodeError Binary64
  | .int n => .ok (Binary64.ofInt n)
  | .float x => .ok x
  | v => .error (.mismatch v "f64")

/-- An unsigned integer of 32 bits. -/
def count : Json → Except DecodeError UInt32
  | .int n =>
    if 0 ≤ n ∧ n.toNat < UInt32.size then .ok (UInt32.ofNat n.toNat)
    else .error (.wrongValue (.integer n) "u32")
  | v => .error (.mismatch v "u32")

/-- A signed integer of 64 bits. -/
def int64 : Json → Except DecodeError Int
  | .int n =>
    if -9223372036854775808 ≤ n ∧ n ≤ 9223372036854775807 then .ok n
    else .error (.wrongValue (.integer n) "i64")
  | v => .error (.mismatch v "i64")

/-- A list of values of one type; the first item that does not fit decides. -/
def list {α : Type} (item : Json → Except DecodeError α) : Json → Except DecodeError (List α)
  | .arr items => items.mapM item
  | v => .error (.mismatch v "a sequence")

/-- One of a few words, given as a text, or as the key of an object whose value is null or an
object without entries. -/
def word (words : List String) : Json → Except DecodeError { w : String // w ∈ words }
  | .str s => known s
  | .obj [(s, payload)] => do
    let w ← known s
    match payload with
    | .null => .ok w
    | .obj [] => .ok w
    | v => .error (.mismatch v "unit")
  | .obj _ => .error (.wrongValue .map "map with a single key")
  | v => .error (.mismatch v "string or map")
where
  known (s : String) : Except DecodeError { w : String // w ∈ words } :=
    if h : s ∈ words then .ok ⟨s, h⟩ else .error (.unknownVariant s words)

end Decode

end ChartSpec
