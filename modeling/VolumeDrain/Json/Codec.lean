import VolumeDrain.Json
import VolumeDrain.KeyMap

/-!
# Values as documents

How typed values are read from JSON documents and written to them, and the two ways in which a
record is given. `Fields` is the strict way of the pool resource: an absent field takes its default
or is refused, `null` only stands for an optional value, and the fields may also be listed in their
order. The lenient way is that of the platform's own objects: an absent or `null` field is unset,
or empty where the record has to have it.
-/
namespace VolumeDrain

/-- Why a document is not a value of a type. -/
inductive DecodeError where
  /-- A field without a default is absent. -/
  | missing (field : String)
  /-- A value is not of the kind its place asks for. -/
  | expected (kind : String)
  /-- An integer does not fit its width. -/
  | outOfRange (value : Int)
  /-- A record given as a list has more items than fields. -/
  | tooManyItems
  /-- An object is of another kind than the one asked for. -/
  | otherKind (found : String)
deriving DecidableEq, Repr

namespace DecodeError

/-- The text of a decoding error. -/
def message : DecodeError → String
  | missing field => "missing field " ++ field
  | expected kind => "invalid type, expected " ++ kind
  | outOfRange value => "invalid value: integer " ++ toString value
  | tooManyItems => "invalid length, expected fewer elements in array"
  | otherKind found => "invalid value: string " ++ found

end DecodeError

/-- The result of reading a document. -/
abbrev Decoded := Except DecodeError

/-- Types whose values are written as documents. -/
class Encode (α : Type) where
  encode : α → Json

/-- Types whose values are read from documents. -/
class Decode (α : Type) where
  decode : Json → Decoded α

export Encode (encode)
export Decode (decode)

instance : Encode Json := ⟨id⟩
instance : Decode Json := ⟨.ok⟩

instance : Encode String := ⟨.str⟩
instance : Decode String where
  decode
    | .str s => .ok s
    | _ => .error (.expected "a string")

instance : Encode Bool := ⟨.bool⟩
instance : Decode Bool where
  decode
    | .bool b => .ok b
    | _ => .error (.expected "a boolean")

instance : Encode Int32 := ⟨fun n => .int n.toInt⟩
instance : Decode Int32 where
  decode
    | .int n =>
      if -2147483648 ≤ n ∧ n < 2147483648 then .ok (Int32.ofInt n) else .error (.outOfRange n)
    | _ => .error (.expected "i32")

instance : Encode Int64 := ⟨fun n => .int n.toInt⟩
instance : Decode Int64 where
  decode
    | .int n =>
      if -9223372036854775808 ≤ n ∧ n < 9223372036854775808 then .ok (Int64.ofInt n)
      else .error (.outOfRange n)
    | _ => .error (.expected "i64")

instance : Decode Float where
  decode
    | .int n => .ok (signed n (Float.ofScientific n.natAbs false 0))
    | .decimal m e => .ok (signed m (Float.ofScientific m.natAbs (e < 0) e.natAbs))
    | _ => .error (.expected "f64")
where
  /-- A magnitude with the sign of a number. -/
  signed (n : Int) (magnitude : Float) : Float := if n < 0 then -magnitude else magnitude

instance {α : Type} [Encode α] : Encode (List α) := ⟨fun l => .arr (l.map encode)⟩
instance {α : Type} [Decode α] : Decode (List α) where
  decode
    | .arr items => items.mapM decode
    | _ => .error (.expected "a sequence")

instance {α : Type} [Encode α] : Encode (KeyMap α) :=
  ⟨fun m => .obj (m.entries.map fun e => (e.1, encode e.2))⟩
instance {α : Type} [Decode α] : Decode (KeyMap α) where
  decode
    | .obj members => do
      return KeyMap.ofList (← members.mapM fun m => do return (m.1, ← decode m.2))
    | _ => .error (.expected "a map")

/-- A field that is written always. -/
def field {α : Type} [Encode α] (name : String) (value : α) : String × Option Json :=
  (name, some (encode value))

/-- A field that is written if it is set. -/
def field? {α : Type} [Encode α] (name : String) (value : Option α) : String × Option Json :=
  (name, value.map encode)

/-- A list that is written unless it is empty. -/
def fieldUnlessEmpty {α : Type} [Encode α] (name : String) (value : List α) :
    String × Option Json :=
  (name, if value.isEmpty then none else some (encode value))

/-- The fields of a record as a document gives them: by name, or as items in the order of the
record's fields. -/
inductive Fields where
  | named (members : Json.Members)
  | listed (items : List Json)

namespace Fields

variable {α : Type} [Decode α]

/-- The fields of a record with `count` fields. -/
def ofJson (count : Nat) : Json → Decoded Fields
  | .obj members => .ok (.named members)
  | .arr items => if items.length ≤ count then .ok (.listed items) else .error .tooManyItems
  | _ => .error (.expected "a struct")

/-- The document of a field, by its place among the fields and its name. -/
def get? (fields : Fields) (place : Nat) (name : String) : Option Json :=
  match fields with
  | named members => members.lookup name
  | listed items => items[place]?

/-- A field that has to be there. -/
def required (fields : Fields) (place : Nat) (name : String) : Decoded α :=
  match fields.get? place name with
  | some j => decode j
  | none => .error (.missing name)

/-- A field that takes a default value where it is absent. -/
def withDefault (fields : Fields) (place : Nat) (name : String) (default : α) : Decoded α :=
  match fields.get? place name with
  | some j => decode j
  | none => .ok default

/-- A field that may be absent or `null`. -/
def optional (fields : Fields) (place : Nat) (name : String) : Decoded (Option α) :=
  match fields.get? place name with
  | some .null => .ok none
  | some j => some <$> decode j
  | none => .ok none

/-- A field that may be `null`, or absent where the fields are named. -/
def nullable (fields : Fields) (place : Nat) (name : String) : Decoded (Option α) :=
  match fields, fields.get? place name with
  | _, some .null => .ok none
  | _, some j => some <$> decode j
  | named _, none => .ok none
  | listed _, none => .error (.missing name)

end Fields

namespace Json

variable {α : Type} [Decode α]

/-- The members of a document that has to be an object. -/
def objectMembers : Json → Decoded Members
  | obj members => .ok members
  | _ => .error (.expected "an object")

/-- A member that is unset where it is absent or `null`. -/
def member? (members : Members) (name : String) : Decoded (Option α) :=
  match members.lookup name with
  | some null => .ok none
  | some j => some <$> decode j
  | none => .ok none

/-- A member that takes an empty value where it is absent or `null`. -/
def memberOr (members : Members) (name : String) (empty : α) : Decoded α :=
  (Option.getD · empty) <$> member? members name

/-- An object of fields followed by members kept as they are. -/
def recordWith (fields : List (String × Option Json)) (rest : Members) : Json :=
  obj ((fields.filterMap fun f => f.2.map fun v => (f.1, v)) ++ rest)

end Json

end VolumeDrain
