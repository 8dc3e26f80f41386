import VolumeDrain.Json.Codec
import VolumeDrain.Time.Instant

/-!
# Shapes of platform objects

A shape says which documents a type of the platform's API admits. Reading a document by its shape
drops the members the shape does not know, fills the ones it requires, and refuses values of the
wrong kind; what remains is the document as the platform writes it. The operator passes such parts
of an object on without looking into them.
-/
namespace VolumeDrain.Manifest

/-- The shape of a document. Each field of a record has a name and says whether it is always
written. -/
inductive Shape where
  | any
  | text
  | bool
  | int32
  | int64
  | intOrText
  | time
  | microTime
  | list (item : Shape)
  | map (value : Shape)
  | record (fields : List (String × Bool × Shape))

namespace Shape

/-- A named field of a record. -/
abbrev Field := String × Bool × Shape

/-- A field that may be unset. -/
def opt (name : String) (shape : Shape) : Field := (name, false, shape)

/-- A field that is always written, empty where it is not given. -/
def req (name : String) (shape : Shape) : Field := (name, true, shape)

/-- A list of texts. -/
def texts : Shape := list text

/-- A map to texts. -/
def textMap : Shape := map text

mutual

/-- What is written for a required field that is not given. -/
def blank : Shape → Json
  | any => .null
  | text => .str ""
  | bool => .bool false
  | int32 => .int 0
  | int64 => .int 0
  | intOrText => .int 0
  | time => .str (Instant.secondsText ⟨0⟩)
  | microTime => .str (Instant.microsText ⟨0⟩)
  | list _ => .arr []
  | map _ => .obj []
  | record fields => .obj (blankFields fields)

/-- The required fields of a record, each blank. -/
def blankFields : List (String × Bool × Shape) → Json.Members
  | [] => []
  | (name, required, shape) :: rest =>
    if required then (name, blank shape) :: blankFields rest else blankFields rest

end

/-- An instant, written in one of its forms. -/
def readTime (form : Instant → String) : Json → Decoded Json
  | .str s =>
    match Instant.read? s with
    | some t => .ok (.str (form t))
    | none => .error (.expected "RFC 3339 date and time")
  | _ => .error (.expected "RFC 3339 date and time")

/-- A number of 32 bits or a text. -/
def readIntOrText : Json → Decoded Json
  | .str s => .ok (.str s)
  | .int n => encode <$> (decode (.int n) : Decoded Int32)
  | _ => .error (.expected "an int or a string")

mutual

/-- Reads a document by a shape. -/
def read : Shape → Json → Decoded Json
  | any => .ok
  | text => fun j => encode <$> (decode j : Decoded String)
  | bool => fun j => encode <$> (decode j : Decoded Bool)
  | int32 => fun j => encode <$> (decode j : Decoded Int32)
  | int64 => fun j => encode <$> (decode j : Decoded Int64)
  | intOrText => readIntOrText
  | time => readTime Instant.secondsText
  | microTime => readTime Instant.microsText
  | list item => fun j =>
    match j with
    | .arr items => .arr <$> items.mapM (read item)
    | _ => .error (.expected "a sequence")
  | map value => fun j =>
    match j with
    | .obj members => .obj <$> members.mapM (fun m => (m.1, ·) <$> read value m.2)
    | _ => .error (.expected "a map")
  | record fields => fun j =>
    match j with
    | .obj members => .obj <$> readFields fields members
    | _ => .error (.expected "an object")

/-- Reads the fields of a record from the members of an object. -/
def readFields : List (String × Bool × Shape) → Json.Members → Decoded Json.Members
  | [], _ => .ok []
  | (name, required, shape) :: rest, members => do
    let tail ← readFields rest members
    match members.lookup name with
    | none => return if required then (name, blank shape) :: tail else tail
    | some .null => return if required then (name, blank shape) :: tail else tail
    | some j => return (name, ← read shape j) :: tail

end

/-- Reads the fields of a record other than those with the given names. -/
def readOthers (fields : List Field) (names : List String) (members : Json.Members) :
    Decoded Json.Members :=
  readFields (fields.filter fun f => !names.contains f.1) members

end Shape

end VolumeDrain.Manifest
