import VolumeDrain.Manifest.Catalog

/-!
# Metadata of objects

What every stored object carries: its name, its labels, its owners and the marks that the API
server sets on it; and the kinds of objects, with the paths and names they have in the API.
-/
namespace VolumeDrain.Manifest

/-- Labels or annotations. -/
abbrev Labels := KeyMap String

/-- The owner of an object, which takes the object along when it is deleted. -/
structure OwnerReference where
  apiVersion : String
  kind : String
  name : String
  uid : String
  controller : Option Bool := none
  blockOwnerDeletion : Option Bool := none
deriving DecidableEq

instance : Encode OwnerReference where
  encode r := .record
    [field "apiVersion" r.apiVersion, field? "blockOwnerDeletion" r.blockOwnerDeletion,
     field? "controller" r.controller, field "kind" r.kind, field "name" r.name,
     field "uid" r.uid]

instance : Decode OwnerReference where
  decode j := do
    let m ← j.objectMembers
    return {
      apiVersion := ← Json.memberOr m "apiVersion" ""
      kind := ← Json.memberOr m "kind" ""
      name := ← Json.memberOr m "name" ""
      uid := ← Json.memberOr m "uid" ""
      controller := ← Json.member? m "controller"
      blockOwnerDeletion := ← Json.member? m "blockOwnerDeletion" }

/-- The metadata of an object. A deletion timestamp marks an object that is being deleted. -/
structure ObjectMeta where
  name : Option String := none
  generateName : Option String := none
  namespaceName : Option String := none
  uid : Option String := none
  labels : Option Labels := none
  annotations : Option Labels := none
  ownerReferences : Option (List OwnerReference) := none
  resourceVersion : Option String := none
  generation : Option Int64 := none
  deletionTimestamp : Option Instant := none
  /-- The fields that the operator does not look at. -/
  rest : Json.Members := []

namespace ObjectMeta

/-- The name, or the stem of a name that is still to be given, or nothing. -/
def nameOrStem (m : ObjectMeta) : String := (m.name <|> m.generateName).getD ""

/-- The labels, none if unset. -/
def labelMap (m : ObjectMeta) : Labels := m.labels.getD ∅

/-- Whether the object is being deleted. -/
def isTerminating (m : ObjectMeta) : Bool := m.deletionTimestamp.isSome

/-- The names of the fields that are read one by one. -/
def readFieldNames : List String :=
  ["annotations", "deletionTimestamp", "generateName", "generation", "labels", "name",
   "namespace", "ownerReferences", "resourceVersion", "uid"]

end ObjectMeta

/-- The fields of a record's shape. -/
def Shape.fields : Shape → List Shape.Field
  | .record fields => fields
  | _ => []

/-- An instant in its form to the second. -/
def encodeTime (t : Instant) : Json := .str t.secondsText

/-- An instant in its form to the microsecond. -/
def encodeMicroTime (t : Instant) : Json := .str t.microsText

/-- Reads an instant where one is set. -/
def instant? (members : Json.Members) (name : String) : Decoded (Option Instant) := do
  match ← (Json.member? members name : Decoded (Option String)) with
  | none => return none
  | some s =>
    match Instant.read? s with
    | some t => return some t
    | none => throw (.expected "RFC 3339 date and time")

instance : Encode ObjectMeta where
  encode m := .recordWith
    [field? "annotations" m.annotations,
     ("deletionTimestamp", m.deletionTimestamp.map encodeTime),
     field? "generateName" m.generateName, field? "generation" m.generation,
     field? "labels" m.labels, field? "name" m.name, field? "namespace" m.namespaceName,
     field? "ownerReferences" m.ownerReferences, field? "resourceVersion" m.resourceVersion,
     field? "uid" m.uid] m.rest

instance : Decode ObjectMeta where
  decode j := do
    let m ← j.objectMembers
    return {
      name := ← Json.member? m "name"
      generateName := ← Json.member? m "generateName"
      namespaceName := ← Json.member? m "namespace"
      uid := ← Json.member? m "uid"
      labels := ← Json.member? m "labels"
      annotations := ← Json.member? m "annotations"
      ownerReferences := ← Json.member? m "ownerReferences"
      resourceVersion := ← Json.member? m "resourceVersion"
      generation := ← Json.member? m "generation"
      deletionTimestamp := ← instant? m "deletionTimestamp"
      rest := ← Shape.readOthers Catalog.objectMeta.fields ObjectMeta.readFieldNames m }

/-- A kind of object and its place in the API. -/
structure Kind where
  group : String
  version : String
  name : String
  plural : String
deriving DecidableEq

namespace Kind

/-- Group and version as objects name them; the core group has no name. -/
def apiVersion (k : Kind) : String :=
  if k.group = "" then k.version else k.group ++ "/" ++ k.version

/-- The root of the kind's paths. -/
def apiRoot (k : Kind) : String :=
  if k.group = "" then "/api/" ++ k.version else "/apis/" ++ k.group ++ "/" ++ k.version

/-- The members of an object of this kind. The kind and version it names, if any, have to be
these. -/
def membersOf (k : Kind) (j : Json) : Decoded Json.Members := do
  let m ← j.objectMembers
  let check (name expected : String) : Decoded Unit := do
    match m.lookup name with
    | none => return ()
    | some v =>
      let found : String ← decode v
      if found = expected then return () else throw (.otherKind found)
  check "apiVersion" k.apiVersion
  check "kind" k.name
  return m

/-- An object of this kind from its fields. -/
def record (k : Kind) (fields : List (String × Option Json)) : Json :=
  .record (field "apiVersion" k.apiVersion :: field "kind" k.name :: fields)

end Kind

/-- Types of namespaced objects that the API stores. -/
class Resource (α : Type) extends Encode α, Decode α where
  kind : Kind
  metadata : α → ObjectMeta

export Resource (metadata)

/-- The name of an object, or the stem of one still to be given. -/
def nameOf {α : Type} [Resource α] (a : α) : String := (metadata a).nameOrStem

end VolumeDrain.Manifest
