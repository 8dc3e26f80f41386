import VolumeDrain.Api.Request
import VolumeDrain.Json.MergePatch
import VolumeDrain.Manifest.Selector

/-!
# An API server in memory

A server that keeps objects as documents under their kind, namespace and name. Every write stamps
the object with the next version number; a change that names another version than the stored one is
refused. The server can be told to answer some requests with an error.
-/
namespace VolumeDrain.Api

open Manifest Drain

/-- Under what an object is kept. Objects without a namespace are under the empty one. -/
structure ObjectKey where
  plural : String
  namespaceName : String
  name : String
deriving DecidableEq, Repr

namespace ObjectKey

/-- Whether a key comes before another: by kind, then namespace, then name. -/
def before (a b : ObjectKey) : Bool :=
  a.plural < b.plural ||
    (a.plural = b.plural && (a.namespaceName < b.namespaceName ||
      (a.namespaceName = b.namespaceName && a.name < b.name)))

/-- The key as one text. -/
def text (k : ObjectKey) : String := k.plural ++ "/" ++ k.namespaceName ++ "/" ++ k.name

end ObjectKey

/-- What the server does instead of answering a request. -/
inductive ServerFailure where
  | respond (response : ErrorResponse)
  | disconnect (text : String)

/-- A fault that meets matching requests. It lets some pass, then strikes a number of times, or for
ever. What is not given matches every request. -/
structure ServerFault where
  method : Option String := none
  plural : Option String := none
  name : Option String := none
  selectorPart : Option String := none
  skip : Nat := 0
  times : Option Nat := some 1
  failure : ServerFailure

/-- Whether a text has another as a part. -/
def hasPart (part : List Char) : List Char → Bool
  | [] => part.isEmpty
  | c :: rest => part.isPrefixOf (c :: rest) || hasPart part rest

/-- Whether a fault is meant for a request. -/
def ServerFault.matchesRequest (f : ServerFault) (r : Request) : Bool :=
  f.method.all (· = r.method) && f.plural.all (· = r.place.kind.plural) &&
    f.name.all (fun n => r.name? = some n) &&
    f.selectorPart.all fun part =>
      match r with
      | .list _ (some selector) => hasPart part.toList selector.toList
      | _ => false

/-- The stored objects in the order of their keys, the last version number given, the faults, the
requests received and all that was counted. -/
structure Server where
  objects : List (ObjectKey × Json) := []
  version : Nat := 1000
  faults : List ServerFault := []
  requests : List Request := []
  metrics : Metrics.Registry := {}
  now : Instant := ⟨0⟩

namespace Server

/-- The error for an object that is not there. -/
def notFound (key : ObjectKey) : ErrorResponse where
  status := "Failure"
  message := key.plural ++ " \"" ++ key.name ++ "\" not found"
  reason := "NotFound"
  code := 404

/-- The error for a change of another version of an object. -/
def modified (key : ObjectKey) : ErrorResponse where
  status := "Failure"
  message := key.plural ++ " \"" ++ key.name ++ "\" was modified"
  reason := "Conflict"
  code := 409

/-- The error for a new object that is there already. -/
def alreadyExists (key : ObjectKey) : ErrorResponse where
  status := "Failure"
  message := key.plural ++ " \"" ++ key.name ++ "\" already exists"
  reason := "AlreadyExists"
  code := 409

/-- The object under a key. -/
def get? (s : Server) (key : ObjectKey) : Option Json := s.objects.lookup key

/-- Puts an object at its place among others, replacing the one under its key. -/
def insertObject (key : ObjectKey) (object : Json) :
    List (ObjectKey × Json) → List (ObjectKey × Json)
  | [] => [(key, object)]
  | e :: rest =>
    if key.before e.1 then (key, object) :: e :: rest
    else if key = e.1 then (key, object) :: rest
    else e :: insertObject key object rest

/-- The server with an object kept as it is. -/
def store (s : Server) (key : ObjectKey) (object : Json) : Server :=
  { s with objects := insertObject key object s.objects }

/-- The server without the object under a key. -/
def remove (s : Server) (key : ObjectKey) : Server :=
  { s with objects := s.objects.filter fun e => e.1 ≠ key }

/-- An object with a member of its metadata set. -/
def withMeta (name : String) (value : Json) (object : Json) : Json :=
  object.put "metadata" (((object.get? "metadata").getD (.obj [])).put name value)

/-- Keeps an object under the next version number. The result is the object as it is kept. -/
def storeStamped (s : Server) (key : ObjectKey) (object : Json) : Json × Server :=
  let version := s.version + 1
  let object := withMeta "resourceVersion" (.str (toString version)) object
  (object, { s.store key object with version })

/-- The version an object names. -/
def versionOf (object : Json) : Option String := object.textAt? ["metadata", "resourceVersion"]

/-- Whether an object is being deleted. -/
def isTerminating (object : Json) : Bool :=
  (object.path? ["metadata", "deletionTimestamp"]).any fun t => !(t matches .null)

/-- The labels of an object. -/
def labelsOf (object : Json) : Labels :=
  match object.path? ["metadata", "labels"] with
  | some (.obj members) =>
    KeyMap.ofList (members.filterMap fun m => m.2.text?.map fun v => (m.1, v))
  | _ => ∅

/-- The name of a kind's objects in paths. -/
def pluralOf (kind : String) : String :=
  String.ofList (kind.toList.map Char.toLower) ++ "s"

/-- The key of an object given as a document. -/
def keyOf (object : Json) : ObjectKey where
  plural := pluralOf ((object.textAt? ["kind"]).getD "")
  namespaceName := (object.textAt? ["metadata", "namespace"]).getD ""
  name := (object.textAt? ["metadata", "name"]).getD ""

/-- Keeps an object that is not sent by a request: one without a version gets the next. -/
def place (s : Server) (object : Json) : Server :=
  match versionOf object with
  | some _ => s.store (keyOf object) object
  | none => (s.storeStamped (keyOf object) object).2

/-- The key of the object that a request names. -/
def requestKey (r : Request) (name : String) : ObjectKey :=
  ⟨r.place.kind.plural, r.place.namespaceName.getD "", name⟩

/-- The objects that a list request asks for. -/
def listed (s : Server) (place : Collection) (selector : Option String) : List Json :=
  (s.objects.filter fun e =>
    e.1.plural = place.kind.plural &&
      place.namespaceName.all (fun ns => e.1.namespaceName = ns) &&
      selector.all (fun sel => (Selector.read sel).holds (labelsOf e.2))).map (·.2)

/-- Changes an object by a patch, or makes it of one where that is allowed. -/
def patch (s : Server) (key : ObjectKey) (change : Json) (creates : Bool) :
    Except ErrorResponse Json × Server :=
  match s.get? key with
  | none =>
    if creates then
      let (object, s) := s.storeStamped key (change.mergePatch (.obj []))
      (.ok object, s)
    else (.error (notFound key), s)
  | some stored =>
    if (versionOf change).any fun v => versionOf stored ≠ some v then
      (.error (modified key), s)
    else
      let (object, s) := s.storeStamped key (change.mergePatch stored)
      (.ok object, s)

/-- Carries out a request. -/
def serve (s : Server) (r : Request) : Except ErrorResponse Json × Server :=
  match r with
  | .list place selector =>
    (.ok (.obj
      [("apiVersion", .str place.kind.apiVersion), ("kind", .str (place.kind.name ++ "List")),
       ("metadata", .obj []), ("items", .arr (s.listed place selector))]), s)
  | .get _ name =>
    match s.get? (requestKey r name) with
    | some object => (.ok object, s)
    | none => (.error (notFound (requestKey r name)), s)
  | .create _ object =>
    match object.textAt? ["metadata", "name"] with
    | none => (.ok object, s)
    | some name =>
      let key := requestKey r name
      match s.get? key with
      | some _ => (.error (alreadyExists key), s)
      | none =>
        let (object, s) := s.storeStamped key object
        (.ok object, s)
  | .apply _ name object => s.patch (requestKey r name) object true
  | .merge _ name _ change => s.patch (requestKey r name) change false
  | .delete _ name propagation =>
    let key := requestKey r name
    match s.get? key with
    | none => (.error (notFound key), s)
    | some object =>
      if propagation = some .foreground then
        let (object, s) :=
          s.storeStamped key (withMeta "deletionTimestamp" (.str s.now.secondsText) object)
        (.ok object, s)
      else (.ok object, s.remove key)

/-- The first fault that strikes a request. A fault that still lets requests pass is only brought
one nearer to striking. -/
def useFault (r : Request) : List ServerFault → Option ServerFailure × List ServerFault
  | [] => (none, [])
  | f :: rest =>
    if !f.matchesRequest r || f.times = some 0 then
      let (failure, rest) := useFault r rest
      (failure, f :: rest)
    else if 0 < f.skip then
      let (failure, rest) := useFault r rest
      (failure, { f with skip := f.skip - 1 } :: rest)
    else (some f.failure, { f with times := f.times.map (· - 1) } :: rest)

/-- Answers a request: a fault comes before all else. -/
def respond (s : Server) (r : Request) : Except ClientError Json × Server :=
  let (failure, faults) := useFault r s.faults
  let s := { s with faults }
  match failure with
  | some (.respond response) => (.error (.api response), s)
  | some (.disconnect text) => (.error (.transport text), s)
  | none =>
    let (answer, s) := s.serve r
    (answer.mapError .api, s)

/-- Answers a program: requests are recorded and answered, measurements are counted. -/
def answer (act : Act) (s : Server) : act.Reply × Server :=
  match act with
  | .request r => { s with requests := s.requests ++ [r] }.respond r
  | .measure m => ((), { s with metrics := s.metrics.record m })

/-- The server after every deletion under way has come to its end. -/
def finishDeletions (s : Server) : Server :=
  { s with objects := s.objects.filter fun e => !isTerminating e.2 }

end Server

end VolumeDrain.Api
