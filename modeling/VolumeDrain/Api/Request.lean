import VolumeDrain.Manifest.Meta
import VolumeDrain.Drain.Store
import VolumeDrain.Metrics

/-!
# Requests to the API server

The requests that the operator sends, and how each is put: method, path, query, type of content
and body.
-/
namespace VolumeDrain.Api

open Manifest Drain

/-- The objects of a kind, in one namespace or in all. -/
structure Collection where
  kind : Kind
  namespaceName : Option String
deriving DecidableEq

/-- The path of a collection. -/
def Collection.path (c : Collection) : String :=
  c.kind.apiRoot ++
    (match c.namespaceName with
      | some ns => "/namespaces/" ++ ns
      | none => "") ++
    "/" ++ c.kind.plural

/-- A request. Applying and merging change an object, the one as its manager, the other member by
member; a merge may be directed at the status alone. -/
inductive Request where
  | list (place : Collection) (selector : Option String)
  | get (place : Collection) (name : String)
  | create (place : Collection) (object : Json)
  | apply (place : Collection) (name : String) (object : Json)
  | merge (place : Collection) (name : String) (status : Bool) (patch : Json)
  | delete (place : Collection) (name : String) (propagation : Option Propagation)

namespace Request

/-- The method of a request. -/
def method : Request → String
  | list _ _ => "GET"
  | get _ _ => "GET"
  | create _ _ => "POST"
  | apply _ _ _ => "PATCH"
  | merge _ _ _ _ => "PATCH"
  | delete _ _ _ => "DELETE"

/-- The collection that a request is about. -/
def place : Request → Collection
  | list place _ => place
  | get place _ => place
  | create place _ => place
  | apply place _ _ => place
  | merge place _ _ _ => place
  | delete place _ _ => place

/-- The name of the object in the path. -/
def name? : Request → Option String
  | list _ _ => none
  | get _ name => some name
  | create _ _ => none
  | apply _ name _ => some name
  | merge _ name _ _ => some name
  | delete _ name _ => some name

/-- The path of a request. -/
def path (r : Request) : String :=
  r.place.path ++
    (match r.name? with
      | some name => "/" ++ name
      | none => "") ++
    (match r with
      | merge _ _ true _ => "/status"
      | _ => "")

/-- The query of a request. -/
def query : Request → List (String × String)
  | list _ (some selector) => [("labelSelector", selector)]
  | apply _ _ _ => [("force", "true"), ("fieldManager", managerName)]
  | _ => []

/-- The type of a request's content. -/
def contentType : Request → Option String
  | list _ _ => none
  | get _ _ => none
  | create _ _ => some "application/json"
  | apply _ _ _ => some "application/apply-patch+yaml"
  | merge _ _ _ _ => some "application/merge-patch+json"
  | delete _ _ _ => some "application/json"

/-- The body of a request. -/
def body : Request → Option Json
  | list _ _ => none
  | get _ _ => none
  | create _ object => some object
  | apply _ _ object => some object
  | merge _ _ _ patch => some patch
  | delete _ _ propagation => some (.record
    [field? "propagationPolicy" (propagation.map fun
      | .foreground => "Foreground"
      | .background => "Background")])

/-- The request as a document. -/
def document (r : Request) : Json := .record
  [field "method" r.method, field "path" r.path,
   ("query", if r.query.isEmpty then none
     else some (.arr (r.query.map fun q => .arr [.str q.1, .str q.2]))),
   field? "content_type" r.contentType, field? "body" r.body]

end Request

/-- What the operator does to the outside: it sends requests and counts. -/
inductive Act where
  | request (request : Request)
  | measure (measurement : Measurement)

/-- What comes back: the answer to a request, or nothing. -/
def Act.Reply : Act → Type
  | request _ => Except ClientError Json
  | measure _ => Unit

/-- A program that sends requests and counts. -/
abbrev ApiScript := Script Act.Reply

/-- Counts something. -/
def tally (m : Measurement) : ApiScript Unit := Script.question (Act.measure m)

/-- Sends a request. -/
def send (r : Request) : ApiScript (Except ClientError Json) := Script.question (Act.request r)

end VolumeDrain.Api
