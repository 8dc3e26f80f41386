import VolumeDrain.Api.Client
import VolumeDrain.Pool.Basic

/-!
# The operator's own pages

What the operator shows of itself and of the pools it can see: its health, its metrics, a list of
pools and a page for each. The pages are read only.
-/
namespace VolumeDrain.Operator

open Api Manifest Pool

/-- The operator's version. -/
def version : String := "0.1.0"

/-- What is shown of a pool. -/
structure Summary where
  name : String
  namespaceName : String
  phase : String
  replicas : Int32
  drainEnabled : Bool
  volumes : StateCounts
deriving DecidableEq

instance : Encode Summary where
  encode s := .record
    [field "name" s.name, field "namespace" s.namespaceName, field "phase" s.phase,
     field "replicas" s.replicas, field "drainEnabled" s.drainEnabled,
     field "volumes" s.volumes]

/-- The phase of a pool, which is unknown before its first status. -/
def phaseOf (s : Status) : String := if s.phase.isEmpty then "Unknown" else s.phase

/-- The summary of a pool. -/
def Summary.ofPool (p : BufferPool) : Summary :=
  let status := p.status.getD {}
  { name := p.name
    namespaceName := p.metadata.namespaceName.getD ""
    phase := phaseOf status
    replicas := status.replicas
    drainEnabled := p.spec.drainEnabled
    volumes := status.volumes }

/-- What a page holds. -/
inductive Content where
  | nothing
  | json (document : Json)
  | text (text : String)
  /-- The metrics, which whoever keeps them writes. -/
  | metrics

/-- A page: its status code and what it holds. -/
structure Page where
  code : Nat
  content : Content

/-- The type of a page's content. -/
def Content.type : Content → Option String
  | nothing => none
  | json _ => some "application/json"
  | text _ => some "text/plain; charset=utf-8"
  | metrics => some "text/plain; charset=utf-8"

/-- The page of an error. -/
def errorPage (code : Nat) (error message : String) : Page :=
  ⟨code, .json (.record [field "error" error, field "message" message])⟩

/-- The page that lists the pools, of one namespace or of all. -/
def poolsPage (namespaceName : Option String) : ApiScript Page := do
  match ← (listAll BufferPool namespaceName none).run with
  | .ok pools =>
    return ⟨200, .json (.record
      [field "items" (pools.map Summary.ofPool), ("total", some (.int pools.length))])⟩
  | .error e => return errorPage 500 "list_failed" e.message

/-- The page of one pool. -/
def poolPage (namespaceName name : String) : ApiScript Page := do
  match ← (getObject? BufferPool namespaceName name).run with
  | .ok (some p) => return ⟨200, .json (encode (Summary.ofPool p))⟩
  | .ok none =>
    return errorPage 404 "not_found"
      ("BufferPool " ++ namespaceName ++ "/" ++ name ++ " not found")
  | .error e => return errorPage 500 "get_failed" e.message

/-- The pages there are. -/
inductive Route where
  | health
  | metrics
  | pools
  /-- A pool by its namespace and name. -/
  | pool (namespaceName name : String)
  /-- A pool whose namespace or name is no text. -/
  | unreadable (part : String)
deriving DecidableEq, Repr

namespace Route

/-- The parts of a path between its slashes. -/
def segments : List Char → List (List Char)
  | [] => [[]]
  | '/' :: rest => [] :: segments rest
  | c :: rest =>
    match segments rest with
    | [] => [[c]]
    | part :: more => (c :: part) :: more

/-- The bytes that a part of a path stands for: a percent sign and two hexadecimal digits are one
byte. -/
def bytes : List Char → List UInt8
  | '%' :: a :: b :: rest =>
    match hexDigit? a, hexDigit? b with
    | some x, some y => UInt8.ofNat (16 * x + y) :: bytes rest
    | _, _ => '%'.toNat.toUInt8 :: bytes (a :: b :: rest)
  | c :: rest => (String.singleton c).toUTF8.toList ++ bytes rest
  | [] => []
where
  /-- The value of a hexadecimal digit. -/
  hexDigit? (c : Char) : Option Nat :=
    if '0' ≤ c && c ≤ '9' then some (c.toNat - 48)
    else if 'a' ≤ c && c ≤ 'f' then some (c.toNat - 87)
    else if 'A' ≤ c && c ≤ 'F' then some (c.toNat - 55)
    else none

/-- The text that a part of a path stands for. -/
def decodePart (part : List Char) : Option String :=
  String.fromUTF8? (ByteArray.mk (bytes part).toArray)

/-- The page of a path. What follows a question mark does not count. -/
def ofPath? (path : String) : Option Route :=
  match segments (path.toList.takeWhile (· ≠ '?')) with
  | [[], ['h', 'e', 'a', 'l', 't', 'h']] => some health
  | [[], ['m', 'e', 't', 'r', 'i', 'c', 's']] => some metrics
  | [[], ['a', 'p', 'i'], ['v', '1'], ['p', 'o', 'o', 'l', 's']] => some pools
  | [[], ['a', 'p', 'i'], ['v', '1'], ['p', 'o', 'o', 'l', 's'], ns, name] =>
    if ns.isEmpty || name.isEmpty then none
    else
      match decodePart ns, decodePart name with
      | some ns, some name => some (pool ns name)
      | none, _ => some (unreadable "namespace")
      | _, none => some (unreadable "name")
  | _ => none

/-- The page of a route, as seen by an operator that watches one namespace or all. -/
def page (namespaceName : Option String) : Route → ApiScript Page
  | health =>
    return ⟨200, .json (.record [field "status" "healthy", field "version" version])⟩
  | metrics => return ⟨200, .metrics⟩
  | pools => poolsPage namespaceName
  | pool ns name => poolPage ns name
  | unreadable part => return ⟨400, .text ("Invalid UTF-8 in `" ++ part ++ "`")⟩

end Route

/-- The answer to a visit of a path by some method. Looking at the head of a page alone makes the
same answer without its content. -/
def visit (namespaceName : Option String) (method path : String) : ApiScript Page := do
  match Route.ofPath? path with
  | none => return ⟨404, .nothing⟩
  | some route =>
    if method = "GET" || method = "HEAD" then route.page namespaceName
    else return ⟨405, .nothing⟩

end VolumeDrain.Operator
