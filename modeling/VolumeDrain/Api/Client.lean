import VolumeDrain.Api.Request

/-!
# The API client

Requests for typed objects. A request that would name no object is not sent. An object is missing
if the server says so by the reason of its answer, whatever the answer's code is.
-/
namespace VolumeDrain.Api

open Manifest Drain

/-- Steps of the API client, which may fail. -/
abbrev ClientScript := ExceptT ClientError ApiScript

/-- Sends a request and goes on with the document in the answer. -/
def answerTo (r : Request) : ClientScript Json := ExceptT.mk (send r)

/-- Refuses the empty name of an object. -/
def checkName (name : String) : ClientScript Unit :=
  if name.isEmpty then throw .emptyName else return ()

/-- Reads an object from an answer. -/
def readAnswer {α : Type} [Decode α] (j : Json) : ClientScript α :=
  match (decode j : Decoded α) with
  | .ok a => return a
  | .error e => throw (.undecodable e)

/-- The items of a list in an answer. -/
def readItems {α : Type} [Decode α] (j : Json) : ClientScript (List α) :=
  match (do Json.memberOr (← j.objectMembers) "items" [] : Decoded (List α)) with
  | .ok items => return items
  | .error e => throw (.undecodable e)

/-- The collection of a type of objects in a namespace, or in all. -/
def placeOf (α : Type) [Resource α] (namespaceName : Option String) : Collection :=
  ⟨Resource.kind α, namespaceName⟩

/-- The objects that a selector selects, or all. -/
def listAll (α : Type) [Resource α] (namespaceName selector : Option String) :
    ClientScript (List α) := do
  readItems (← answerTo (.list (placeOf α namespaceName) selector))

/-- The object of a name. -/
def getObject (α : Type) [Resource α] (namespaceName name : String) : ClientScript α := do
  checkName name
  readAnswer (← answerTo (.get (placeOf α namespaceName) name))

/-- The object of a name, or nothing if the server has none. -/
def getObject? (α : Type) [Resource α] (namespaceName name : String) :
    ClientScript (Option α) :=
  ExceptT.mk do
    match ← (getObject α namespaceName name).run with
    | .ok a => return .ok (some a)
    | .error (.api r) => return if r.reason = "NotFound" then .ok none else .error (.api r)
    | .error e => return .error e

/-- Creates an object. -/
def createObject {α : Type} [Resource α] (namespaceName : String) (a : α) : ClientScript α := do
  readAnswer (← answerTo (.create (placeOf α namespaceName) (encode a)))

/-- Makes an object's fields what they are to be, creating it where it is missing. -/
def applyObject {α : Type} [Resource α] (namespaceName name : String) (a : α) :
    ClientScript α := do
  checkName name
  readAnswer (← answerTo (.apply (placeOf α namespaceName) name (encode a)))

/-- Changes an object by a merge patch. -/
def mergeObject (α : Type) [Resource α] (namespaceName name : String) (patch : Json) :
    ClientScript α := do
  checkName name
  readAnswer (← answerTo (.merge (placeOf α namespaceName) name false patch))

/-- Changes the status of an object by a merge patch. -/
def mergeStatus (α : Type) [Resource α] (namespaceName name : String) (patch : Json) :
    ClientScript α := do
  checkName name
  readAnswer (← answerTo (.merge (placeOf α namespaceName) name true patch))

/-- Deletes an object. The answer is the object as it was, or a report that it is gone. -/
def deleteObject (α : Type) [Resource α] (namespaceName name : String)
    (propagation : Option Propagation) : ClientScript Unit := do
  checkName name
  let answer ← answerTo (.delete (placeOf α namespaceName) name propagation)
  if answer.textAt? ["kind"] = some "Status" then return ()
  else discard (readAnswer answer : ClientScript α)

/-- A step of the client that takes a missing object for success. -/
def unlessMissing (step : ClientScript Unit) : ClientScript Unit :=
  ExceptT.mk do
    match ← step.run with
    | .ok () => return .ok ()
    | .error e => return if e.isMissing then .ok () else .error e

/-- Steps of the operator, which may fail. -/
abbrev OperatorScript := ExceptT OperatorError ApiScript

/-- Steps of the client as steps of the operator. -/
def viaClient {α : Type} (step : ClientScript α) : OperatorScript α :=
  ExceptT.mk ((Except.mapError OperatorError.client) <$> step.run)

end VolumeDrain.Api
