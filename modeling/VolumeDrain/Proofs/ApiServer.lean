import VolumeDrain.Api.Cluster
import VolumeDrain.Api.Server
import VolumeDrain.Proofs.ClientSteps

/-!
# What an API server promises

The operator is written against a server of which it knows only what is documented. A server is here
whoever carries out requests and keeps objects under keys, and `Contract` says what the operator may
rely on for the objects of one type: an error changes nothing, an object is read as it is kept, what
is created or applied is kept with the fields that were asked for, and applying what is applied
already changes nothing.

What is asked for is the desired part of a document: its status is the affair of others, and some
members of the metadata are only ever set by the server. An object carries it if it has each of its
members; lists may hold more items than were asked for, as others may add theirs.

A request may be refused instead of being carried out, for any reason that the theorem in question
allows.
-/
namespace VolumeDrain

namespace Json

mutual

/-- Whether a document has everything that another one asks for. -/
def carries : Json → Json → Bool
  | obj stored, obj wanted => membersCarry stored wanted
  | arr stored, arr wanted => itemsCarry stored wanted
  | stored, wanted => stored.same wanted

/-- Whether members have everything that other members ask for. -/
def membersCarry (stored : List (String × Json)) : List (String × Json) → Bool
  | [] => true
  | (name, wanted) :: rest =>
    (stored.lookup name).any (carries · wanted) && membersCarry stored rest

/-- Whether each item that is asked for is among those of a list. -/
def itemsCarry (stored : List Json) : List Json → Bool
  | [] => true
  | wanted :: rest => stored.any (carries · wanted) && itemsCarry stored rest

end

end Json

namespace Api

open Manifest Drain Script

/-- The members of metadata that only the server sets. -/
def serverMembers : List String :=
  ["creationTimestamp", "deletionGracePeriodSeconds", "deletionTimestamp", "generation",
   "managedFields", "resourceVersion", "selfLink", "uid"]

/-- What a document asks for, apart from its metadata's members that only the server sets, and its
status. -/
def desiredPart (object : Json) : Json :=
  .obj ((Json.dropMember "status" object.membersOf).map fun m =>
    if m.1 = "metadata" then
      (m.1, .obj (m.2.membersOf.filter fun f => !serverMembers.contains f.1))
    else m)

/-- Under what objects of a type are kept. -/
def keyOf (α : Type) [Resource α] (namespaceName name : String) : ObjectKey :=
  ⟨(Resource.kind α).plural, namespaceName, name⟩

/-- Who carries out requests and keeps objects. -/
structure ApiServer (σ : Type) where
  serve : Request → σ → Except ErrorResponse Json × σ
  stored? : ObjectKey → σ → Option Json

namespace ApiServer

variable {σ : Type} (server : ApiServer σ)

/-- The same objects are kept. -/
def Same (s s' : σ) : Prop := ∀ key, server.stored? key s' = server.stored? key s

/-- The same objects are kept under all keys but one. -/
def SameBut (key : ObjectKey) (s s' : σ) : Prop :=
  ∀ other, other ≠ key → server.stored? other s' = server.stored? other s

/-- An object is kept under a key, and under the others what was there. -/
structure Keeps (key : ObjectKey) (j : Json) (s s' : σ) : Prop where
  stored : server.stored? key s' = some j
  others : server.SameBut key s s'

/-- What a server promises for the objects of a type. -/
structure Contract (α : Type) [Resource α] : Prop where
  /-- The objects that are kept are of their type. -/
  readable {ns name : String} {s : σ} {j : Json}
    (h : server.stored? (keyOf α ns name) s = some j) : ∃ a : α, decode j = .ok a
  /-- Objects have names. -/
  nameless (ns : String) (s : σ) : server.stored? (keyOf α ns "") s = none
  /-- What is answered with an error is not carried out. -/
  refused {r : Request} {s s' : σ} {e : ErrorResponse} (h : server.serve r s = (.error e, s')) :
    server.Same s s'
  /-- An object is answered as it is kept. -/
  found {ns name : String} {s : σ} {j : Json} (h : server.stored? (keyOf α ns name) s = some j) :
    ∃ s', server.serve (.get (placeOf α (some ns)) name) s = (.ok j, s') ∧ server.Same s s'
  /-- An object that is not kept is answered as not found. -/
  notFound {ns name : String} {s : σ} (h : server.stored? (keyOf α ns name) s = none) :
    ∃ e s', server.serve (.get (placeOf α (some ns)) name) s = (.error e, s') ∧
      e.reason = "NotFound"
  /-- An object is created where its name is free, with the fields that it was to have. -/
  created {ns name : String} {s s' : σ} {object j : Json}
    (hname : object.textAt? ["metadata", "name"] = some name)
    (h : server.serve (.create (placeOf α (some ns)) object) s = (.ok j, s')) :
    server.stored? (keyOf α ns name) s = none ∧ server.Keeps (keyOf α ns name) j s s' ∧
      j.carries (desiredPart object) = true ∧ Server.isTerminating j = false
  /-- An object that is applied has the fields that it was to have, and goes on being deleted if it
  was being deleted. -/
  applied {ns name : String} {s s' : σ} {object j : Json}
    (h : server.serve (.apply (placeOf α (some ns)) name object) s = (.ok j, s')) :
    server.Keeps (keyOf α ns name) j s s' ∧ j.carries (desiredPart object) = true ∧
      Server.isTerminating j = (server.stored? (keyOf α ns name) s).any Server.isTerminating
  /-- Applying what is applied already changes nothing. -/
  reapplied {ns name : String} {s : σ} {a : α} {j : Json} (haddress : address a = .ok (ns, name))
    (h : server.stored? (keyOf α ns name) s = some j)
    (hcarries : j.carries (desiredPart (encode a)) = true) :
    ∃ s', server.serve (.apply (placeOf α (some ns)) name (encode a)) s = (.ok j, s') ∧
      server.Same s s'
  /-- An object that is deleted is gone, or on its way out. The answer is the object or a report. -/
  deleted {ns name : String} {s : σ} {j : Json}
    (h : server.stored? (keyOf α ns name) s = some j) :
    ∃ answer s', server.serve (.delete (placeOf α (some ns)) name none) s = (.ok answer, s') ∧
      (answer.textAt? ["kind"] = some "Status" ∨ ∃ a : α, decode answer = .ok a) ∧
      (∀ left, server.stored? (keyOf α ns name) s' = some left →
        Server.isTerminating left = true) ∧ server.SameBut (keyOf α ns name) s s'
  /-- Deleting what is not there is answered as such. -/
  missing {ns name : String} {s : σ} (h : server.stored? (keyOf α ns name) s = none) :
    ∃ e s', server.serve (.delete (placeOf α (some ns)) name none) s = (.error e, s') ∧
      e.code = 404

/-! ## Runs -/

/-- How a request may be answered when nobody else writes: it is carried out, or it is refused with
an error that is allowed for it. -/
inductive Answered (Refuses : Request → σ → ClientError → Prop) :
    (act : Act) → σ → act.Reply → σ → Prop
  | served {r : Request} {s s' : σ} {answer : Except ErrorResponse Json}
      (h : server.serve r s = (answer, s')) :
      Answered Refuses (.request r) s (answer.mapError .api) s'
  | refused {r : Request} {s s' : σ} {e : ClientError} (h : Refuses r s e)
      (hsame : server.Same s s') : Answered Refuses (.request r) s (.error e) s'
  | measured {m : Measurement} {s s' : σ} (hsame : server.Same s s') :
      Answered Refuses (.measure m) s () s'

/-- An error says that an object is missing only where it is. -/
def Truthful (r : Request) (s : σ) (e : ClientError) : Prop :=
  (∃ response, e = .api response ∧ (response.reason = "NotFound" ∨ response.code = 404)) →
    ∀ name, r.name? = some name → server.stored? (Server.requestKey r name) s = none

/-- A script runs to its end. -/
def Course {β : Type} (Refuses : Request → σ → ClientError → Prop) (script : ApiScript β) (s : σ)
    (t : List (Exchange Act.Reply)) (b : β) (s' : σ) : Prop :=
  Exchanges script t (.done b) ∧ Follows (server.Answered Refuses) t s s'

/-- Every request is carried out. -/
def answer : (act : Act) → σ → act.Reply × σ
  | .request r, s => ((server.serve r s).1.mapError .api, (server.serve r s).2)
  | .measure _, s => ((), s)

section

variable {server} {Refuses : Request → σ → ClientError → Prop} {β : Type} {s s' s'' : σ}

theorem Same.refl (s : σ) : server.Same s s := fun _ => rfl

theorem Same.trans (h : server.Same s s') (h' : server.Same s' s'') : server.Same s s'' :=
  fun key => (h' key).trans (h key)

theorem Same.sameBut (h : server.Same s s') (key : ObjectKey) : server.SameBut key s s' :=
  fun other _ => h other

theorem Same.trans_sameBut {key : ObjectKey} (h : server.Same s s')
    (h' : server.SameBut key s' s'') : server.SameBut key s s'' :=
  fun other hother => (h' other hother).trans (h other)

theorem Course.of_done {b b' : β} {t : List (Exchange Act.Reply)}
    (h : server.Course Refuses (.done b) s t b' s') : t = [] ∧ b' = b ∧ s' = s := by
  obtain ⟨ht, hf⟩ := h
  obtain ⟨rfl, hb⟩ := ht.of_done
  cases hb
  exact ⟨rfl, rfl, hf⟩

theorem Course.of_ask {r : Request} {resume : Except ClientError Json → ApiScript β} {b : β}
    {t : List (Exchange Act.Reply)}
    (h : server.Course Refuses (.ask (Act.request r) resume) s t b s'') :
    ∃ (reply : Except ClientError Json) (s' : σ) (u : List (Exchange Act.Reply)),
      t = ⟨.request r, reply⟩ :: u ∧ server.Answered Refuses (.request r) s reply s' ∧
        server.Course Refuses (resume reply) s' u b s'' := by
  obtain ⟨ht, hf⟩ := h
  rcases ht.of_ask with ⟨-, hrest⟩ | ⟨reply, u, rfl, hu⟩
  · cases hrest
  · obtain ⟨s', hanswer, hrest⟩ := hf
    exact ⟨reply, s', u, rfl, hanswer, hu, hrest⟩

theorem answer_of_serve {r : Request} {answer : Except ErrorResponse Json}
    (h : server.serve r s = (answer, s')) :
    server.answer (.request r) s = (answer.mapError .api, s') := by
  rw [ApiServer.answer, h]
  rfl

/-- A server that carries out every request is one that refuses none. -/
theorem course_run (Refuses : Request → σ → ClientError → Prop) (script : ApiScript β) (s : σ) :
    server.Course Refuses script s (transcript server.answer script s)
      (Script.run server.answer script s).1 (Script.run server.answer script s).2 := by
  refine ⟨exchanges_transcript _ _ _, follows_transcript (f := id) (fun act s => ?_) _ _⟩
  cases act with
  | request r => exact .served rfl
  | measure m => exact .measured (.refl s)

end

namespace Contract

variable {server} {α : Type} [Resource α] {Refuses : Request → σ → ClientError → Prop} {s s' : σ}
  {ns name : String}

variable (h : server.Contract α)
include h

/-- A request is carried out without an error, or it changes nothing. -/
theorem of_answered {r : Request} {reply : Except ClientError Json}
    (hanswer : server.Answered Refuses (.request r) s reply s') :
    (∃ j, reply = .ok j ∧ server.serve r s = (.ok j, s')) ∨
      ∃ e, reply = .error e ∧ server.Same s s' ∧
        ((∃ response, server.serve r s = (.error response, s') ∧ e = .api response) ∨
          Refuses r s e) := by
  cases hanswer with
  | refused hrefuses hsame => exact .inr ⟨_, rfl, hsame, .inr hrefuses⟩
  | @served _ _ _ answer hserve =>
    cases answer with
    | ok j => exact .inl ⟨j, rfl, hserve⟩
    | error response => exact .inr ⟨_, rfl, h.refused hserve, .inl ⟨response, hserve, rfl⟩⟩

omit h in
theorem resultOfGet_ok {j : Json} {b : α} (hb : decode j = .ok b) :
    resultOfGet (.ok j) = .ok (some b) := by
  rw [resultOfGet, resultOfRead, hb]
  rfl

/-- What is read is kept, and what is read as missing is, unless the server is not truthful. -/
theorem of_get {reply : Except ClientError Json}
    (hanswer : server.Answered Refuses (.request (.get (placeOf α (some ns)) name)) s reply s') :
    server.Same s s' ∧
      (∀ stored : α, resultOfGet reply = .ok (some stored) →
        ∃ j, server.stored? (keyOf α ns name) s = some j ∧ decode j = .ok stored) ∧
      ((∀ r s e, Refuses r s e → server.Truthful r s e) →
        (resultOfGet reply : Except ClientError (Option α)) = .ok none →
          server.stored? (keyOf α ns name) s = none) := by
  rcases h.of_answered hanswer with ⟨j, rfl, hserve⟩ | ⟨e, rfl, hsame, hcause⟩
  · cases hstored : server.stored? (keyOf α ns name) s with
    | none =>
      obtain ⟨e, s'', hmissing, -⟩ := h.notFound hstored
      cases hserve.symm.trans hmissing
    | some k =>
      obtain ⟨s'', hfound, hsame⟩ := h.found hstored
      cases hserve.symm.trans hfound
      obtain ⟨b, hb⟩ := h.readable hstored
      have hread := resultOfGet_ok hb
      refine ⟨hsame, fun stored hresult => ⟨j, rfl, ?_⟩, fun _ hresult => ?_⟩
      · cases hread.symm.trans hresult
        exact hb
      · cases hread.symm.trans hresult
  · refine ⟨hsame, fun stored hresult => ?_, fun htruthful hresult => ?_⟩
    · cases (resultOfGet_error_eq_ok hresult).1
    · obtain ⟨-, response, rfl, hreason⟩ := resultOfGet_error_eq_ok hresult
      rcases hcause with ⟨_, hserve, -⟩ | hrefuses
      · cases hstored : server.stored? (keyOf α ns name) s with
        | none => rfl
        | some k =>
          obtain ⟨s'', hfound, -⟩ := h.found hstored
          cases hserve.symm.trans hfound
      · exact htruthful _ _ _ hrefuses ⟨response, rfl, .inl hreason⟩ name rfl

end Contract

end ApiServer

/-- The requests of a run that are sent to change something. -/
def writesIn (t : List (Exchange Act.Reply)) : Nat :=
  t.countP fun e =>
    match e.question with
    | .request r => r.method != "GET"
    | .measure _ => false

end Api

end VolumeDrain
