import VolumeDrain.Proofs.ApiServer
import VolumeDrain.Proofs.Documents

/-!
# A server that keeps its promises

A server of single objects that keeps documents under keys and nothing else: no versions, no times.
A document is only kept under a key if it can be read as an object of the key's type. What is
applied is merged into what is kept, unless that carries it already. A write whose result would not
carry what was asked for is refused.
-/
namespace VolumeDrain.Api

open Manifest Drain

/-- A document can be read as an object of a type, if the key is for objects of that type. -/
def readableAs (α : Type) [Resource α] (key : ObjectKey) (j : Json) : Bool :=
  key.plural != (Resource.kind α).plural || (decode j : Decoded α).toOption.isSome

/-- Whether a document may be kept under a key. -/
def admissible (key : ObjectKey) (j : Json) : Bool :=
  !key.name.isEmpty && readableAs Pod key j && readableAs Job key j

/-- What a server keeps. -/
structure Content where
  objects : ObjectKey → Option Json
  admissible : ∀ key j, objects key = some j → admissible key j = true

/-- The error for a document that may not be kept. -/
def invalid (key : ObjectKey) : ErrorResponse where
  status := "Failure"
  message := key.plural ++ " \"" ++ key.name ++ "\" is invalid"
  reason := "Invalid"
  code := 422

namespace Content

def empty : Content := ⟨fun _ => none, nofun⟩

def set (c : Content) (key : ObjectKey) (j : Json) (h : Api.admissible key j = true) : Content where
  objects other := if other = key then some j else c.objects other
  admissible other k hk := by
    split at hk
    · cases hk
      rename_i heq
      exact heq ▸ h
    · exact c.admissible other k hk

def erase (c : Content) (key : ObjectKey) : Content where
  objects other := if other = key then none else c.objects other
  admissible other k hk := by
    split at hk
    · cases hk
    · exact c.admissible other k hk

/-- Keeps a document that carries what is wanted, and goes on being deleted if it was. -/
def write (c : Content) (key : ObjectKey) (j wanted : Json) : Except ErrorResponse Json × Content :=
  if h : Api.admissible key j = true ∧ j.carries wanted = true ∧
      Server.isTerminating j = (c.objects key).any Server.isTerminating then
    (.ok j, c.set key j h.1)
  else (.error (invalid key), c)

/-- Carries out a request for a single object. -/
def serve (r : Request) (c : Content) : Except ErrorResponse Json × Content :=
  match r with
  | .get _ name =>
    match c.objects (Server.requestKey r name) with
    | some j => (.ok j, c)
    | none => (.error (Server.notFound (Server.requestKey r name)), c)
  | .create _ object =>
    match object.textAt? ["metadata", "name"] with
    | none => (.error (invalid (Server.requestKey r "")), c)
    | some name =>
      match c.objects (Server.requestKey r name) with
      | some _ => (.error (Server.alreadyExists (Server.requestKey r name)), c)
      | none => c.write (Server.requestKey r name) (desiredPart object) (desiredPart object)
  | .apply _ name object =>
    match c.objects (Server.requestKey r name) with
    | none => c.write (Server.requestKey r name) (desiredPart object) (desiredPart object)
    | some stored =>
      if stored.carries (desiredPart object) then (.ok stored, c)
      else
        c.write (Server.requestKey r name) ((desiredPart object).mergePatch stored)
          (desiredPart object)
  | .delete _ name _ =>
    match c.objects (Server.requestKey r name) with
    | some j => (.ok j, c.erase (Server.requestKey r name))
    | none => (.error (Server.notFound (Server.requestKey r name)), c)
  | .list _ _ | .merge _ _ _ _ => (.error (invalid (Server.requestKey r "")), c)

end Content

/-- The server that keeps content. -/
def contentServer : ApiServer Content where
  serve := Content.serve
  stored? key c := c.objects key

namespace Content

variable {c c' : Content} {key : ObjectKey} {j k wanted : Json}

theorem write_error {e : ErrorResponse} (h : c.write key j wanted = (.error e, c')) : c' = c := by
  rw [write] at h
  split at h <;> cases h
  rfl

theorem write_ok (h : c.write key j wanted = (.ok k, c')) :
    contentServer.Keeps key k c c' ∧ k.carries wanted = true ∧
      Server.isTerminating k = (c.objects key).any Server.isTerminating := by
  rw [write] at h
  split at h
  · rename_i hkept
    cases h
    exact ⟨⟨if_pos rfl, fun other hother => if_neg hother⟩, hkept.2⟩
  · cases h

theorem serve_error {r : Request} {e : ErrorResponse} (h : c.serve r = (.error e, c')) :
    c' = c := by
  cases r with
  | list | merge =>
    cases h
    rfl
  | get place name | delete place name propagation =>
    rw [serve] at h
    split at h <;> cases h
    rfl
  | create place object =>
    rw [serve] at h
    split at h
    · cases h
      rfl
    · split at h
      · cases h
        rfl
      · exact write_error h
  | apply place name object =>
    rw [serve] at h
    split at h
    · exact write_error h
    · split at h
      · cases h
      · exact write_error h

/-! What becomes of each request for an object of a type. -/

variable {α : Type} [Resource α] {ns name : String} {object : Json}

theorem serve_get : c.serve (.get (placeOf α (some ns)) name) =
    match c.objects (keyOf α ns name) with
    | some j => (.ok j, c)
    | none => (.error (Server.notFound (keyOf α ns name)), c) := rfl

theorem serve_delete {propagation : Option Propagation} :
    c.serve (.delete (placeOf α (some ns)) name propagation) =
      match c.objects (keyOf α ns name) with
      | some j => (.ok j, c.erase (keyOf α ns name))
      | none => (.error (Server.notFound (keyOf α ns name)), c) := rfl

theorem serve_create (hname : object.textAt? ["metadata", "name"] = some name) :
    c.serve (.create (placeOf α (some ns)) object) =
      match c.objects (keyOf α ns name) with
      | some _ => (.error (Server.alreadyExists (keyOf α ns name)), c)
      | none => c.write (keyOf α ns name) (desiredPart object) (desiredPart object) := by
  rw [serve, hname]
  rfl

theorem serve_apply : c.serve (.apply (placeOf α (some ns)) name object) =
    match c.objects (keyOf α ns name) with
    | none => c.write (keyOf α ns name) (desiredPart object) (desiredPart object)
    | some stored =>
      if stored.carries (desiredPart object) then (.ok stored, c)
      else c.write (keyOf α ns name) ((desiredPart object).mergePatch stored)
        (desiredPart object) := rfl

theorem of_create (hname : object.textAt? ["metadata", "name"] = some name)
    (h : c.serve (.create (placeOf α (some ns)) object) = (.ok j, c')) :
    c.objects (keyOf α ns name) = none ∧ contentServer.Keeps (keyOf α ns name) j c c' ∧
      j.carries (desiredPart object) = true ∧ Server.isTerminating j = false := by
  rw [serve_create hname] at h
  cases hstored : c.objects (keyOf α ns name) with
  | some stored =>
    rw [hstored] at h
    cases h
  | none =>
    rw [hstored] at h
    obtain ⟨hkeeps, hcarries, hdying⟩ := write_ok h
    rw [hstored] at hdying
    exact ⟨rfl, hkeeps, hcarries, hdying⟩

theorem of_apply (h : c.serve (.apply (placeOf α (some ns)) name object) = (.ok j, c')) :
    contentServer.Keeps (keyOf α ns name) j c c' ∧ j.carries (desiredPart object) = true ∧
      Server.isTerminating j = (c.objects (keyOf α ns name)).any Server.isTerminating := by
  rw [serve_apply] at h
  split at h
  · exact write_ok h
  · rename_i stored hstored
    split at h
    · rename_i hcarries
      cases h
      refine ⟨⟨hstored, fun _ _ => rfl⟩, hcarries, ?_⟩
      rw [hstored]
      rfl
    · exact write_ok h

end Content

/-- The content server keeps its promises for the types of objects that it checks. -/
theorem contract_contentServer {α : Type} [Resource α]
    (hreadable : ∀ key j, admissible key j = true → readableAs α key j = true) :
    contentServer.Contract α := by
  have hdecode : ∀ {ns name : String} {c : Content} {j : Json},
      c.objects (keyOf α ns name) = some j → ∃ a : α, decode j = .ok a := by
    intro ns name c j h
    have hread := hreadable _ _ (c.admissible _ _ h)
    rw [readableAs, keyOf, bne_self_eq_false, Bool.false_or] at hread
    exact ok_of_isSome hread
  constructor
  case readable => exact hdecode
  case nameless =>
    intro ns c
    cases hstored : c.objects (keyOf α ns "") with
    | none => exact hstored
    | some j => cases c.admissible _ j hstored
  case refused => exact fun h => Content.serve_error h ▸ .refl _
  case found =>
    intro ns name c j h
    refine ⟨c, Content.serve_get.trans ?_, .refl c⟩
    rw [show c.objects _ = some j from h]
  case notFound =>
    intro ns name c h
    refine ⟨Server.notFound (keyOf α ns name), c, Content.serve_get.trans ?_, rfl⟩
    rw [show c.objects _ = none from h]
  case created => exact Content.of_create
  case applied => exact Content.of_apply
  case reapplied =>
    intro ns name c a j _ h hcarries
    refine ⟨c, Content.serve_apply.trans ?_, .refl c⟩
    rw [show c.objects _ = some j from h]
    exact if_pos hcarries
  case deleted =>
    intro ns name c j h
    refine ⟨j, c.erase (keyOf α ns name), Content.serve_delete.trans ?_, .inr (hdecode h), ?_, ?_⟩
    · rw [show c.objects _ = some j from h]
    · intro left hleft
      cases (if_pos rfl).symm.trans hleft
    · exact fun other hother => if_neg hother
  case missing =>
    intro ns name c h
    refine ⟨Server.notFound (keyOf α ns name), c, Content.serve_delete.trans ?_, rfl⟩
    rw [show c.objects _ = none from h]

theorem contract_contentServer_pod : contentServer.Contract Pod :=
  contract_contentServer fun key j h => by
    rw [admissible, Bool.and_eq_true, Bool.and_eq_true] at h
    exact h.1.2

theorem contract_contentServer_job : contentServer.Contract Job :=
  contract_contentServer fun key j h => by
    rw [admissible, Bool.and_eq_true] at h
    exact h.2

end VolumeDrain.Api
