import Mathlib.Data.List.Nodup
import VolumeDrain.Proofs.ApiServer

/-!
# What a server promises to those who read

An operator that only shows objects relies on less than one that changes them: an object is kept
under its own namespace and name, it is answered as it is kept, and a list has every object of a
namespace, or of all, once. A request is taken to ask for the namespace and name that it is made
for; how these are put into a path is the affair of the client.

The server in memory keeps these promises as long as it has each key once and under it an object of
that namespace and name.
-/
namespace VolumeDrain.Api

open Manifest

namespace ApiServer

variable {σ : Type}

/-- What a server promises to those who read the objects of a type. -/
structure ReadContract (server : ApiServer σ) (α : Type) [Resource α] : Prop where
  /-- The objects that are kept are of their type, and kept under their names. -/
  kept {ns name : String} {s : σ} {j : Json}
    (h : server.stored? (keyOf α ns name) s = some j) :
    ∃ a : α, decode j = .ok a ∧ (metadata a).namespaceName = some ns ∧
      (metadata a).name = some name
  /-- What is answered is kept. -/
  found {ns name : String} {s s' : σ} {j : Json}
    (h : server.serve (.get (placeOf α (some ns)) name) s = (.ok j, s')) :
    server.stored? (keyOf α ns name) s = some j
  /-- What is answered as not found is not kept. -/
  missing {ns name : String} {s s' : σ} {e : ErrorResponse}
    (h : server.serve (.get (placeOf α (some ns)) name) s = (.error e, s'))
    (hreason : e.reason = "NotFound") : server.stored? (keyOf α ns name) s = none
  /-- A list has each object that is kept in its place once. -/
  listed {place : Option String} {s s' : σ} {j : Json}
    (h : server.serve (.list (placeOf α place) none) s = (.ok j, s')) :
    ∃ (members : Json.Members) (keys : List (String × String)), j = .obj members ∧
      members.lookup "items" =
        some (.arr (keys.filterMap fun k => server.stored? (keyOf α k.1 k.2) s)) ∧
      keys.Nodup ∧ ∀ ns name, (ns, name) ∈ keys ↔
        (∀ watched ∈ place, watched = ns) ∧ (server.stored? (keyOf α ns name) s).isSome
  /-- In a place that is answered as not found nothing is kept. -/
  unlisted {place : Option String} {s s' : σ} {e : ErrorResponse}
    (h : server.serve (.list (placeOf α place) none) s = (.error e, s'))
    (hreason : e.reason = "NotFound") {ns : String} (hns : ∀ watched ∈ place, watched = ns)
    (name : String) : server.stored? (keyOf α ns name) s = none

/-- A request is answered without an error, except that something is not found. -/
def Answers (server : ApiServer σ) (r : Request) (s : σ) : Prop :=
  ∀ e s', server.serve r s = (.error e, s') → e.reason = "NotFound"

end ApiServer

/-! ## The server in memory -/

/-- Whether a document is an object of a type with the namespace and name of a key. -/
def namedAs (α : Type) [Resource α] (key : ObjectKey) (j : Json) : Bool :=
  match (decode j : Decoded α) with
  | .ok a =>
    (metadata a).namespaceName = some key.namespaceName && (metadata a).name = some key.name
  | .error _ => false

/-- A server has each key once, and under the keys of a type objects of their names. -/
structure Server.Files (α : Type) [Resource α] (s : Server) : Prop where
  apart : (s.objects.map Prod.fst).Nodup
  named : ∀ e ∈ s.objects, e.1.plural = (Resource.kind α).plural → namedAs α e.1 e.2 = true

/-- What a server has of a type, in a namespace or in all. -/
def Server.entriesOf (α : Type) [Resource α] (s : Server) (place : Option String) :
    List (ObjectKey × Json) :=
  s.objects.filter fun e =>
    e.1.plural = (Resource.kind α).plural && place.all fun ns => e.1.namespaceName = ns

/-- The server in memory as it is seen by those who only read. -/
def readServer (α : Type) [Resource α] : ApiServer { s : Server // s.Files α } where
  serve r s :=
    match r with
    | .list _ _ | .get _ _ => ((s.1.serve r).1, s)
    | _ =>
      (.error
        { status := "Failure", message := "read only", reason := "MethodNotAllowed", code := 405 },
        s)
  stored? key s := s.1.get? key

namespace Server

variable {α : Type} [Resource α] {s : Server} {place : Option String} {ns name : String}
  {key : ObjectKey} {e : ObjectKey × Json} {j : Json}

theorem mem_of_get? (h : s.get? key = some j) : (key, j) ∈ s.objects := by
  obtain ⟨before, after, hsplit, -⟩ := List.lookup_eq_some_iff.1 h
  rw [hsplit]
  exact List.mem_append_right _ List.mem_cons_self

theorem Files.get?_of_mem (hs : s.Files α) (he : e ∈ s.objects) : s.get? e.1 = some e.2 := by
  obtain ⟨before, after, hsplit⟩ := List.append_of_mem he
  refine List.lookup_eq_some_iff.2 ⟨before, after, hsplit, fun f hf => ?_⟩
  have hapart := hs.apart
  rw [hsplit, List.map_append, List.map_cons, List.nodup_append] at hapart
  exact bne_iff_ne.2
    (hapart.2.2 f.1 (List.mem_map_of_mem hf) e.1 List.mem_cons_self).symm

theorem listed_eq : s.listed (placeOf α place) none = (s.entriesOf α place).map Prod.snd := by
  simp only [listed, entriesOf, placeOf, Option.all_none, Bool.and_true]
  rfl

theorem mem_entriesOf : e ∈ s.entriesOf α place ↔ e ∈ s.objects ∧
    e.1.plural = (Resource.kind α).plural ∧ ∀ watched ∈ place, watched = e.1.namespaceName := by
  rw [entriesOf, List.mem_filter]
  cases place with
  | none => simp
  | some watched => simp [@eq_comm String watched]

theorem keyOf_entry (h : e ∈ s.entriesOf α place) :
    Api.keyOf α e.1.namespaceName e.1.name = e.1 := by
  rw [Api.keyOf, ← (mem_entriesOf.1 h).2.1]

theorem Files.get?_entry (hs : s.Files α) (h : e ∈ s.entriesOf α place) :
    s.get? (Api.keyOf α e.1.namespaceName e.1.name) = some e.2 := by
  rw [keyOf_entry h]
  exact hs.get?_of_mem (mem_entriesOf.1 h).1

/-- The namespaces and names of what is listed. -/
def namesOf (α : Type) [Resource α] (s : Server) (place : Option String) : List (String × String) :=
  (s.entriesOf α place).map fun e => (e.1.namespaceName, e.1.name)

theorem Files.nodup_namesOf (hs : s.Files α) (place : Option String) :
    (s.namesOf α place).Nodup := by
  refine List.Nodup.of_map (fun k : String × String => Api.keyOf α k.1 k.2) ?_
  have hkeys : (s.namesOf α place).map (fun k => Api.keyOf α k.1 k.2) =
      (s.entriesOf α place).map Prod.fst := by
    rw [namesOf, List.map_map]
    exact List.map_congr_left fun e he => keyOf_entry he
  rw [hkeys]
  exact hs.apart.sublist (List.filter_sublist.map _)

theorem Files.listed_namesOf (hs : s.Files α) (place : Option String) :
    s.listed (placeOf α place) none =
      (s.namesOf α place).filterMap fun k => s.get? (Api.keyOf α k.1 k.2) := by
  rw [listed_eq, namesOf, List.filterMap_map]
  exact (List.filterMap_eq_map_iff_forall_eq_some.2 fun e he => hs.get?_entry he).symm

theorem Files.mem_namesOf (hs : s.Files α) : (ns, name) ∈ s.namesOf α place ↔
    (∀ watched ∈ place, watched = ns) ∧ (s.get? (Api.keyOf α ns name)).isSome := by
  rw [namesOf, List.mem_map]
  constructor
  · rintro ⟨e, he, hnames⟩
    cases hnames
    exact ⟨(mem_entriesOf.1 he).2.2, by rw [hs.get?_entry he]; rfl⟩
  · rintro ⟨hplace, hsome⟩
    obtain ⟨j, hj⟩ := Option.isSome_iff_exists.1 hsome
    exact ⟨_, mem_entriesOf.2 ⟨mem_of_get? hj, rfl, hplace⟩, rfl⟩

end Server

section

variable {α : Type} [Resource α] {s : { s : Server // s.Files α }} {ns name : String} {j : Json}

theorem requestKey_get (α : Type) [Resource α] (ns name : String) :
    Server.requestKey (.get (placeOf α (some ns)) name) name = keyOf α ns name := rfl

theorem get_readServer (h : s.1.get? (keyOf α ns name) = some j) :
    (readServer α).serve (.get (placeOf α (some ns)) name) s = (.ok j, s) := by
  change ((s.1.serve (.get (placeOf α (some ns)) name)).1, s) = _
  rw [Server.serve, requestKey_get, h]

theorem get_readServer_of_none (h : s.1.get? (keyOf α ns name) = none) :
    (readServer α).serve (.get (placeOf α (some ns)) name) s =
      (.error (Server.notFound (keyOf α ns name)), s) := by
  change ((s.1.serve (.get (placeOf α (some ns)) name)).1, s) = _
  rw [Server.serve, requestKey_get, h]

end

/-- The server in memory keeps its promises to those who read. -/
theorem readContract_readServer (α : Type) [Resource α] : (readServer α).ReadContract α := by
  constructor
  case kept =>
    intro ns name s j h
    have hnamed := s.2.named _ (Server.mem_of_get? h) rfl
    rw [namedAs] at hnamed
    split at hnamed
    · rename_i a ha
      rw [Bool.and_eq_true, decide_eq_true_iff, decide_eq_true_iff] at hnamed
      exact ⟨a, ha, hnamed⟩
    · cases hnamed
  case found =>
    intro ns name s s' j h
    change s.1.get? (keyOf α ns name) = some j
    cases hstored : s.1.get? (keyOf α ns name) with
    | some k =>
      cases (get_readServer hstored).symm.trans h
      rfl
    | none => cases (get_readServer_of_none hstored).symm.trans h
  case missing =>
    intro ns name s s' e h _
    change s.1.get? (keyOf α ns name) = none
    cases hstored : s.1.get? (keyOf α ns name) with
    | some k => cases (get_readServer hstored).symm.trans h
    | none => rfl
  case listed =>
    intro place s s' j h
    cases h
    exact ⟨_, s.1.namesOf α place, rfl, congrArg (some ∘ Json.arr) (s.2.listed_namesOf place),
      s.2.nodup_namesOf place, fun ns name => s.2.mem_namesOf⟩
  case unlisted => exact fun h => nomatch h

end VolumeDrain.Api
