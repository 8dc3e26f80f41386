import VolumeDrain.Proofs.ClaimDocuments

/-!
# What documents tell of their objects

The name under which an object is written, and whether it is being deleted, can be told from its
document alone. This holds of pods and of jobs, and it is all that settling an object needs to know
of its type.
-/
namespace VolumeDrain

namespace Manifest

open Json Operator

theorem get?_name_encode {m : ObjectMeta} {name : String} (h : m.name = some name) :
    (encode m).get? "name" = some (.str name) := by
  change ((written [field? "annotations" m.annotations,
     ("deletionTimestamp", m.deletionTimestamp.map encodeTime),
     field? "generateName" m.generateName, field? "generation" m.generation,
     field? "labels" m.labels, field? "name" m.name, field? "namespace" m.namespaceName,
     field? "ownerReferences" m.ownerReferences, field? "resourceVersion" m.resourceVersion,
     field? "uid" m.uid]) ++ m.rest).lookup "name" = _
  rw [List.lookup_append, lookup_written (of_decide_eq_true rfl), h]
  rfl

/-- An instant is set where its member is, unless it cannot be read. -/
theorem isSome_of_instant? {members : Members} {name : String} {time : Option Instant}
    (h : instant? members name = .ok time) :
    time.isSome = (members.lookup name).any fun t => !(t matches .null) := by
  obtain ⟨found, hfound, h⟩ := bind_eq_ok.1 h
  rcases member?_eq_ok hfound with ⟨rfl, hnull⟩ | ⟨j, text, hj, htext, rfl⟩
  · cases h
    cases hlookup : members.lookup name with
    | none => rfl
    | some j =>
      rw [hnull j hlookup]
      rfl
  · dsimp only at h
    split at h
    · cases h
      rw [hj]
      cases j with
      | str => rfl
      | null | bool | int | decimal | arr | obj => cases htext
    · cases h

theorem isTerminating_of_memberOr {members : Members} {m : ObjectMeta}
    (h : Json.memberOr members "metadata" {} = (.ok m : Decoded ObjectMeta)) :
    m.isTerminating = Api.Server.isTerminating (.obj members) := by
  obtain ⟨found, hfound, rfl⟩ := memberOr_eq_ok h
  rw [Api.Server.isTerminating, path?_pair, get?_eq_lookup "metadata"]
  rcases member?_eq_ok hfound with ⟨rfl, hnull⟩ | ⟨j, m, hj, hm, rfl⟩
  · have hnone : ((members.lookup "metadata").getD .null) = .null := by
      cases hlookup : members.lookup "metadata" with
      | none => rfl
      | some j => exact hnull j hlookup
    rw [membersOf, hnone]
    rfl
  · obtain ⟨fields, hfields, -⟩ := bind_eq_ok.1 hm
    cases objectMembers_eq_ok hfields
    obtain ⟨-, -, -, -, -, -, -, -, -, htime, -⟩ := decode_objectMeta_eq_ok_iff.1 hm
    rw [membersOf, hj]
    exact isSome_of_instant? htime

end Manifest

namespace Api

open Json Manifest Operator

/-- Types of objects whose documents tell their name and whether they are being deleted. -/
class TellsMetadata (α : Type) [Resource α] : Prop where
  name_encode {a : α} {name : String} (h : (metadata a).name = some name) :
    (encode a).textAt? ["metadata", "name"] = some name
  isTerminating_decode {j : Json} {a : α} (h : decode j = .ok a) :
    (metadata a).isTerminating = Server.isTerminating j

theorem textAt?_name_record {m : ObjectMeta} {name : String} (h : m.name = some name) (k : Kind)
    (fields : List (String × Option Json)) :
    (k.record (field "metadata" m :: fields)).textAt? ["metadata", "name"] = some name := by
  have hname : (encode m).get? "name" = some (.str name) := get?_name_encode h
  rw [textAt?, path?_pair]
  exact congrArg (Option.bind · text?) hname

instance : TellsMetadata Pod where
  name_encode h := textAt?_name_record h _ _
  isTerminating_decode hdecode := by
    obtain ⟨members, hmembers, h⟩ := bind_eq_ok.1 hdecode
    cases membersOf_eq_ok hmembers
    obtain ⟨m, hm, h⟩ := bind_eq_ok.1 h
    obtain ⟨_, -, h⟩ := bind_eq_ok.1 h
    obtain ⟨_, -, h⟩ := bind_eq_ok.1 h
    obtain ⟨_, -, h⟩ := bind_eq_ok.1 h
    cases h
    exact isTerminating_of_memberOr hm

instance : TellsMetadata Job where
  name_encode h := textAt?_name_record h _ _
  isTerminating_decode hdecode := by
    obtain ⟨members, hmembers, h⟩ := bind_eq_ok.1 hdecode
    cases membersOf_eq_ok hmembers
    obtain ⟨m, hm, h⟩ := bind_eq_ok.1 h
    obtain ⟨_, -, h⟩ := bind_eq_ok.1 h
    obtain ⟨_, -, h⟩ := bind_eq_ok.1 h
    cases h
    exact isTerminating_of_memberOr hm

end Api

end VolumeDrain
