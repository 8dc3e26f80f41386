import VolumeDrain.Pool.Spec
import VolumeDrain.Proofs.StatusWrites

/-!
# Records as documents

A record is written field by field, and each field is read from what was written under its name: a
field that is always written, one that is written if it is set, and a list that is written unless it
is empty. A field that is left out is read as unset or empty, never as another default. Every value
of a specification and of a status is therefore read back from its document; and a document that is
read and written again is in a form that no longer changes.
-/
namespace VolumeDrain

open Json

theorem ok_bind {ε α β : Type} {x : Except ε α} {f : α → Except ε β} {a : α} {b : β}
    (hx : x = .ok a) (hf : f a = .ok b) : x >>= f = .ok b := bind_eq_ok.2 ⟨a, hx, hf⟩

/-! ## Maps -/

theorem mapM_decode_entries {α : Type} [Encode α] [Decode α] [LawfulCodec α]
    (l : List (String × α)) :
    (l.map fun e => (e.1, encode e.2)).mapM (fun m => do return (m.1, ← decode m.2)) =
      (.ok l : Decoded (List (String × α))) := by
  induction l with
  | nil => rfl
  | cons e rest ih => rw [List.map_cons, List.mapM_cons, decode_encode, ih]; rfl

instance {α : Type} [Encode α] [Decode α] [LawfulCodec α] : LawfulCodec (KeyMap α) where
  decode_encode m :=
    ok_bind (mapM_decode_entries m.entries) (congrArg Except.ok m.ofList_entries)

/-! ## Fields that were written -/

/-- Under the name of each field the members have what the field writes. -/
def Records (members : Members) (fields : List (String × Option Json)) : Prop :=
  ∀ name value, fields.lookup name = some value → members.lookup name = value

/-- A record is read from its document, if that is so whatever else may be known of its members.
The names of the fields do not depend on what they hold, so that computing settles whether they are
apart. -/
theorem decode_record {α : Type} [Decode α] {fields : List (String × Option Json)} {a : α}
    (hkeys : decide (fields.map Prod.fst).Nodup = true)
    (h : Records (written fields) fields → decode (.obj (written fields)) = (.ok a : Decoded α)) :
    decode (.record fields) = (.ok a : Decoded α) := by
  refine h fun name value hvalue => ?_
  rw [lookup_written (of_decide_eq_true hkeys), hvalue, Option.join_some]

namespace Records

variable {α : Type} [Encode α] [Decode α] [LawfulCodec α] {members : Members}
  {fields : List (String × Option Json)} {place : Nat} {name : String} {a : α}

variable (h : Records members fields)
include h

theorem required (hname : fields.lookup name = some (some (encode a))) :
    (Fields.named members).required place name = (.ok a : Decoded α) :=
  Fields.required_eq (h name _ hname)

theorem withDefault (hname : fields.lookup name = some (some (encode a))) {default : α} :
    (Fields.named members).withDefault place name default = (.ok a : Decoded α) :=
  Fields.withDefault_eq (h name _ hname) default

theorem optional {value : Option α} (hname : fields.lookup name = some (value.map encode))
    (hnull : ∀ a : α, encode a ≠ .null) :
    (Fields.named members).optional place name = (.ok value : Decoded (Option α)) :=
  Fields.optional_eq (h name _ hname) hnull

/-- A list that is left out where it is empty is read as empty where it is left out. -/
theorem unlessEmpty {l : List α}
    (hname : fields.lookup name = some (if l.isEmpty then none else some (encode l))) :
    (Fields.named members).withDefault place name [] = (.ok l : Decoded (List α)) := by
  have hlookup := h name _ hname
  cases l with
  | nil =>
    rw [Fields.withDefault, Fields.get?, hlookup]
    rfl
  | cons a rest => exact Fields.withDefault_eq hlookup []

theorem member? {value : Option α} (hname : fields.lookup name = some (value.map encode))
    (hnull : ∀ a : α, encode a ≠ .null) :
    Json.member? members name = (.ok value : Decoded (Option α)) := by
  have hread : (Fields.named members).optional 0 name = .ok value := h.optional hname hnull
  exact hread

theorem memberOr {empty : α} (hname : fields.lookup name = some (some (encode a)))
    (hnull : ∀ a : α, encode a ≠ .null) :
    Json.memberOr members name empty = (.ok a : Decoded α) := by
  have hread : Json.member? members name = .ok (some a) := h.member? hname hnull
  rw [Json.memberOr, hread]
  rfl

end Records

/-! ## Scheduling -/

namespace Manifest

instance : LawfulCodec LabelRequirement where
  decode_encode _ := decode_record rfl fun h =>
    ok_bind rfl <| ok_bind (h.memberOr rfl nofun) <| ok_bind (h.memberOr rfl nofun) <|
    ok_bind (h.member? rfl nofun) rfl

instance : LawfulCodec LabelSelector where
  decode_encode _ := decode_record rfl fun h =>
    ok_bind rfl <| ok_bind (h.member? rfl nofun) <| ok_bind (h.member? rfl nofun) rfl

instance : LawfulCodec NodeSelectorTerm where
  decode_encode _ := decode_record rfl fun h =>
    ok_bind rfl <| ok_bind (h.member? rfl nofun) <| ok_bind (h.member? rfl nofun) rfl

instance : LawfulCodec NodeSelector where
  decode_encode _ := decode_record rfl fun h =>
    ok_bind rfl <| ok_bind (h.memberOr rfl nofun) rfl

instance : LawfulCodec PreferredNode where
  decode_encode _ := decode_record rfl fun h =>
    ok_bind rfl <| ok_bind (h.memberOr rfl nofun) <| ok_bind (h.memberOr rfl nofun) rfl

instance : LawfulCodec NodeAffinity where
  decode_encode _ := decode_record rfl fun h =>
    ok_bind rfl <| ok_bind (h.member? rfl nofun) <| ok_bind (h.member? rfl nofun) rfl

instance : LawfulCodec PodAffinityTerm where
  decode_encode _ := decode_record rfl fun h =>
    ok_bind rfl <| ok_bind (h.member? rfl nofun) <| ok_bind (h.member? rfl nofun) <|
    ok_bind (h.member? rfl nofun) <| ok_bind (h.member? rfl nofun) <|
    ok_bind (h.member? rfl nofun) <| ok_bind (h.memberOr rfl nofun) rfl

instance : LawfulCodec WeightedPodTerm where
  decode_encode _ := decode_record rfl fun h =>
    ok_bind rfl <| ok_bind (h.memberOr rfl nofun) <| ok_bind (h.memberOr rfl nofun) rfl

instance : LawfulCodec PodAffinity where
  decode_encode _ := decode_record rfl fun h =>
    ok_bind rfl <| ok_bind (h.member? rfl nofun) <| ok_bind (h.member? rfl nofun) rfl

instance : LawfulCodec Affinity where
  decode_encode _ := decode_record rfl fun h =>
    ok_bind rfl <| ok_bind (h.member? rfl nofun) <| ok_bind (h.member? rfl nofun) <|
    ok_bind (h.member? rfl nofun) rfl

instance : LawfulCodec Toleration where
  decode_encode _ := decode_record rfl fun h =>
    ok_bind rfl <| ok_bind (h.member? rfl nofun) <| ok_bind (h.member? rfl nofun) <|
    ok_bind (h.member? rfl nofun) <| ok_bind (h.member? rfl nofun) <|
    ok_bind (h.member? rfl nofun) rfl

instance : LawfulCodec TopologySpreadConstraint where
  decode_encode _ := decode_record rfl fun h =>
    ok_bind rfl <| ok_bind (h.member? rfl nofun) <| ok_bind (h.member? rfl nofun) <|
    ok_bind (h.memberOr rfl nofun) <| ok_bind (h.member? rfl nofun) <|
    ok_bind (h.member? rfl nofun) <| ok_bind (h.member? rfl nofun) <|
    ok_bind (h.memberOr rfl nofun) <| ok_bind (h.memberOr rfl nofun) rfl

end Manifest

/-! ## Specifications -/

namespace Pool

instance : LawfulCodec Image where
  decode_encode _ := decode_record rfl fun h =>
    ok_bind rfl <| ok_bind (h.required rfl) <| ok_bind (h.withDefault rfl) <|
    ok_bind (h.optional rfl nofun) <| ok_bind (h.unlessEmpty rfl) rfl

instance : LawfulCodec Amounts where
  decode_encode _ := decode_record rfl fun h =>
    ok_bind rfl <| ok_bind (h.required rfl) <| ok_bind (h.required rfl) rfl

instance : LawfulCodec WorkerResources where
  decode_encode _ := decode_record rfl fun h =>
    ok_bind rfl <| ok_bind (h.required rfl) <| ok_bind (h.required rfl) rfl

instance : LawfulCodec Storage where
  decode_encode _ := decode_record rfl fun h =>
    ok_bind rfl <| ok_bind (h.withDefault rfl) <| ok_bind (h.optional rfl nofun) <|
    ok_bind (h.withDefault rfl) rfl

instance : LawfulCodec LogRotation where
  decode_encode _ := decode_record rfl fun h =>
    ok_bind rfl <| ok_bind (h.required rfl) <| ok_bind (h.withDefault rfl) <|
    ok_bind (h.withDefault rfl) rfl

instance : LawfulCodec VolumeMetrics where
  decode_encode _ := decode_record rfl fun h =>
    ok_bind rfl <| ok_bind (h.withDefault rfl) <| ok_bind (h.withDefault rfl) rfl

instance : LawfulCodec Draining where
  decode_encode _ := decode_record rfl fun h =>
    ok_bind rfl <| ok_bind (h.withDefault rfl) <| ok_bind (h.withDefault rfl) <|
    ok_bind (h.withDefault rfl) <| ok_bind (h.optional rfl nofun) <|
    ok_bind (h.optional rfl nofun) rfl

instance : LawfulCodec Scaling where
  decode_encode _ := decode_record rfl fun h =>
    ok_bind rfl <| ok_bind (h.withDefault rfl) rfl

instance : LawfulCodec PodSecurity where
  decode_encode _ := decode_record rfl fun h =>
    ok_bind rfl <| ok_bind (h.optional rfl nofun) <| ok_bind (h.optional rfl nofun) <|
    ok_bind (h.optional rfl nofun) <| ok_bind (h.optional rfl nofun) rfl

instance : LawfulCodec Security where
  decode_encode _ := decode_record rfl fun h =>
    ok_bind rfl <| ok_bind (h.optional rfl nofun) <| ok_bind (h.optional rfl nofun) rfl

instance : LawfulCodec VolumeSource where
  decode_encode _ := decode_record rfl fun h =>
    ok_bind rfl <| ok_bind (h.optional rfl nofun) <| ok_bind (h.optional rfl nofun) <|
    ok_bind (h.optional rfl nofun) <| ok_bind (h.optional rfl nofun) <|
    ok_bind (h.withDefault rfl) rfl

instance : LawfulCodec ExtraVolume where
  decode_encode _ := decode_record rfl fun h =>
    ok_bind rfl <| ok_bind (h.required rfl) <| ok_bind (h.required rfl) <|
    ok_bind (h.required rfl) <| ok_bind (h.withDefault rfl) <| ok_bind (h.required rfl) rfl

instance : LawfulCodec Spec where
  decode_encode _ := decode_record rfl fun h =>
    ok_bind rfl <| ok_bind (h.withDefault rfl) <| ok_bind (h.withDefault rfl) <|
    ok_bind (h.withDefault rfl) <| ok_bind (h.withDefault rfl) <|
    ok_bind (h.withDefault rfl) <| ok_bind (h.withDefault rfl) <|
    ok_bind (h.optional rfl nofun) <| ok_bind (h.optional rfl nofun) <|
    ok_bind (h.optional rfl nofun) <| ok_bind (h.withDefault rfl) <|
    ok_bind (h.withDefault rfl) <| ok_bind (h.optional rfl nofun) <|
    ok_bind (h.optional rfl nofun) <| ok_bind (h.optional rfl nofun) <|
    ok_bind (h.optional rfl nofun) <| ok_bind (h.optional rfl nofun) <|
    ok_bind (h.unlessEmpty rfl) rfl

end Pool

/-! ## Documents that are read and written again -/

/-- The document that is written for the value that a document stands for. -/
def rewritten (α : Type) [Encode α] [Decode α] (j : Json) : Decoded Json :=
  encode <$> (decode j : Decoded α)

/-- Nothing is lost between the values of a type and their documents. A document stands for the same
value once it is rewritten, and rewriting it a second time changes nothing. -/
structure ReadsBack (α : Type) [Encode α] [Decode α] : Prop where
  value (a : α) : decode (encode a) = (.ok a : Decoded α)
  document {j k : Json} (h : rewritten α j = .ok k) :
    decode k = (decode j : Decoded α) ∧ rewritten α k = .ok k

theorem readsBack (α : Type) [Encode α] [Decode α] [LawfulCodec α] : ReadsBack α where
  value := decode_encode
  document {j k} h := by
    obtain ⟨a, hj, hk⟩ : ∃ a : α, decode j = .ok a ∧ encode a = k := by
      unfold rewritten at h
      cases ha : (decode j : Decoded α) with
      | error e =>
        rw [ha] at h
        cases h
      | ok a =>
        rw [ha] at h
        exact ⟨a, rfl, Except.ok.inj h⟩
    have hback : decode k = (.ok a : Decoded α) := hk ▸ decode_encode a
    refine ⟨hback.trans hj.symm, ?_⟩
    rw [rewritten, hback, ← hk]
    rfl

/-- A rotation given by its place alone is written in full, with the defaults it was read with. -/
example : rewritten Pool.LogRotation (.arr [.str "/var/log"]) =
    .ok (.obj [("path", .str "/var/log"), ("maxSize", .str "100M"), ("maxFiles", .int 5)]) := rfl

open Manifest Pool in
/-- Specifications and statuses are read back from their documents, and so is each of the records
that they are made of. -/
theorem specs_and_statuses_read_back :
    (ReadsBack Spec ∧ ReadsBack Status) ∧
    (ReadsBack Image ∧ ReadsBack WorkerResources ∧ ReadsBack Amounts ∧ ReadsBack Storage ∧
      ReadsBack LogRotation ∧ ReadsBack VolumeMetrics ∧ ReadsBack Scaling ∧ ReadsBack Draining ∧
      ReadsBack Security ∧ ReadsBack PodSecurity ∧ ReadsBack ExtraVolume ∧
      ReadsBack VolumeSource ∧ ReadsBack StateCounts ∧ ReadsBack Condition) ∧
    ReadsBack Affinity ∧ ReadsBack (List Toleration) ∧
      ReadsBack (List TopologySpreadConstraint) := by
  refine ⟨⟨?_, ?_⟩, ⟨?_, ?_, ?_, ?_, ?_, ?_, ?_, ?_, ?_, ?_, ?_, ?_, ?_, ?_⟩, ?_, ?_, ?_⟩ <;>
    exact readsBack _

end VolumeDrain
