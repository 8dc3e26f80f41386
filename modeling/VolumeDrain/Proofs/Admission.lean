import VolumeDrain.Json.Pointer
import VolumeDrain.Pool.Definition
import VolumeDrain.Proofs.Conformance
import VolumeDrain.Proofs.Records

/-!
# What the pool's definition admits

The schemas of a pool are written beside its readers and writers. Here each schema is compared with
the record that it describes: the documents that the schema allows are read, whatever else they
hold, and what the record writes is allowed by the schema. Placement is left to the cluster's own
schema, so a specification that sets any of it may still be refused by the reader.
-/
namespace VolumeDrain

open Json Schema

/-- Something is read, whatever it is. -/
def Reads {α : Type} (x : Decoded α) : Prop := ∃ a, x = .ok a

namespace Reads

variable {α β : Type} {x : Decoded α} {f : α → Decoded β}

theorem ok (a : α) : Reads (.ok a) := ⟨a, rfl⟩

theorem bind (hx : Reads x) (hf : ∀ a, Reads (f a)) : Reads (x >>= f) := by
  obtain ⟨a, ha⟩ := hx
  obtain ⟨b, hb⟩ := hf a
  exact ⟨b, ok_bind ha hb⟩

theorem after {a : α} (hx : x = .ok a) (hf : Reads (f a)) : Reads (x >>= f) := hx ▸ hf

theorem map (hx : Reads x) (f : α → β) : Reads (f <$> x) := by
  obtain ⟨a, rfl⟩ := hx
  exact ok (f a)

theorem mapM {l : List α} (h : ∀ a ∈ l, Reads (f a)) : Reads (l.mapM f) := by
  induction l with
  | nil => exact ok []
  | cons a rest ih =>
    rw [List.mapM_cons]
    have hrest := ih fun a' ha' => h a' (List.mem_cons_of_mem a ha')
    exact (h a List.mem_cons_self).bind fun b => hrest.bind fun bs => ok (b :: bs)

end Reads

/-- Every document that a schema allows is read. -/
class Accepts (α : Type) [Decode α] (s : Schema) : Prop where
  accepts {j : Json} (h : s.Admits j) : Reads (decode j : Decoded α)

/-- Every value is written as a document that a schema allows. -/
class Covers (α : Type) [Encode α] (s : Schema) : Prop where
  covers (a : α) : s.Admits (encode a)

export Accepts (accepts)
export Covers (covers)

/-! ## Values that are no records -/

instance : Accepts String .text where
  accepts h := by
    obtain ⟨t, rfl⟩ := admits_text.1 h
    exact ⟨t, rfl⟩

instance : Covers String .text where
  covers t := admits_text.2 ⟨t, rfl⟩

instance : Accepts Bool .boolean where
  accepts h := by
    obtain ⟨b, rfl⟩ := admits_boolean.1 h
    exact ⟨b, rfl⟩

instance : Covers Bool .boolean where
  covers b := admits_boolean.2 ⟨b, rfl⟩

instance : Accepts Int32 .int32 where
  accepts h := by
    obtain ⟨n, rfl, hrange⟩ := admits_int32.1 h
    exact ⟨Int32.ofInt n, if_pos hrange⟩

instance : Covers Int32 .int32 where
  covers n := admits_int32.2 ⟨n.toInt, rfl, n.le_toInt, n.toInt_lt⟩

instance : Accepts Int64 .int64 where
  accepts h := by
    obtain ⟨n, rfl, hrange⟩ := admits_int64.1 h
    exact ⟨Int64.ofInt n, if_pos hrange⟩

instance : Covers Int64 .int64 where
  covers n := admits_int64.2 ⟨n.toInt, rfl, n.le_toInt, n.toInt_lt⟩

section

variable {α : Type} {s : Schema}

instance [Decode α] [Accepts α s] {words : String} : Accepts α (.described words s) where
  accepts h := accepts (admits_described.1 h)

instance [Encode α] [Covers α s] {words : String} : Covers α (.described words s) where
  covers a := admits_described.2 (covers a)

instance [Decode α] [Accepts α s] : Accepts (List α) (.list s) where
  accepts h := by
    obtain ⟨items, rfl, hitems⟩ := admits_list.1 h
    exact .mapM fun i hi => accepts (hitems i hi)

instance [Encode α] [Covers α s] : Covers (List α) (.list s) where
  covers l := by
    refine admits_list.2 ⟨l.map encode, rfl, fun i hi => ?_⟩
    obtain ⟨a, -, rfl⟩ := List.mem_map.1 hi
    exact covers a

instance [Decode α] [Accepts α s] : Accepts (KeyMap α) (.map s) where
  accepts h := by
    obtain ⟨members, rfl, hmembers⟩ := admits_map.1 h
    have hentries : Reads (members.mapM fun m => do return (m.1, ← (decode m.2 : Decoded α))) :=
      .mapM fun m hm => (accepts (hmembers m hm)).bind fun a => .ok (m.1, a)
    exact hentries.bind fun l => ⟨KeyMap.ofList l, rfl⟩

instance [Encode α] [Covers α s] : Covers (KeyMap α) (.map s) where
  covers m := by
    refine admits_map.2 ⟨m.entries.map fun e => (e.1, encode e.2), rfl, fun e he => ?_⟩
    obtain ⟨e', -, rfl⟩ := List.mem_map.1 he
    exact covers e'.2

end

/-! ## Reading the fields of a record -/

theorem Fields.optional_unset {α : Type} [Decode α] {members : Members} {place : Nat}
    {name : String} (h : (members.lookup name).getD .null = .null) :
    (named members).optional place name = (.ok none : Decoded (Option α)) := by
  unfold optional get?
  dsimp only
  cases hlookup : members.lookup name with
  | none => rfl
  | some j =>
    rw [hlookup] at h
    cases h
    rfl

namespace Schema.Fits

variable {α : Type} [Decode α] {s : Schema} {properties : List (String × Absence × Schema)}
  {members : Members} {place : Nat} {name : String} {absence : Absence}

theorem admits (h : Fits properties members) {p : Absence × Schema} {j : Json}
    (hname : properties.lookup name = some p) (hj : members.lookup name = some j) :
    p.2.Admits j := h.allowed (name, j) (mem_of_lookup hj) p hname

variable [Accepts α s] (h : Fits properties members)
include h

theorem required (hname : properties.lookup name = some (.refused, s)) :
    Reads ((Fields.named members).required place name : Decoded α) := by
  have hpresent := h.present _ (mem_of_lookup hname) rfl
  obtain ⟨j, hj⟩ := Option.isSome_iff_exists.1 hpresent
  rw [Fields.required_of_lookup hj]
  exact accepts (h.admits hname hj)

theorem withDefault (hname : properties.lookup name = some (absence, s)) {default : α} :
    Reads ((Fields.named members).withDefault place name default : Decoded α) := by
  cases hj : members.lookup name with
  | none =>
    refine ⟨default, ?_⟩
    rw [Fields.withDefault, Fields.get?, hj]
  | some j =>
    rw [Fields.withDefault_of_lookup hj]
    exact accepts (h.admits hname hj)

theorem optional (hname : properties.lookup name = some (absence, .nullable s)) :
    Reads ((Fields.named members).optional place name : Decoded (Option α)) := by
  cases hj : members.lookup name with
  | none => exact ⟨none, Fields.optional_of_lookup_none hj⟩
  | some j =>
    by_cases hnull : j = .null
    · refine ⟨none, Fields.optional_unset ?_⟩
      rw [hj, hnull]
      rfl
    · rw [Fields.optional_of_lookup hj hnull]
      have hadmits := (admits_nullable.1 (h.admits hname hj)).resolve_left hnull
      exact (accepts hadmits).map some

theorem nullable (hname : properties.lookup name = some (absence, .nullable s)) :
    Reads ((Fields.named members).nullable place name : Decoded (Option α)) := by
  rw [Fields.nullable_eq_optional]
  exact h.optional hname

end Schema.Fits

/-- A record is read from what its schema allows, if it is read from any members that fit its
properties. -/
theorem reads_object {α : Type} [Decode α] {properties : List (String × Absence × Schema)}
    {j : Json} (h : (object properties).Admits j)
    (hread : ∀ members, Fits properties members → Reads (decode (.obj members) : Decoded α)) :
    Reads (decode j : Decoded α) := by
  obtain ⟨members, rfl, hfits⟩ := admits_object.1 h
  exact hread members hfits

/-! ## Writing the fields of a record -/

/-- Fields are written in the order of the properties, each as its property says. -/
inductive Writes : List (String × Option Json) → List (String × Absence × Schema) → Prop where
  | nil : Writes [] []
  | set {name : String} {absence : Absence} {s : Schema} {j : Json}
      {fields : List (String × Option Json)} {properties : List (String × Absence × Schema)}
      (h : s.Admits j) (hrest : Writes fields properties) :
      Writes ((name, some j) :: fields) ((name, absence, s) :: properties)
  | unset {name : String} {absence : Absence} {s : Schema}
      {fields : List (String × Option Json)} {properties : List (String × Absence × Schema)}
      (h : absence ≠ .refused) (hrest : Writes fields properties) :
      Writes ((name, none) :: fields) ((name, absence, s) :: properties)

namespace Writes

variable {α : Type} [Encode α] {s : Schema} {name : String} {absence : Absence}
  {fields : List (String × Option Json)} {properties : List (String × Absence × Schema)}

theorem field [Covers α s] {value : α} (hrest : Writes fields properties) :
    Writes (field name value :: fields) ((name, absence, s) :: properties) :=
  .set (covers value) hrest

theorem field? [Covers α s] {value : Option α} (hrest : Writes fields properties) :
    Writes (field? name value :: fields) (nullOr name s :: properties) := by
  cases value with
  | none => exact .unset nofun hrest
  | some a => exact .set (admits_nullable.2 (.inr (covers a))) hrest

theorem unlessEmpty [Covers (List α) s] {value : List α} (hrest : Writes fields properties) :
    Writes (fieldUnlessEmpty name value :: fields) (optional name s :: properties) := by
  cases value with
  | nil => exact .unset nofun hrest
  | cons a rest => exact .set (covers (a :: rest)) hrest

theorem names_eq (h : Writes fields properties) :
    fields.map Prod.fst = properties.map Prod.fst := by
  induction h with
  | nil => rfl
  | set _ _ ih | unset _ _ ih => exact congrArg _ ih

theorem mem_names_of_written (h : Writes fields properties) {m : String × Json}
    (hm : m ∈ written fields) : m.1 ∈ properties.map Prod.fst := by
  obtain ⟨f, hf, hwritten⟩ := List.mem_filterMap.1 hm
  obtain ⟨j, -, rfl⟩ := Option.map_eq_some_iff.1 hwritten
  exact h.names_eq ▸ List.mem_map_of_mem hf

/-- A property of another name says nothing of the fields after its own. -/
theorem allowed_cons (h : Writes fields properties) (hfits : Fits properties (written fields))
    (hname : name ∉ properties.map Prod.fst) : ∀ m ∈ written fields, ∀ p,
      List.lookup m.1 ((name, absence, s) :: properties) = some p → p.2.Admits m.2 := by
  intro m hm p hp
  have hne : m.1 ≠ name := ne_of_mem_of_not_mem (h.mem_names_of_written hm) hname
  rw [KeyMap.lookup_cons_eq, if_neg hne] at hp
  exact hfits.allowed m hm p hp

theorem fits (h : Writes fields properties) (hkeys : (properties.map Prod.fst).Nodup) :
    Fits properties (written fields) := by
  induction h with
  | nil => exact ⟨nofun, nofun⟩
  | @set name absence s j fields properties hj hrest ih =>
    obtain ⟨hname, hnodup⟩ := List.nodup_cons.1 hkeys
    have hfits := ih hnodup
    have hwritten : written ((name, some j) :: fields) = (name, j) :: written fields := rfl
    rw [hwritten]
    constructor
    · intro p hp hrefused
      rw [KeyMap.lookup_cons_eq]
      rcases List.mem_cons.1 hp with rfl | hp
      · rw [if_pos rfl]
        rfl
      · have hne : p.1 ≠ name := ne_of_mem_of_not_mem (List.mem_map_of_mem hp) hname
        rw [if_neg hne]
        exact hfits.present p hp hrefused
    · intro m hm p hp
      rcases List.mem_cons.1 hm with rfl | hm
      · rw [KeyMap.lookup_cons_eq, if_pos rfl] at hp
        cases hp
        exact hj
      · exact hrest.allowed_cons hfits hname m hm p hp
  | @unset name absence s fields properties habsence hrest ih =>
    obtain ⟨hname, hnodup⟩ := List.nodup_cons.1 hkeys
    have hfits := ih hnodup
    have hwritten : written ((name, none) :: fields) = written fields := rfl
    rw [hwritten]
    constructor
    · intro p hp hrefused
      rcases List.mem_cons.1 hp with rfl | hp
      · exact absurd hrefused habsence
      · exact hfits.present p hp hrefused
    · exact hrest.allowed_cons hfits hname

theorem admits (h : Writes fields properties) (hkeys : (properties.map Prod.fst).Nodup) :
    (object properties).Admits (.record fields) :=
  admits_object.2 ⟨written fields, rfl, h.fits hkeys⟩

end Writes

/-! ## Specifications -/

namespace Pool

instance : Accepts Image Image.schema where
  accepts h := reads_object (admits_described.1 h) fun _ hm =>
    Reads.after rfl <| .bind (hm.required rfl) fun _ =>
    .bind (hm.withDefault rfl) fun _ => .bind (hm.optional rfl) fun _ =>
    .bind (hm.withDefault rfl) fun _ => .ok _

instance : Covers Image Image.schema where
  covers _ := admits_described.2 <| Writes.admits
    (.field <| .field <| .field? <| .unlessEmpty .nil) (by decide)

instance : Accepts Amounts Amounts.schema where
  accepts h := reads_object (admits_described.1 h) fun _ hm =>
    Reads.after rfl <| .bind (hm.required rfl) fun _ =>
    .bind (hm.required rfl) fun _ => .ok _

instance : Covers Amounts Amounts.schema where
  covers _ := admits_described.2 <| Writes.admits (.field <| .field .nil) (by decide)

instance : Accepts WorkerResources WorkerResources.schema where
  accepts h := reads_object (admits_described.1 h) fun _ hm =>
    Reads.after rfl <| .bind (hm.required rfl) fun _ =>
    .bind (hm.required rfl) fun _ => .ok _

instance : Covers WorkerResources WorkerResources.schema where
  covers _ := admits_described.2 <| Writes.admits (.field <| .field .nil) (by decide)

instance : Accepts Storage Storage.schema where
  accepts h := reads_object (admits_described.1 h) fun _ hm =>
    Reads.after rfl <| .bind (hm.withDefault rfl) fun _ =>
    .bind (hm.optional rfl) fun _ => .bind (hm.withDefault rfl) fun _ => .ok _

instance : Covers Storage Storage.schema where
  covers _ := admits_described.2 <| Writes.admits
    (.field <| .field? <| .field .nil) (by decide)

instance : Accepts LogRotation LogRotation.schema where
  accepts h := reads_object (admits_described.1 h) fun _ hm =>
    Reads.after rfl <| .bind (hm.required rfl) fun _ =>
    .bind (hm.withDefault rfl) fun _ => .bind (hm.withDefault rfl) fun _ => .ok _

instance : Covers LogRotation LogRotation.schema where
  covers _ := admits_described.2 <| Writes.admits
    (.field <| .field <| .field .nil) (by decide)

instance : Accepts VolumeMetrics VolumeMetrics.schema where
  accepts h := reads_object (admits_described.1 h) fun _ hm =>
    Reads.after rfl <| .bind (hm.withDefault rfl) fun _ =>
    .bind (hm.withDefault rfl) fun _ => .ok _

instance : Covers VolumeMetrics VolumeMetrics.schema where
  covers _ := admits_described.2 <| Writes.admits (.field <| .field .nil) (by decide)

instance : Accepts Draining Draining.schema where
  accepts h := reads_object (admits_described.1 h) fun _ hm =>
    Reads.after rfl <| .bind (hm.withDefault rfl) fun _ =>
    .bind (hm.withDefault rfl) fun _ => .bind (hm.withDefault rfl) fun _ =>
    .bind (hm.optional rfl) fun _ => .bind (hm.optional rfl) fun _ => .ok _

instance : Covers Draining Draining.schema where
  covers _ := admits_described.2 <| Writes.admits
    (.field <| .field <| .field <| .field? <| .field? .nil) (by decide)

instance : Accepts Scaling Scaling.schema where
  accepts h := reads_object (admits_described.1 h) fun _ hm =>
    Reads.after rfl <| .bind (hm.withDefault rfl) fun _ => .ok _

instance : Covers Scaling Scaling.schema where
  covers _ := admits_described.2 <| Writes.admits (.field .nil) (by decide)

instance : Accepts PodSecurity PodSecurity.schema where
  accepts h := reads_object h fun _ hm =>
    Reads.after rfl <| .bind (hm.optional rfl) fun _ =>
    .bind (hm.optional rfl) fun _ => .bind (hm.optional rfl) fun _ =>
    .bind (hm.optional rfl) fun _ => .ok _

instance : Covers PodSecurity PodSecurity.schema where
  covers _ := Writes.admits (.field? <| .field? <| .field? <| .field? .nil) (by decide)

instance : Accepts Security Security.schema where
  accepts h := reads_object (admits_described.1 h) fun _ hm =>
    Reads.after rfl <| .bind (hm.optional rfl) fun _ =>
    .bind (hm.optional rfl) fun _ => .ok _

instance : Covers Security Security.schema where
  covers _ := admits_described.2 <| Writes.admits (.field? <| .field? .nil) (by decide)

instance : Accepts VolumeSource VolumeSource.schema where
  accepts h := reads_object (admits_described.1 h) fun _ hm =>
    Reads.after rfl <| .bind (hm.optional rfl) fun _ =>
    .bind (hm.optional rfl) fun _ => .bind (hm.optional rfl) fun _ =>
    .bind (hm.optional rfl) fun _ => .bind (hm.withDefault rfl) fun _ => .ok _

instance : Covers VolumeSource VolumeSource.schema where
  covers _ := admits_described.2 <| Writes.admits
    (.field? <| .field? <| .field? <| .field? <| .field .nil) (by decide)

instance : Accepts ExtraVolume ExtraVolume.schema where
  accepts h := reads_object (admits_described.1 h) fun _ hm =>
    Reads.after rfl <| .bind (hm.required rfl) fun _ =>
    .bind (hm.required rfl) fun _ => .bind (hm.required rfl) fun _ =>
    .bind (hm.withDefault rfl) fun _ => .bind (hm.required rfl) fun _ => .ok _

instance : Covers ExtraVolume ExtraVolume.schema where
  covers _ := admits_described.2 <| Writes.admits
    (.field <| .field <| .field <| .field <| .field .nil) (by decide)

/-! The records of placement are written as objects, of which their schema says nothing. -/

instance : Covers Manifest.Toleration .any := ⟨fun _ => admits_any.2 nofun⟩

instance : Covers Manifest.Affinity .any := ⟨fun _ => admits_any.2 nofun⟩

instance : Covers Manifest.TopologySpreadConstraint .any := ⟨fun _ => admits_any.2 nofun⟩

instance : Covers Spec Spec.schema where
  covers _ := Writes.admits
    (.field <| .field <| .field <| .field <| .field <| .field <| .field? <| .field? <| .field? <|
      .field <| .field <| .field? <| .field? <| .field? <| .field? <| .field? <| .unlessEmpty .nil)
    (by decide)

/-- The fields of a specification that say where pods are placed. -/
def placementFields : List String := ["tolerations", "affinity", "topologySpreadConstraints"]

/-- A specification that sets no placement is read from what its schema allows. -/
theorem reads_spec {j : Json} (h : Spec.schema.Admits j)
    (hunset : ∀ name ∈ placementFields, (j.get? name).getD .null = .null) :
    Reads (decode j : Decoded Spec) := by
  obtain ⟨members, rfl, hm⟩ := admits_object.1 h
  have htolerations : (members.lookup "tolerations").getD .null = .null := hunset _ (by decide)
  have haffinity : (members.lookup "affinity").getD .null = .null := hunset _ (by decide)
  have hspread : (members.lookup "topologySpreadConstraints").getD .null = .null :=
    hunset _ (by decide)
  exact .after rfl <| .bind (hm.withDefault rfl) fun _ =>
    .bind (hm.withDefault rfl) fun _ => .bind (hm.withDefault rfl) fun _ =>
    .bind (hm.withDefault rfl) fun _ => .bind (hm.withDefault rfl) fun _ =>
    .bind (hm.withDefault rfl) fun _ => .bind (hm.optional rfl) fun _ =>
    .bind (hm.optional rfl) fun _ => .bind (hm.optional rfl) fun _ =>
    .bind (hm.withDefault rfl) fun _ => .bind (hm.withDefault rfl) fun _ =>
    .bind (hm.optional rfl) fun _ =>
    .after (Fields.optional_unset htolerations) <|
    .after (Fields.optional_unset haffinity) <|
    .after (Fields.optional_unset hspread) <|
    .bind (hm.optional rfl) fun _ => .bind (hm.withDefault rfl) fun _ => .ok _

/-! ## Statuses -/

instance : Accepts StateCounts StateCounts.schema where
  accepts h := reads_object (admits_described.1 h) fun _ hm =>
    Reads.after rfl <| .bind (hm.required rfl) fun _ =>
    .bind (hm.required rfl) fun _ => .bind (hm.required rfl) fun _ =>
    .bind (hm.required rfl) fun _ => .bind (hm.required rfl) fun _ => .ok _

instance : Covers StateCounts StateCounts.schema where
  covers _ := admits_described.2 <| Writes.admits
    (.field <| .field <| .field <| .field <| .field .nil) (by decide)

instance : Accepts Condition Condition.schema where
  accepts h := reads_object (admits_described.1 h) fun _ hm =>
    Reads.after rfl <| .bind (hm.required rfl) fun _ =>
    .bind (hm.required rfl) fun _ => .bind (hm.required rfl) fun _ =>
    .bind (hm.required rfl) fun _ => .bind (hm.required rfl) fun _ =>
    .bind (hm.nullable rfl) fun _ => .ok _

instance : Covers Condition Condition.schema where
  covers _ := admits_described.2 <| Writes.admits
    (.field <| .field <| .field <| .field <| .field <| .field? .nil) (by decide)

instance : Accepts Status Status.schema where
  accepts h := reads_object (admits_described.1 h) fun _ hm =>
    Reads.after rfl <| .bind (hm.withDefault rfl) fun _ =>
    .bind (hm.optional rfl) fun _ => .bind (hm.optional rfl) fun _ =>
    .bind (hm.withDefault rfl) fun _ => .bind (hm.withDefault rfl) fun _ =>
    .bind (hm.withDefault rfl) fun _ => .ok _

instance : Covers Status Status.schema where
  covers _ := admits_described.2 <| Writes.admits
    (.field <| .field? <| .field? <| .field <| .field <| .field .nil) (by decide)

/-! ## The definition -/

/-- The schema that the definition of the pool resource has for a part of a pool. -/
def definedSchema? (part : String) : Option Json :=
  definition.pointer? ("/spec/versions/0/schema/openAPIV3Schema/properties/" ++ part)

theorem definedSchema?_spec : definedSchema? "spec" = some Spec.schema.document := by rfl

theorem definedSchema?_status :
    definedSchema? "status" = some (Schema.nullable Status.schema).document := by rfl

/-- The definition and the program agree on the documents of pools. A specification that satisfies
its schema in the definition is read, if it leaves its placement unset, and so is a status that is
an object; and whatever specification or status is written satisfies its schema. -/
theorem defined_schemas_agree_with_codec :
    ∃ spec status : Json,
      (definedSchema? "spec" = some spec ∧ definedSchema? "status" = some status) ∧
      ((∀ j : Json, spec.satisfies j = true →
          (∀ name ∈ placementFields, (j.get? name).getD .null = .null) →
          ∃ s : Spec, decode j = .ok s) ∧
        ∀ s : Spec, spec.satisfies (encode s) = true) ∧
      (∀ members : Members, status.satisfies (.obj members) = true →
          ∃ s : Status, decode (.obj members) = .ok s) ∧
        ∀ s : Status, status.satisfies (encode s) = true := by
  refine ⟨_, _, ⟨definedSchema?_spec, definedSchema?_status⟩, ⟨fun _ => reads_spec, ?_⟩,
    fun members h => ?_, fun s => ?_⟩
  · exact fun s => covers s
  · exact accepts ((admits_nullable.1 h).resolve_left nofun)
  · exact admits_nullable.2 (.inr (covers s))

/-- A specification as it may be submitted, with a member that the schema does not know. -/
def submittedSpec : Json :=
  .obj [("replicas", .int 3), ("configMap", .str "ingest-config"), ("affinity", .null),
    ("bufferStorage", .obj [("claimName", .str "spool"), ("size", .str "20Gi")]),
    ("scaling", .obj [("drain", .obj [("enabled", .bool true), ("backoffLimit", .int 1)])]),
    ("owner", .arr [.null])]

theorem submittedSpec_is_read : ∃ spec : Json, definedSchema? "spec" = some spec ∧
    spec.satisfies submittedSpec = true ∧ ∃ s : Spec, decode submittedSpec = .ok s := by
  obtain ⟨spec, -, ⟨hspec, -⟩, ⟨hread, -⟩, -⟩ := defined_schemas_agree_with_codec
  have hsatisfies : spec.satisfies submittedSpec = true := by
    cases definedSchema?_spec.symm.trans hspec
    decide +kernel
  have hunset : ∀ name ∈ placementFields, (submittedSpec.get? name).getD .null = .null := by
    simp [placementFields, submittedSpec, get?, KeyMap.lookup_cons_eq]
  exact ⟨spec, hspec, hsatisfies, hread submittedSpec hsatisfies hunset⟩

/-- A replica count that does not fit its width is not allowed. -/
example : Spec.schema.document.satisfies (.obj [("replicas", .int 2147483648)]) = false := by
  decide +kernel

end Pool

end VolumeDrain
