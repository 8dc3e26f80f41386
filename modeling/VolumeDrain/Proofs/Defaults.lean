import Mathlib.Data.List.Forall2
import VolumeDrain.Proofs.Admission

/-!
# Defaults that are filled in

Defaults are written down three times: with the readers, with the records, and in the schema, after
which a cluster fills in absent fields before anybody reads them. They are drawn on in different
ways. Where a whole record is absent its reader's default stands for it, and where it is there but
empty its fields take theirs one by one.

A `Filling` says what may become of a document when absent fields are filled in, at any depth and in
any number. It follows the records of a pool: under each of them a field that is there may itself be
filled in, and one that is absent may take either the default that the schema gives at its place or
what the record writes for the field when it is made without any settings. The document that results
is read as the same value. Placement is left as it is, since its schema gives no defaults.
-/
namespace VolumeDrain

open Json Schema

/-- What may become of a document, given the document of the schema at its place. -/
abbrev Filling := Json → Json → Json → Prop

namespace Filling

/-- The document has no fields to fill in. -/
def unchanged : Filling := fun _ j k => k = j

/-- The items of a list are filled in one by one. -/
def items (each : Filling) : Filling := fun schema j k =>
  k = j ∨ ∃ before after, j = .arr before ∧ k = .arr after ∧
    List.Forall₂ (each ((schema.get? "items").getD .null)) before after

/-- What may be put in the place of an absent field: the default of the schema, or what is written
for the field in the standard document of the record. -/
def Gives (schema : Json) (standard : Option Json) (name : String) (value : Json) : Prop :=
  schema.path? ["properties", name, "default"] = some value ∨
    standard.bind (get? name) = some value

/-- What may become of a field of a record. -/
inductive Field (schema : Json) (standard : Option Json) (name : String) (inner : Filling) :
    Option Json → Option Json → Prop where
  /-- The field stays absent. -/
  | absent : Field schema standard name inner none none
  /-- The absent field is filled in. -/
  | given {value : Json} (h : Gives schema standard name value) :
    Field schema standard name inner none (some value)
  /-- The field is there, and something may be filled in below it. -/
  | present {j k : Json} (h : inner ((schema.path? ["properties", name]).getD .null) j k) :
    Field schema standard name inner (some j) (some k)

/-- The fields of a record are filled in, by name or in their order as the record is given. Types
that have a value without any settings have its document as their standard. -/
def record (standard : Option Json) (fields : List (String × Filling)) : Filling :=
  fun schema j k =>
    k = j ∨ ∃ before after, Fields.ofJson fields.length j = .ok before ∧
      Fields.ofJson fields.length k = .ok after ∧
      ∀ f ∈ fields.zipIdx, Field schema standard f.1.1 f.1.2
        (before.get? f.2 f.1.1) (after.get? f.2 f.1.1)

theorem record_named {schema : Json} {standard : Option Json} {fields : List (String × Filling)}
    {before after : Members}
    (h : ∀ f ∈ fields.zipIdx, Field schema standard f.1.1 f.1.2
      (before.lookup f.1.1) (after.lookup f.1.1)) :
    record standard fields schema (.obj before) (.obj after) :=
  .inr ⟨.named before, .named after, rfl, rfl, h⟩

/-- A field whose own document has nothing to fill in. -/
def plain (name : String) : String × Filling := (name, unchanged)

end Filling

/-! ## The records of a specification -/

namespace Pool

open Filling (plain)

def Image.filling : Filling :=
  .record none [plain "repository", plain "tag", plain "pullPolicy", plain "imagePullSecrets"]

def Amounts.filling : Filling := .record none [plain "cpu", plain "memory"]

def WorkerResources.filling : Filling :=
  .record none [("requests", Amounts.filling), ("limits", Amounts.filling)]

def Storage.filling : Filling :=
  .record (some (encode ({} : Storage))) [plain "claimName", plain "storageClass", plain "size"]

def LogRotation.filling : Filling :=
  .record none [plain "path", plain "maxSize", plain "maxFiles"]

def VolumeMetrics.filling : Filling :=
  .record (some (encode ({} : VolumeMetrics))) [("image", Image.filling), plain "port"]

def Draining.filling : Filling :=
  .record (some (encode ({} : Draining)))
    [plain "enabled", ("image", Image.filling), ("pauseImage", Image.filling),
     plain "annotations", plain "backoffLimit"]

def Scaling.filling : Filling :=
  .record (some (encode ({} : Scaling))) [("drain", Draining.filling)]

def PodSecurity.filling : Filling :=
  .record none [plain "runAsNonRoot", plain "runAsUser", plain "runAsGroup", plain "fsGroup"]

def Security.filling : Filling :=
  .record (some (encode ({} : Security)))
    [plain "serviceAccount", ("podSecurityContext", PodSecurity.filling)]

def VolumeSource.filling : Filling :=
  .record (some (encode ({} : VolumeSource)))
    [plain "persistentVolumeClaim", plain "configMap", plain "secret", plain "hostPath",
     plain "emptyDir"]

def ExtraVolume.filling : Filling :=
  .record none
    [plain "volumeName", plain "path", plain "containerName", plain "readOnly",
     ("source", VolumeSource.filling)]

/-- What may become of the document of a specification. -/
def Spec.filling : Filling :=
  .record (some (encode ({} : Spec)))
    [plain "replicas", plain "autoscaled", ("image", Image.filling),
     ("resources", WorkerResources.filling), ("bufferStorage", Storage.filling),
     plain "disablePvc", plain "configMap", ("logRotate", LogRotation.filling),
     ("bufferVolumeMetrics", VolumeMetrics.filling), ("scaling", Scaling.filling),
     ("security", Security.filling), plain "nodeSelector", plain "tolerations",
     plain "affinity", plain "topologySpreadConstraints", plain "priorityClassName",
     ("extraVolumes", .items ExtraVolume.filling)]

end Pool

/-! ## Readings that are kept -/

/-- What the first reading gives is also given by the second. -/
def Kept {α : Type} (x y : Decoded α) : Prop := ∀ a, x = .ok a → y = .ok a

namespace Kept

variable {α β : Type} {x y : Decoded α} {f g : α → Decoded β}

theorem refl (x : Decoded α) : Kept x x := fun _ => id

theorem of_error {e : DecodeError} : Kept (.error e) y := nofun

theorem bind (hx : Kept x y) (hf : ∀ a, Kept (f a) (g a)) : Kept (x >>= f) (y >>= g) := by
  intro b hb
  obtain ⟨a, ha, hfa⟩ := bind_eq_ok.1 hb
  exact ok_bind (hx a ha) (hf a b hfa)

theorem map (hx : Kept x y) (f : α → β) : Kept (f <$> x) (f <$> y) := by
  intro b hb
  cases x with
  | error e => cases hb
  | ok a => rw [hx a rfl, ← hb]

theorem mapM {l m : List α} (h : List.Forall₂ (fun a b => Kept (f a) (f b)) l m) :
    Kept (l.mapM f) (m.mapM f) := by
  induction h with
  | nil => exact refl _
  | cons h _ ih =>
    rw [List.mapM_cons, List.mapM_cons]
    exact h.bind fun b => ih.bind fun bs => refl _

end Kept

/-! ## Schemas at a place -/

/-- The default of a property. -/
def Absence.value? : Absence → Option Json
  | .default value => some value
  | .refused | .allowed => none

namespace Schema

theorem get?_default_document : (s : Schema) → s.document.get? "default" = none
  | any | text | boolean | int32 | int64 | list _ | map _ => rfl
  | object properties => by
    rw [get?_document_object]
    rfl
  | nullable inner => by
    rw [document, get?_put_ne (by decide), get?_default_document inner]
  | described _ inner => by
    rw [document, get?_put_ne (by decide), get?_default_document inner]

theorem get?_default_propertyDocument (absence : Absence) (s : Schema) :
    (propertyDocument absence s).get? "default" = absence.value? := by
  cases absence with
  | refused | allowed => exact get?_default_document s
  | default value =>
    obtain ⟨members, h⟩ := document_isObject s
    rw [propertyDocument, h, get?_put]
    rfl

theorem lookup_propertyDocuments (properties : List (String × Absence × Schema)) (name : String) :
    (propertyDocuments properties).lookup name =
      (properties.lookup name).map fun p => propertyDocument p.1 p.2 := by
  induction properties with
  | nil => rfl
  | cons p rest ih =>
    rw [propertyDocuments_cons, KeyMap.lookup_cons_eq, KeyMap.lookup_cons_eq, ih]
    split <;> rfl

/-- A document says the same of properties and of items as that of the schema. -/
def Shows (s : Schema) (d : Json) : Prop :=
  ∀ key ∈ ["properties", "items"], d.get? key = s.document.get? key

namespace Shows

variable {s : Schema} {d : Json}

theorem document (s : Schema) : s.Shows s.document := fun _ _ => rfl

theorem of_put {name : String} {value : Json} (hname : name ∉ ["properties", "items"])
    (h : ∀ key ∈ ["properties", "items"], d.get? key = (s.document.put name value).get? key) :
    s.Shows d :=
  fun key hkey => (h key hkey).trans (get?_put_ne (ne_of_mem_of_not_mem hkey hname) _ _)

theorem described {words : String} (h : (described words s).Shows d) : s.Shows d :=
  of_put (by decide) h

theorem nullable (h : (nullable s).Shows d) : s.Shows d := of_put (by decide) h

theorem property (absence : Absence) (s : Schema) : s.Shows (propertyDocument absence s) := by
  cases absence with
  | refused | allowed => exact document s
  | default value => exact of_put (by decide) fun _ _ => rfl

theorem items (h : (list s).Shows d) : d.get? "items" = some s.document := h "items" (by decide)

variable {properties : List (String × Absence × Schema)} {name : String} {absence : Absence}

theorem path?_property (h : (object properties).Shows d)
    (hname : properties.lookup name = some (absence, s)) (rest : List String) :
    d.path? ("properties" :: name :: rest) = (propertyDocument absence s).path? rest := by
  have hproperties : d.get? "properties" = some (.obj (propertyDocuments properties)) := by
    rw [h "properties" (by decide), get?_document_object]
    rfl
  rw [path?, hproperties, Option.bind_some, path?, get?, lookup_propertyDocuments, hname]
  rfl

theorem path?_default (h : (object properties).Shows d)
    (hname : properties.lookup name = some (absence, s)) :
    d.path? ["properties", name, "default"] = absence.value? := by
  rw [h.path?_property hname, ← get?_default_propertyDocument absence s]
  simp [path?]

end Shows

end Schema

/-! ## Fields that are filled in -/

/-- What is read is kept by every filling of a place with the schema, and `null` stays apart. -/
class Keeps (α : Type) [Decode α] (F : Filling) (s : Schema) : Prop where
  keeps {d j k : Json} (hd : s.Shows d) (h : F d j k) : Kept (decode j : Decoded α) (decode k)
  null_iff {d j k : Json} (h : F d j k) : j = .null ↔ k = .null

export Keeps (keeps)

section

variable {α : Type} [Decode α] {F : Filling} {s : Schema}

instance : Keeps α .unchanged s where
  keeps _ h := h ▸ .refl _
  null_iff h := h ▸ Iff.rfl

instance [Keeps α F s] {words : String} : Keeps α F (.described words s) where
  keeps hd := keeps hd.described
  null_iff := Keeps.null_iff α s

instance [Keeps α F s] : Keeps α F (.nullable s) where
  keeps hd := keeps hd.nullable
  null_iff := Keeps.null_iff α s

instance [Keeps α F s] : Keeps (List α) (.items F) (.list s) where
  keeps hd h := by
    obtain rfl | ⟨before, after, rfl, rfl, hitems⟩ := h
    · exact .refl _
    · rw [hd.items] at hitems
      exact .mapM (hitems.imp fun _ _ h => keeps (.document s) h)
  null_iff h := by
    obtain rfl | ⟨before, after, rfl, rfl, -⟩ := h
    · exact Iff.rfl
    · exact iff_of_false nofun nofun

end

/-- Whatever value is given in the place of an absent field is read as `a`. -/
def StandsFor {α : Type} [Decode α] (given : Option Json) (a : α) : Prop :=
  ∀ value, given = some value → decode value = .ok a

namespace StandsFor

variable {α : Type} [Decode α]

theorem encoded [Encode α] [LawfulCodec α] {a : α} : StandsFor (some (encode a)) a := by
  rintro _ ⟨⟩
  exact decode_encode a

theorem nothing {a : α} : StandsFor none a := nofun

end StandsFor

/-- The fields of a record with the properties before and after they are filled in. -/
structure FilledIn (d : Json) (standard : Option Json) (fields : List (String × Filling))
    (properties : List (String × Absence × Schema)) (before after : Fields) : Prop where
  shows : (object properties).Shows d
  each : ∀ f ∈ fields.zipIdx, Filling.Field d standard f.1.1 f.1.2
    (before.get? f.2 f.1.1) (after.get? f.2 f.1.1)

namespace FilledIn

variable {d : Json} {standard : Option Json} {fields : List (String × Filling)}
  {properties : List (String × Absence × Schema)} {before after : Fields} {place : Nat}
  {name : String} {F : Filling} {absence : Absence} {s : Schema}

variable (h : FilledIn d standard fields properties before after)
include h

theorem field (hplace : fields[place]? = some (name, F)) :
    Filling.Field d standard name F (before.get? place name) (after.get? place name) :=
  h.each ((name, F), place) (List.mk_mem_zipIdx_iff_getElem?.2 hplace)

theorem gives (hname : properties.lookup name = some (absence, s)) {value : Json}
    (hvalue : Filling.Gives d standard name value) :
    absence.value? = some value ∨ standard.bind (get? name) = some value := by
  exact hvalue.imp_left (h.shows.path?_default hname).symm.trans

variable {α : Type} [Decode α] [Keeps α F s]

theorem inner (hname : properties.lookup name = some (absence, s)) {j k : Json}
    (hinner : F ((d.path? ["properties", name]).getD .null) j k) :
    Kept (decode j : Decoded α) (decode k) := by
  rw [h.shows.path?_property hname] at hinner
  exact keeps (.property absence s) hinner

theorem required (hplace : fields[place]? = some (name, F))
    (hname : properties.lookup name = some (absence, s)) :
    Kept (before.required place name : Decoded α) (after.required place name) := by
  have hfield := h.field hplace
  unfold Fields.required
  generalize before.get? place name = x, after.get? place name = y at hfield ⊢
  cases hfield with
  | absent | given => exact .of_error
  | present hinner => exact h.inner hname hinner

theorem withDefault {default : α} (hplace : fields[place]? = some (name, F))
    (hname : properties.lookup name = some (absence, s)) (hown : StandsFor absence.value? default)
    (hstandard : StandsFor (standard.bind (get? name)) default) :
    Kept (before.withDefault place name default) (after.withDefault place name default) := by
  have hfield := h.field hplace
  unfold Fields.withDefault
  generalize before.get? place name = x, after.get? place name = y at hfield ⊢
  cases hfield with
  | absent => exact .refl _
  | given hvalue =>
    rintro _ ⟨⟩
    exact (h.gives hname hvalue).elim (hown _) (hstandard _)
  | present hinner => exact h.inner hname hinner

/-- An optional field has no default of either kind. -/
theorem optional (hplace : fields[place]? = some (name, F))
    (hname : properties.lookup name = some (absence, s)) (hown : absence.value? = none)
    (hstandard : standard.bind (get? name) = none) :
    Kept (before.optional place name : Decoded (Option α)) (after.optional place name) := by
  have hfield := h.field hplace
  generalize hx : before.get? place name = x, hy : after.get? place name = y at hfield
  cases hfield with
  | absent =>
    rw [Fields.optional, Fields.optional, hx, hy]
    exact .refl _
  | given hvalue =>
    rcases h.gives hname hvalue with hgiven | hgiven
    · cases hown.symm.trans hgiven
    · cases hstandard.symm.trans hgiven
  | @present j k hinner =>
    have hnull := Keeps.null_iff α s hinner
    by_cases hj : j = .null
    · rw [Fields.optional, Fields.optional, hx, hy, hj, hnull.1 hj]
      exact .refl _
    · rw [Fields.optional_of_get? hx hj, Fields.optional_of_get? hy (mt hnull.2 hj)]
      exact (h.inner hname hinner).map some

end FilledIn

/-- A record keeps what is read, if its fields do. -/
theorem kept_record {α : Type} [Decode α] {d j k : Json} {standard : Option Json}
    {fields : List (String × Filling)} {properties : List (String × Absence × Schema)}
    {body : Fields → Decoded α} (hd : (object properties).Shows d)
    (h : Filling.record standard fields d j k)
    (hdecode : ∀ j, decode j = Fields.ofJson fields.length j >>= body)
    (hbody : ∀ before after, FilledIn d standard fields properties before after →
      Kept (body before) (body after)) :
    Kept (decode j : Decoded α) (decode k) := by
  obtain rfl | ⟨before, after, hbefore, hafter, heach⟩ := h
  · exact .refl _
  · rw [hdecode, hdecode, hbefore, hafter]
    exact hbody before after ⟨hd, heach⟩

theorem Filling.null_iff_record {standard : Option Json} {fields : List (String × Filling)}
    {d j k : Json} (h : Filling.record standard fields d j k) : j = .null ↔ k = .null := by
  obtain rfl | ⟨before, after, hbefore, hafter, -⟩ := h
  · exact Iff.rfl
  · refine iff_of_false ?_ ?_ <;> rintro rfl
    · cases hbefore
    · cases hafter

namespace Pool

instance : Keeps Image Image.filling Image.schema where
  keeps hd h := kept_record hd.described h (fun _ => rfl) fun _ _ hf =>
    .bind (hf.required rfl rfl) fun _ => .bind (hf.withDefault rfl rfl .encoded .nothing) fun _ =>
    .bind (hf.optional rfl rfl rfl rfl) fun _ =>
    .bind (hf.withDefault rfl rfl .nothing .nothing) fun _ => .refl _
  null_iff := Filling.null_iff_record

instance : Keeps Amounts Amounts.filling Amounts.schema where
  keeps hd h := kept_record hd.described h (fun _ => rfl) fun _ _ hf =>
    .bind (hf.required rfl rfl) fun _ => .bind (hf.required rfl rfl) fun _ => .refl _
  null_iff := Filling.null_iff_record

instance : Keeps WorkerResources WorkerResources.filling WorkerResources.schema where
  keeps hd h := kept_record hd.described h (fun _ => rfl) fun _ _ hf =>
    .bind (hf.required rfl rfl) fun _ => .bind (hf.required rfl rfl) fun _ => .refl _
  null_iff := Filling.null_iff_record

instance : Keeps Storage Storage.filling Storage.schema where
  keeps hd h := kept_record hd.described h (fun _ => rfl) fun _ _ hf =>
    .bind (hf.withDefault rfl rfl .encoded .encoded) fun _ =>
    .bind (hf.optional rfl rfl rfl rfl) fun _ =>
    .bind (hf.withDefault rfl rfl .encoded .encoded) fun _ => .refl _
  null_iff := Filling.null_iff_record

instance : Keeps LogRotation LogRotation.filling LogRotation.schema where
  keeps hd h := kept_record hd.described h (fun _ => rfl) fun _ _ hf =>
    .bind (hf.required rfl rfl) fun _ => .bind (hf.withDefault rfl rfl .encoded .nothing) fun _ =>
    .bind (hf.withDefault rfl rfl .encoded .nothing) fun _ => .refl _
  null_iff := Filling.null_iff_record

instance : Keeps VolumeMetrics VolumeMetrics.filling VolumeMetrics.schema where
  keeps hd h := kept_record hd.described h (fun _ => rfl) fun _ _ hf =>
    .bind (hf.withDefault rfl rfl .encoded .encoded) fun _ =>
    .bind (hf.withDefault rfl rfl .encoded .encoded) fun _ => .refl _
  null_iff := Filling.null_iff_record

instance : Keeps Draining Draining.filling Draining.schema where
  keeps hd h := kept_record hd.described h (fun _ => rfl) fun _ _ hf =>
    .bind (hf.withDefault rfl rfl .encoded .encoded) fun _ =>
    .bind (hf.withDefault rfl rfl .encoded .encoded) fun _ =>
    .bind (hf.withDefault rfl rfl .encoded .encoded) fun _ =>
    .bind (hf.optional rfl rfl rfl rfl) fun _ => .bind (hf.optional rfl rfl rfl rfl) fun _ =>
    .refl _
  null_iff := Filling.null_iff_record

instance : Keeps Scaling Scaling.filling Scaling.schema where
  keeps hd h := kept_record hd.described h (fun _ => rfl) fun _ _ hf =>
    .bind (hf.withDefault rfl rfl .encoded .encoded) fun _ => .refl _
  null_iff := Filling.null_iff_record

instance : Keeps PodSecurity PodSecurity.filling PodSecurity.schema where
  keeps hd h := kept_record hd h (fun _ => rfl) fun _ _ hf =>
    .bind (hf.optional rfl rfl rfl rfl) fun _ => .bind (hf.optional rfl rfl rfl rfl) fun _ =>
    .bind (hf.optional rfl rfl rfl rfl) fun _ => .bind (hf.optional rfl rfl rfl rfl) fun _ =>
    .refl _
  null_iff := Filling.null_iff_record

instance : Keeps Security Security.filling Security.schema where
  keeps hd h := kept_record hd.described h (fun _ => rfl) fun _ _ hf =>
    .bind (hf.optional rfl rfl rfl rfl) fun _ => .bind (hf.optional rfl rfl rfl rfl) fun _ =>
    .refl _
  null_iff := Filling.null_iff_record

instance : Keeps VolumeSource VolumeSource.filling VolumeSource.schema where
  keeps hd h := kept_record hd.described h (fun _ => rfl) fun _ _ hf =>
    .bind (hf.optional rfl rfl rfl rfl) fun _ => .bind (hf.optional rfl rfl rfl rfl) fun _ =>
    .bind (hf.optional rfl rfl rfl rfl) fun _ => .bind (hf.optional rfl rfl rfl rfl) fun _ =>
    .bind (hf.withDefault rfl rfl .encoded .encoded) fun _ => .refl _
  null_iff := Filling.null_iff_record

instance : Keeps ExtraVolume ExtraVolume.filling ExtraVolume.schema where
  keeps hd h := kept_record hd.described h (fun _ => rfl) fun _ _ hf =>
    .bind (hf.required rfl rfl) fun _ => .bind (hf.required rfl rfl) fun _ =>
    .bind (hf.required rfl rfl) fun _ => .bind (hf.withDefault rfl rfl .encoded .nothing) fun _ =>
    .bind (hf.required rfl rfl) fun _ => .refl _
  null_iff := Filling.null_iff_record

instance : Keeps Spec Spec.filling Spec.schema where
  keeps hd h := kept_record hd h (fun _ => rfl) fun _ _ hf =>
    .bind (hf.withDefault rfl rfl .encoded .encoded) fun _ =>
    .bind (hf.withDefault rfl rfl .encoded .encoded) fun _ =>
    .bind (hf.withDefault rfl rfl .encoded .encoded) fun _ =>
    .bind (hf.withDefault rfl rfl .encoded .encoded) fun _ =>
    .bind (hf.withDefault rfl rfl .encoded .encoded) fun _ =>
    .bind (hf.withDefault rfl rfl .encoded .encoded) fun _ =>
    .bind (hf.optional rfl rfl rfl rfl) fun _ => .bind (hf.optional rfl rfl rfl rfl) fun _ =>
    .bind (hf.optional rfl rfl rfl rfl) fun _ =>
    .bind (hf.withDefault rfl rfl .encoded .encoded) fun _ =>
    .bind (hf.withDefault rfl rfl .encoded .encoded) fun _ =>
    .bind (hf.optional rfl rfl rfl rfl) fun _ => .bind (hf.optional rfl rfl rfl rfl) fun _ =>
    .bind (hf.optional rfl rfl rfl rfl) fun _ => .bind (hf.optional rfl rfl rfl rfl) fun _ =>
    .bind (hf.optional rfl rfl rfl rfl) fun _ =>
    .bind (hf.withDefault rfl rfl .nothing .nothing) fun _ => .refl _
  null_iff := Filling.null_iff_record

/-- No filling of absent fields changes what is read: not with the defaults of the schema that a
cluster is given, nor with what records write that are made without any settings. -/
theorem defaults_agree {schema j k : Json} {s : Spec}
    (hschema : definedSchema? "spec" = some schema) (h : Spec.filling schema j k)
    (hread : decode j = .ok s) : decode k = .ok s := by
  cases definedSchema?_spec.symm.trans hschema
  exact keeps (.document Spec.schema) h s hread

/-- A specification that leaves out fields at several depths. -/
def sparseSpec : Json :=
  .obj [("replicas", .int 3), ("bufferVolumeMetrics", .obj []),
    ("scaling", .obj [("drain", .obj [("enabled", .bool true)])]),
    ("extraVolumes", .arr [.obj [("volumeName", .str "cache"), ("path", .str "/cache"),
      ("containerName", .str "buffer-worker"), ("source", .obj [])]])]

/-- The specification with some of them filled in. -/
def filledSpec : Json :=
  .obj [("replicas", .int 3), ("bufferVolumeMetrics", .obj [("port", .int 9200)]),
    ("scaling", .obj [("drain",
      .obj [("enabled", .bool true), ("pauseImage", encode Image.pause)])]),
    ("extraVolumes", .arr [.obj [("volumeName", .str "cache"), ("path", .str "/cache"),
      ("containerName", .str "buffer-worker"), ("source", .obj [("emptyDir", .bool false)]),
      ("readOnly", .bool false)]]),
    ("security", .obj []), ("bufferStorage", encode ({} : Storage))]

/-- Defaults of the schema and of records without settings are mixed; some fields stay absent. -/
theorem filling_sparseSpec : Spec.filling Spec.schema.document sparseSpec filledSpec := by
  have hmetrics : VolumeMetrics.filling (Schema.nullable VolumeMetrics.schema).document
      (.obj []) (.obj [("port", .int 9200)]) := by
    refine Filling.record_named ?_
    simp only [List.zipIdx_cons, List.zipIdx_nil, List.forall_mem_cons]
    exact ⟨.absent, .given (.inl rfl), nofun⟩
  have hdrain : Draining.filling (propertyDocument (.default (encode ({} : Draining)))
      Draining.schema) (.obj [("enabled", .bool true)])
      (.obj [("enabled", .bool true), ("pauseImage", encode Image.pause)]) := by
    refine Filling.record_named ?_
    simp only [List.zipIdx_cons, List.zipIdx_nil, List.forall_mem_cons]
    exact ⟨.present rfl, .absent, .given (.inr rfl), .absent, .absent, nofun⟩
  have hscaling : Scaling.filling (propertyDocument (.default (encode ({} : Scaling)))
      Scaling.schema) (.obj [("drain", .obj [("enabled", .bool true)])])
      (.obj [("drain", .obj [("enabled", .bool true), ("pauseImage", encode Image.pause)])]) := by
    refine Filling.record_named ?_
    simp only [List.zipIdx_cons, List.zipIdx_nil, List.forall_mem_cons]
    exact ⟨.present hdrain, nofun⟩
  have hsource : VolumeSource.filling VolumeSource.schema.document (.obj [])
      (.obj [("emptyDir", .bool false)]) := by
    refine Filling.record_named ?_
    simp only [List.zipIdx_cons, List.zipIdx_nil, List.forall_mem_cons]
    exact ⟨.absent, .absent, .absent, .absent, .given (.inr rfl), nofun⟩
  have hvolume : ExtraVolume.filling ExtraVolume.schema.document
      (.obj [("volumeName", .str "cache"), ("path", .str "/cache"),
        ("containerName", .str "buffer-worker"), ("source", .obj [])])
      (.obj [("volumeName", .str "cache"), ("path", .str "/cache"),
        ("containerName", .str "buffer-worker"), ("source", .obj [("emptyDir", .bool false)]),
        ("readOnly", .bool false)]) := by
    refine Filling.record_named ?_
    simp only [List.zipIdx_cons, List.zipIdx_nil, List.forall_mem_cons]
    exact ⟨.present rfl, .present rfl, .present rfl, .given (.inl rfl), .present hsource, nofun⟩
  have hspec : (object _).Shows Spec.schema.document := Shows.document Spec.schema
  have hsecurity : Spec.schema.document.path? ["properties", "security", "default"] =
      some (.obj []) :=
    hspec.path?_default (show _ = some (Absence.default (encode ({} : Security)), _) from rfl)
  refine Filling.record_named ?_
  simp only [List.zipIdx_cons, List.zipIdx_nil, List.forall_mem_cons]
  exact ⟨.present rfl, .absent, .absent, .absent, .given (.inr rfl), .absent, .absent, .absent,
    .present hmetrics, .present hscaling, .given (.inl hsecurity), .absent, .absent, .absent,
    .absent, .absent, .present (.inr ⟨_, _, rfl, rfl, .cons hvolume .nil⟩), nofun⟩

theorem defaults_agree_sparseSpec : definedSchema? "spec" = some Spec.schema.document ∧
    Spec.filling Spec.schema.document sparseSpec filledSpec ∧
    ∃ s : Spec, decode sparseSpec = .ok s ∧ decode filledSpec = .ok s :=
  ⟨definedSchema?_spec, filling_sparseSpec, _, rfl,
    defaults_agree definedSchema?_spec filling_sparseSpec rfl⟩

end Pool

end VolumeDrain
