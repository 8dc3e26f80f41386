import VolumeDrain.Api.Cluster
import VolumeDrain.Proofs.Interference
import VolumeDrain.Proofs.Records

/-!
# Documents of a volume

The patch that marks a volume changes one of its labels and names its version; the server then
stamps what comes of it. What is kept is read as the same volume with that label changed: of the
document's other members, of the metadata's other members and of the other labels each is as before,
and labels are there afterwards even where there were none.

The labels of a document are taken to have each a name of its own, as they have in every document
that was parsed: of two labels of one name a reader takes the last and a patch the first.
-/
namespace VolumeDrain

namespace KeyMap

/-- Of entries with keys of their own each is found. -/
theorem get?_ofList {α : Type} {l : List (String × α)} (h : (l.map Prod.fst).Nodup) (key : String) :
    (ofList l).get? key = l.lookup key := by
  have hfold : ∀ (l : List (String × α)) (m : KeyMap α), (l.map Prod.fst).Nodup →
      (l.foldl (fun m e => m.insert e.1 e.2) m).get? key = (l.lookup key).or (m.get? key) := by
    intro l
    induction l with
    | nil => exact fun m _ => (Option.none_or).symm
    | cons e rest ih =>
      intro m hl
      obtain ⟨hfirst, hrest⟩ := List.nodup_cons.1 hl
      rw [List.foldl_cons, ih _ hrest, get?_insert, lookup_cons_eq]
      by_cases hkey : key = e.1
      · rw [if_pos hkey, if_pos hkey, Json.lookup_eq_none (hkey ▸ hfirst)]
        rfl
      · rw [if_neg hkey, if_neg hkey]
  rw [ofList, hfold l empty h, get?_empty, Option.or_none]

end KeyMap

namespace Json

/-! ## Members under names of their own -/

theorem mem_of_mem_putMember {name : String} {value : Json} {members : Members} {m : String × Json}
    (h : m ∈ putMember name value members) : m = (name, value) ∨ m ∈ members := by
  induction members with
  | nil => exact .inl (List.mem_singleton.1 h)
  | cons first rest ih =>
    rw [putMember] at h
    split at h
    · exact (List.mem_cons.1 h).imp_right (List.mem_cons_of_mem first)
    · rcases List.mem_cons.1 h with rfl | h
      · exact .inr List.mem_cons_self
      · exact (ih h).imp_right (List.mem_cons_of_mem first)

theorem nodup_putMember {members : Members} (h : (members.map Prod.fst).Nodup) (name : String)
    (value : Json) : ((putMember name value members).map Prod.fst).Nodup := by
  induction members with
  | nil => simp [putMember]
  | cons first rest ih =>
    obtain ⟨hfirst, hrest⟩ := List.nodup_cons.1 h
    rw [putMember]
    split
    · rename_i hname
      exact List.nodup_cons.2 ⟨hname ▸ hfirst, hrest⟩
    · rename_i hname
      refine List.nodup_cons.2 ⟨fun hmem => ?_, ih hrest⟩
      obtain ⟨m, hm, hfst⟩ := List.mem_map.1 hmem
      rcases mem_of_mem_putMember hm with rfl | hm
      · exact hname hfst.symm
      · exact hfirst (hfst ▸ List.mem_map_of_mem hm)

theorem nodup_dropMember {members : Members} (h : (members.map Prod.fst).Nodup) (name : String) :
    ((dropMember name members).map Prod.fst).Nodup :=
  h.sublist (List.filter_sublist.map Prod.fst)

theorem path?_pair (j : Json) (name other : String) :
    j.path? [name, other] = ((j.get? name).getD null).get? other := by
  change (j.get? name).bind (fun k => (k.get? other).bind some) = _
  cases j.get? name with
  | none => rfl
  | some k =>
    change (k.get? other).bind some = k.get? other
    rw [Option.bind_fun_some]

theorem path?_of_get? {j k : Json} {name : String} (h : j.get? name = some k)
    (rest : List String) : j.path? (name :: rest) = k.path? rest := by
  change (j.get? name).bind (path? rest) = _
  rw [h]
  rfl

end Json

namespace Manifest

open Json Operator

/-! ## Labels -/

/-- The members are labels: texts, each under a name of its own. -/
structure AreLabels (members : Members) : Prop where
  distinct : (members.map Prod.fst).Nodup
  texts : ∀ m ∈ members, ∃ text, m.2 = .str text

variable {members : Members} {labels : Labels}

/-- Labels are read, each under its name. -/
theorem AreLabels.decode (h : AreLabels members) :
    ∃ labels : Labels, decode (.obj members) = (.ok labels : Decoded Labels) ∧
      ∀ name, labels.get? name = (members.lookup name).bind text? := by
  obtain ⟨entries, rfl⟩ : ∃ entries : List (String × String),
      members = entries.map fun e => (e.1, encode e.2) := by
    refine ⟨members.map fun m => (m.1, m.2.text?.getD ""), ?_⟩
    rw [List.map_map]
    refine (List.map_id members).symm.trans (List.map_congr_left fun m hm => ?_)
    obtain ⟨text, htext⟩ := h.texts m hm
    have hsame : m.2 = .str (m.2.text?.getD "") := by
      rw [htext]
      rfl
    exact Prod.ext rfl hsame
  have hdistinct : (entries.map Prod.fst).Nodup := by
    have hnames := h.distinct
    rwa [List.map_map] at hnames
  refine ⟨.ofList entries, ok_bind (mapM_decode_entries entries) rfl, fun name => ?_⟩
  rw [KeyMap.get?_ofList hdistinct]
  clear h hdistinct
  induction entries with
  | nil => rfl
  | cons e rest ih =>
    rw [List.map_cons, KeyMap.lookup_cons_eq, KeyMap.lookup_cons_eq]
    split
    · rfl
    · exact ih

/-- What is read as labels is an object of texts. -/
theorem texts_of_decode {j : Json} (h : decode j = (.ok labels : Decoded Labels)) :
    ∃ members, j = .obj members ∧ ∀ m ∈ members, ∃ text, m.2 = .str text := by
  cases j with
  | obj members =>
    obtain ⟨entries, hentries, -⟩ := bind_eq_ok.1 h
    refine ⟨members, rfl, ?_⟩
    clear h
    induction members generalizing entries with
    | nil => exact nofun
    | cons m rest ih =>
      rw [List.mapM_cons] at hentries
      obtain ⟨first, hfirst, hentries⟩ := bind_eq_ok.1 hentries
      obtain ⟨others, hothers, -⟩ := bind_eq_ok.1 hentries
      obtain ⟨text, htext, -⟩ := bind_eq_ok.1 hfirst
      refine List.forall_mem_cons.2 ⟨?_, ih others hothers⟩
      obtain ⟨name, value⟩ := m
      cases value with
      | str found => exact ⟨found, rfl⟩
      | null | bool | int | decimal | arr | obj => cases htext
  | null | bool | int | decimal | str | arr => cases h

theorem AreLabels.put (h : AreLabels members) (name text : String) :
    AreLabels (putMember name (.str text) members) where
  distinct := nodup_putMember h.distinct name _
  texts m hm := by
    rcases mem_of_mem_putMember hm with rfl | hm
    · exact ⟨text, rfl⟩
    · exact h.texts m hm

theorem AreLabels.drop (h : AreLabels members) (name : String) :
    AreLabels (dropMember name members) where
  distinct := nodup_dropMember h.distinct name
  texts m hm := h.texts m (List.mem_filter.1 hm).1

/-- The members of the labels in metadata. -/
def labelsIn (fields : Members) : Members := ((fields.lookup "labels").getD .null).membersOf

/-- The labels of metadata that was read, with names of their own, each under its name. -/
theorem get?_of_member? {fields : Members} {found : Option Labels}
    (h : Json.member? fields "labels" = .ok found)
    (hdistinct : ((labelsIn fields).map Prod.fst).Nodup) :
    AreLabels (labelsIn fields) ∧
      ∀ name, (found.getD ∅).get? name = ((labelsIn fields).lookup name).bind text? := by
  rw [labelsIn] at hdistinct ⊢
  rcases member?_eq_ok h with ⟨rfl, hnull⟩ | ⟨j, labels, hj, hlabels, rfl⟩
  · have hnone : (fields.lookup "labels").getD .null = .null := by
      cases hlookup : fields.lookup "labels" with
      | none => rfl
      | some j => exact hnull j hlookup
    rw [hnone]
    exact ⟨⟨List.nodup_nil, nofun⟩, fun _ => rfl⟩
  · obtain ⟨members, rfl, htexts⟩ := texts_of_decode hlabels
    rw [hj] at hdistinct ⊢
    have hare : AreLabels members := ⟨hdistinct, htexts⟩
    obtain ⟨read, hread, hget⟩ := hare.decode
    cases hread.symm.trans hlabels
    exact ⟨hare, hget⟩

/-! ## Reading by agreement -/

section

variable {members' : Members} {name : String}

theorem member?_congr {α : Type} [Decode α] (h : members'.lookup name = members.lookup name) :
    Json.member? members' name = (Json.member? members name : Decoded (Option α)) := by
  rw [Json.member?, Json.member?, h]

theorem readFields_congr {fields : List Shape.Field}
    (h : ∀ f ∈ fields, members'.lookup f.1 = members.lookup f.1) :
    Shape.readFields fields members' = Shape.readFields fields members := by
  induction fields with
  | nil => rw [Shape.readFields, Shape.readFields]
  | cons f rest ih =>
    obtain ⟨hfirst, hrest⟩ := List.forall_mem_cons.1 h
    obtain ⟨name, required, shape⟩ := f
    rw [Shape.readFields, Shape.readFields, ih hrest, hfirst]

/-- The members of an object that the metadata's other fields are read from. -/
theorem readOthers_congr {fields : List Shape.Field} {names : List String}
    (h : ∀ name, name ∉ names → members'.lookup name = members.lookup name) :
    Shape.readOthers fields names members' = Shape.readOthers fields names members :=
  readFields_congr fun f hf => h f.1 (by simpa using (List.mem_filter.1 hf).2)

theorem membersOf_congr {k : Kind}
    (hversion : members'.lookup "apiVersion" = members.lookup "apiVersion")
    (hkind : members'.lookup "kind" = members.lookup "kind")
    (h : k.membersOf (.obj members) = .ok members) :
    k.membersOf (.obj members') = .ok members' := by
  unfold Kind.membersOf at h ⊢
  obtain ⟨_, hmembers, h⟩ := bind_eq_ok.1 h
  cases hmembers
  obtain ⟨_, hfirst, h⟩ := bind_eq_ok.1 h
  obtain ⟨_, hsecond, -⟩ := bind_eq_ok.1 h
  refine ok_bind (a := members') rfl (ok_bind (a := ()) ?_ (ok_bind (a := ()) ?_ rfl))
  · dsimp only
    rw [hversion]
    exact hfirst
  · dsimp only
    rw [hkind]
    exact hsecond

/-- Metadata is read field by field. -/
theorem decode_objectMeta_eq_ok_iff {m : ObjectMeta} :
    decode (.obj members) = (.ok m : Decoded ObjectMeta) ↔
      Json.member? members "name" = .ok m.name ∧
      Json.member? members "generateName" = .ok m.generateName ∧
      Json.member? members "namespace" = .ok m.namespaceName ∧
      Json.member? members "uid" = .ok m.uid ∧
      Json.member? members "labels" = .ok m.labels ∧
      Json.member? members "annotations" = .ok m.annotations ∧
      Json.member? members "ownerReferences" = .ok m.ownerReferences ∧
      Json.member? members "resourceVersion" = .ok m.resourceVersion ∧
      Json.member? members "generation" = .ok m.generation ∧
      instant? members "deletionTimestamp" = .ok m.deletionTimestamp ∧
      Shape.readOthers Catalog.objectMeta.fields ObjectMeta.readFieldNames members =
        .ok m.rest := by
  have hfields : decode (.obj members) = (do
      return {
        name := ← Json.member? members "name"
        generateName := ← Json.member? members "generateName"
        namespaceName := ← Json.member? members "namespace"
        uid := ← Json.member? members "uid"
        labels := ← Json.member? members "labels"
        annotations := ← Json.member? members "annotations"
        ownerReferences := ← Json.member? members "ownerReferences"
        resourceVersion := ← Json.member? members "resourceVersion"
        generation := ← Json.member? members "generation"
        deletionTimestamp := ← instant? members "deletionTimestamp"
        rest := ← Shape.readOthers Catalog.objectMeta.fields ObjectMeta.readFieldNames members } :
        Decoded ObjectMeta) := rfl
  rw [hfields]
  constructor
  · simp only [bind_eq_ok]
    rintro ⟨_, hname, _, hstem, _, hnamespace, _, huid, _, hlabels, _, hannotations, _, howners, _,
      hversion, _, hgeneration, _, hdeletion, _, hrest, hm⟩
    cases hm
    exact ⟨hname, hstem, hnamespace, huid, hlabels, hannotations, howners, hversion, hgeneration,
      hdeletion, hrest⟩
  · rintro ⟨hname, hstem, hnamespace, huid, hlabels, hannotations, howners, hversion, hgeneration,
      hdeletion, hrest⟩
    rw [hname, hstem, hnamespace, huid, hlabels, hannotations, howners, hversion, hgeneration,
      hdeletion, hrest]
    rfl

/-- Metadata with other labels and another version, and otherwise the same, is read as such. -/
theorem decode_objectMeta_of_agree {m : ObjectMeta} {labels : Option Labels}
    {version : Option String}
    (h : decode (.obj members) = (.ok m : Decoded ObjectMeta))
    (hsame : ∀ name, name ≠ "labels" → name ≠ "resourceVersion" →
      members'.lookup name = members.lookup name)
    (hlabels : Json.member? members' "labels" = .ok labels)
    (hversion : Json.member? members' "resourceVersion" = .ok version) :
    decode (.obj members') =
      (.ok { m with labels, resourceVersion := version } : Decoded ObjectMeta) := by
  obtain ⟨hname, hstem, hnamespace, huid, -, hannotations, howners, -, hgeneration, hdeletion,
    hrest⟩ := decode_objectMeta_eq_ok_iff.1 h
  have hmember : ∀ {α : Type} [Decode α] (name : String), name ≠ "labels" →
      name ≠ "resourceVersion" →
      Json.member? members' name = (Json.member? members name : Decoded (Option α)) :=
    fun name hlabels hversion => member?_congr (hsame name hlabels hversion)
  have htime : instant? members' "deletionTimestamp" = instant? members "deletionTimestamp" := by
    rw [instant?, instant?, hmember _ (by decide) (by decide)]
  have hothers : ∀ name, name ∉ ObjectMeta.readFieldNames →
      members'.lookup name = members.lookup name := by
    intro name hnot
    refine hsame name (fun heq => hnot ?_) fun heq => hnot ?_
    · rw [heq]
      decide
    · rw [heq]
      decide
  refine decode_objectMeta_eq_ok_iff.2 ⟨?_, ?_, ?_, ?_, hlabels, ?_, ?_, hversion, ?_,
    htime.trans hdeletion, (readOthers_congr hothers).trans hrest⟩
  · exact (hmember _ (by decide) (by decide)).trans hname
  · exact (hmember _ (by decide) (by decide)).trans hstem
  · exact (hmember _ (by decide) (by decide)).trans hnamespace
  · exact (hmember _ (by decide) (by decide)).trans huid
  · exact (hmember _ (by decide) (by decide)).trans hannotations
  · exact (hmember _ (by decide) (by decide)).trans howners
  · exact (hmember _ (by decide) (by decide)).trans hgeneration

/-! ## Claims -/

variable {volume : Claim} {v : String}

/-- A claim is read from its metadata, its specification and its status. -/
theorem decode_claim_eq_ok_iff :
    decode (.obj members) = (.ok volume : Decoded Claim) ↔
      claimKind.membersOf (.obj members) = .ok members ∧
      Json.memberOr members "metadata" {} = .ok volume.metadata ∧
      Json.member? members "spec" = .ok volume.spec ∧
      ∃ status, Json.member? members "status" = (.ok status : Decoded (Option Json)) ∧
        status.mapM Catalog.claimStatus.read = .ok volume.status := by
  have hfields : decode (.obj members) = (do
      let m ← claimKind.membersOf (.obj members)
      return {
        metadata := ← Json.memberOr m "metadata" {}
        spec := ← Json.member? m "spec"
        status := ← (← Json.member? m "status").mapM Catalog.claimStatus.read } :
        Decoded Claim) := rfl
  rw [hfields]
  constructor
  · simp only [bind_eq_ok]
    rintro ⟨found, hmembers, _, hmetadata, _, hspec, status, hstatus, _, hread, hvolume⟩
    cases membersOf_eq_ok hmembers
    cases hvolume
    exact ⟨hmembers, hmetadata, hspec, status, hstatus, hread⟩
  · rintro ⟨hmembers, hmetadata, hspec, status, hstatus, hread⟩
    exact ok_bind hmembers (ok_bind hmetadata (ok_bind hspec (ok_bind hstatus (ok_bind hread rfl))))

/-- A claim that names a version has metadata, which is an object. -/
theorem metadata_of_decode {j : Json} (h : decode j = (.ok volume : Decoded Claim))
    (hv : volume.metadata.resourceVersion = some v) :
    ∃ members fields, j = .obj members ∧ members.lookup "metadata" = some (.obj fields) ∧
      decode (.obj fields) = (.ok volume.metadata : Decoded ObjectMeta) := by
  obtain ⟨members, hmembers, -⟩ := bind_eq_ok.1 h
  cases membersOf_eq_ok hmembers
  obtain ⟨-, hmetadata, -⟩ := decode_claim_eq_ok_iff.1 h
  obtain ⟨found, hfound, heq⟩ := memberOr_eq_ok hmetadata
  rcases member?_eq_ok hfound with ⟨rfl, -⟩ | ⟨k, m, hk, hm, rfl⟩
  · rw [heq] at hv
    cases hv
  · obtain ⟨fields, hfields, -⟩ := bind_eq_ok.1 hm
    cases objectMembers_eq_ok hfields
    rw [Option.getD_some] at heq
    exact ⟨members, fields, rfl, hk, heq ▸ hm⟩

/-- A claim with other metadata, and otherwise the same, is read as such. -/
theorem decode_claim_of_agree {fields : Members} {m : ObjectMeta}
    (h : decode (.obj members) = (.ok volume : Decoded Claim))
    (hsame : ∀ name, name ≠ "metadata" → members'.lookup name = members.lookup name)
    (hmetadata : members'.lookup "metadata" = some (.obj fields))
    (hm : decode (.obj fields) = (.ok m : Decoded ObjectMeta)) :
    decode (.obj members') = (.ok { volume with metadata := m } : Decoded Claim) := by
  obtain ⟨hmembers, -, hspec, status, hstatus, hread⟩ := decode_claim_eq_ok_iff.1 h
  have hfound : Json.memberOr members' "metadata" {} = (.ok m : Decoded ObjectMeta) := by
    rw [Json.memberOr, Json.member?, hmetadata]
    dsimp only
    rw [hm]
    rfl
  refine decode_claim_eq_ok_iff.2 ⟨?_, hfound, ?_, status, ?_, hread⟩
  · exact membersOf_congr (hsame _ (by decide)) (hsame _ (by decide)) hmembers
  · exact (member?_congr (hsame _ (by decide))).trans hspec
  · exact (member?_congr (hsame _ (by decide))).trans hstatus

end

end Manifest

namespace Api

open Drain Json Manifest Operator

/-! ## Marking -/

/-- What a patch sets the label of a volume to; `null` takes it off. -/
def markValue (status : DrainMark) : Json := .ofOption (status.labelValue?.map .str)

/-- The members of a document's labels. -/
def labelMembers (j : Json) : Members := ((j.path? ["metadata", "labels"]).getD .null).membersOf

/-- What the patch of a volume of a version says of its metadata. -/
def markChanges (status : DrainMark) (v : String) : Members :=
  [("resourceVersion", .str v), ("labels", .obj [(statusLabel, markValue status)])]

/-- What is kept of metadata that was marked and stamped. -/
def markedFields (status : DrainMark) (v version : String) (fields : Members) : Members :=
  putMember "resourceVersion" (.str version) (mergeMembers (markChanges status v) fields)

/-- A document of a volume is another one with the mark set under a new version, and nothing else is
changed. -/
structure Marked (status : DrainMark) (version : String) (j j' : Json) : Prop where
  mark : j'.path? ["metadata", "labels", statusLabel] = status.labelValue?.map .str
  labels : ∀ name, name ≠ statusLabel →
    j'.path? ["metadata", "labels", name] = j.path? ["metadata", "labels", name]
  metadata : ∀ name, name ≠ "labels" → name ≠ "resourceVersion" →
    j'.path? ["metadata", name] = j.path? ["metadata", name]
  members : ∀ name, name ≠ "metadata" → j'.get? name = j.get? name
  version : Server.versionOf j' = some version

section

variable {status : DrainMark} {volume : Claim} {v version : String} {members fields : Members}
  {j : Json} {s : Server}

theorem markPatch_eq (status : DrainMark) (hv : volume.metadata.resourceVersion = some v) :
    markPatch volume status = .obj [("metadata", .obj (markChanges status v))] := by
  rw [markPatch, hv]
  rfl

theorem versionOf_markPatch (status : DrainMark) (hv : volume.metadata.resourceVersion = some v) :
    Server.versionOf (markPatch volume status) = some v := by
  rw [markPatch_eq status hv]
  rfl

/-! ### The members of what is kept -/

theorem changeMember_drained (members : Members) :
    changeMember statusLabel (markValue .drained) members =
      putMember statusLabel (.str drainedText) members := by
  have hvalue : markValue .drained = .str drainedText := rfl
  rw [hvalue, changeMember, (replaces_str drainedText).2]
  rintro ⟨⟩

theorem lookup_mark (status : DrainMark) (members : Members) (name : String) :
    (changeMember statusLabel (markValue status) members).lookup name =
      if name = statusLabel then status.labelValue?.map .str else members.lookup name := by
  cases status with
  | drained =>
    rw [changeMember_drained, lookup_putMember]
    rfl
  | unmarked => exact lookup_dropMember statusLabel name members

theorem areLabels_mark (h : AreLabels members) (status : DrainMark) :
    AreLabels (changeMember statusLabel (markValue status) members) := by
  cases status with
  | drained =>
    rw [changeMember_drained]
    exact h.put statusLabel drainedText
  | unmarked => exact h.drop statusLabel

theorem lookup_markedFields_version :
    (markedFields status v version fields).lookup "resourceVersion" = some (.str version) := by
  rw [markedFields, lookup_putMember, if_pos rfl]

theorem lookup_markedFields_labels :
    (markedFields status v version fields).lookup "labels" =
      some (.obj (changeMember statusLabel (markValue status) (labelsIn fields))) := by
  rw [markedFields, lookup_putMember, if_neg (by decide),
    lookup_mergeMembers (by simp [markChanges])]
  change some (mergePatch (.obj _) _) = _
  rw [mergePatch, mergeMembers_cons, mergeMembers, labelsIn]

theorem lookup_markedFields_ne {name : String} (hlabels : name ≠ "labels")
    (hversion : name ≠ "resourceVersion") :
    (markedFields status v version fields).lookup name = fields.lookup name := by
  have hnone : (markChanges status v).lookup name = none :=
    lookup_eq_none (by simp [markChanges, hlabels, hversion])
  rw [markedFields, lookup_putMember, if_neg hversion, lookup_mergeMembers (by simp [markChanges]),
    hnone]

/-- What a server keeps of a volume that was marked. -/
theorem stamped_markPatch (s : Server) (status : DrainMark)
    (hv : volume.metadata.resourceVersion = some v)
    (hmetadata : members.lookup "metadata" = some (.obj fields)) :
    ∃ members', stamped s ((markPatch volume status).mergePatch (.obj members)) = .obj members' ∧
      members'.lookup "metadata" =
        some (.obj (markedFields status v (toString (s.version + 1)) fields)) ∧
      ∀ name, name ≠ "metadata" → members'.lookup name = members.lookup name := by
  have hpatched : (markPatch volume status).mergePatch (.obj members) =
      .obj (putMember "metadata" (.obj (mergeMembers (markChanges status v) fields)) members) := by
    rw [markPatch_eq status hv, mergePatch, mergeMembers_cons, mergeMembers, membersOf,
      changeMember, hmetadata, Option.getD_some, mergePatch, membersOf]
    rintro ⟨⟩
  refine ⟨putMember "metadata" (.obj (markedFields status v (toString (s.version + 1)) fields))
    (putMember "metadata" (.obj (mergeMembers (markChanges status v) fields)) members), ?_, ?_,
    fun name hname => ?_⟩
  · rw [hpatched, stamped, Server.withMeta, get?, lookup_putMember, if_pos rfl]
    rfl
  · rw [lookup_putMember, if_pos rfl]
  · rw [lookup_putMember, if_neg hname, lookup_putMember, if_neg hname]

/-! ### What is kept is the volume with its mark -/

variable (hread : decode j = (.ok volume : Decoded Claim))
  (hv : volume.metadata.resourceVersion = some v)
include hread hv

theorem marked_markPatch (s : Server) (status : DrainMark) :
    Marked status (toString (s.version + 1)) j
      (stamped s ((markPatch volume status).mergePatch j)) := by
  obtain ⟨members, fields, rfl, hmetadata, -⟩ := metadata_of_decode hread hv
  obtain ⟨members', hstamped, hfound, hothers⟩ := stamped_markPatch s status hv hmetadata
  have hafter := path?_of_get? (j := .obj members') hfound
  have hbefore := path?_of_get? (j := .obj members) hmetadata
  have hlabels (name : String) : (Json.obj members').path? ["metadata", "labels", name] =
      if name = statusLabel then status.labelValue?.map .str
      else (Json.obj members).path? ["metadata", "labels", name] := by
    rw [hafter, hbefore, path?_pair, path?_pair, get?, lookup_markedFields_labels, Option.getD_some,
      get?, lookup_mark, get?_eq_lookup]
    rfl
  rw [hstamped]
  refine ⟨?_, fun name hname => ?_, fun name hlabel hversion => ?_, hothers, ?_⟩
  · rw [hlabels, if_pos rfl]
  · rw [hlabels, if_neg hname]
  · rw [hafter, hbefore]
    exact congrArg (Option.bind · some) (lookup_markedFields_ne hlabel hversion)
  · rw [Server.versionOf, textAt?, hafter]
    change (((markedFields status v _ fields).lookup "resourceVersion").bind some).bind text? = _
    rw [lookup_markedFields_version]
    rfl

/-- The kept document is read as the volume that was read before, with the mark. -/
theorem decode_marked (hdistinct : ((labelMembers j).map Prod.fst).Nodup) (s : Server)
    (status : DrainMark) : ∃ stored : Claim,
      decode (stamped s ((markPatch volume status).mergePatch j)) =
        (.ok stored : Decoded Claim) ∧
      stored = { volume with
        metadata := { volume.metadata with
          labels := stored.metadata.labels
          resourceVersion := some (toString (s.version + 1)) } } ∧
      ∀ name, stored.metadata.labelMap.get? name =
        if name = statusLabel then status.labelValue?
        else volume.metadata.labelMap.get? name := by
  obtain ⟨members, fields, rfl, hmetadata, hfields⟩ := metadata_of_decode hread hv
  obtain ⟨members', hstamped, hfound, hothers⟩ := stamped_markPatch s status hv hmetadata
  have hbefore : (Json.obj members).path? ["metadata", "labels"] = fields.lookup "labels" :=
    (path?_of_get? (j := .obj members) hmetadata _).trans (Option.bind_fun_some _)
  rw [labelMembers, hbefore] at hdistinct
  obtain ⟨-, -, -, -, hlabels, -⟩ := decode_objectMeta_eq_ok_iff.1 hfields
  obtain ⟨hold, hget⟩ := get?_of_member? hlabels hdistinct
  obtain ⟨labels, hdecode, hmarked⟩ := (areLabels_mark hold status).decode
  refine ⟨{ volume with
    metadata := { volume.metadata with
      labels := some labels
      resourceVersion := some (toString (s.version + 1)) } }, ?_, rfl, fun name => ?_⟩
  · rw [hstamped]
    refine decode_claim_of_agree hread hothers hfound (decode_objectMeta_of_agree hfields
      (fun name => lookup_markedFields_ne) ?_ ?_)
    · rw [Json.member?, lookup_markedFields_labels]
      exact congrArg (some <$> ·) hdecode
    · rw [Json.member?, lookup_markedFields_version]
      rfl
  · rw [ObjectMeta.labelMap, Option.getD_some, hmarked, lookup_mark, ObjectMeta.labelMap, hget]
    split
    · cases status <;> rfl
    · rfl

end

end Api

end VolumeDrain
