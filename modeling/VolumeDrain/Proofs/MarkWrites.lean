import VolumeDrain.Proofs.ClaimDocuments

/-!
# Marks are written over what was read

A volume is marked by a patch that names the version of the volume that was read. Whatever happens
to the volume between the reading and the patch, one of three things comes of the call. The volume
was left alone: the call returns, and the mark is all that has changed beside the version. Something
else is stored in its place: the call fails, the failure is a conflict, and nothing has changed. The
volume is gone: the call returns, and nothing has changed. So a change that somebody else has made
since is never written over, and of the patches that are made of one reading one is carried out at
most. Calls that return may be more than one, as each call does that finds the volume gone.

How a call ends is said for a server that answers the request. A request that a fault of the server
strikes changes nothing, whatever the call makes of the fault.
-/
namespace VolumeDrain.Api

open Drain Json Manifest Operator

/-- The key of a volume, as the volume itself tells. -/
def volumeKey (volume : Claim) : ObjectKey :=
  ⟨claimKind.plural, volume.metadata.namespaceName.getD "default", nameOf volume⟩

/-- The request that marks a volume. -/
def markRequest (volume : Claim) (status : DrainMark) : Request :=
  .merge (placeOf Claim (some (volume.metadata.namespaceName.getD "default"))) (nameOf volume) false
    (markPatch volume status)

/-- What comes of marking a volume, by the answer to the request. -/
def resultOfMark (answer : Except ClientError Json) : Except OperatorError Unit :=
  match (resultOfRead answer : Except ClientError Claim) with
  | .ok _ => .ok ()
  | .error e => if e.isMissing then .ok () else .error (.client e)

/-- The call that marks a volume, with a server that answers it. -/
def mark (volume : Claim) (status : DrainMark) (s : Server) : Except OperatorError Unit × Server :=
  Script.run Server.answer (carryOut (.mark volume status)) s

/-- A volume was read from a server, where its document is stored under its own key, with a version
that is none of those still to be given and with labels under names of their own. -/
structure ReadFrom (s : Server) (j : Json) (v : String) (volume : Claim) : Prop where
  stored : s.get? (volumeKey volume) = some j
  read : decode j = (.ok volume : Decoded Claim)
  named : nameOf volume ≠ ""
  version : volume.metadata.resourceVersion = some v
  fresh : ∀ n, s.version < n → v ≠ toString n
  distinct : ((labelMembers j).map Prod.fst).Nodup

/-- A server has set the mark of a volume: it keeps another document of it, which is read as the
same volume with this mark, and every other object is as it was. -/
structure Sets (volume : Claim) (status : DrainMark) (j : Json) (s s' : Server) (j' : Json)
    (stored : Claim) : Prop where
  kept : s'.get? (volumeKey volume) = some j'
  document : Marked status (toString (s.version + 1)) j j'
  read : decode j' = (.ok stored : Decoded Claim)
  mark : DrainMark.ofLabels stored.metadata.labelMap = status
  labels : ∀ name, name ≠ statusLabel →
    stored.metadata.labelMap.get? name = volume.metadata.labelMap.get? name
  same : stored = { volume with
    metadata := { volume.metadata with
      labels := stored.metadata.labels
      resourceVersion := some (toString (s.version + 1)) } }
  others : ∀ key, key ≠ volumeKey volume → s'.get? key = s.get? key

/-- A call that marks a volume is declined: it changes nothing, and it is a conflict where there is
such a volume and counts as done where there is none. -/
structure Declined (volume : Claim) (status : DrainMark) (s : Server) : Prop where
  unchanged : (mark volume status s).2.objects = s.objects
  conflict : ∀ j, s.get? (volumeKey volume) = some j → ¬Struck (markRequest volume status) s →
    ∃ e, (mark volume status s).1 = .error e ∧
      ∀ operation, VolumeFault.ofStore operation e = .conflict operation
  gone : s.get? (volumeKey volume) = none → ¬Struck (markRequest volume status) s →
    (mark volume status s).1 = .ok ()

variable {volume : Claim} {status : DrainMark} {s start : Server} {j : Json} {v : String}
  {between : List Interference}

/-! ## The call -/

theorem carryOut_mark (hname : nameOf volume ≠ "") (status : DrainMark) :
    carryOut (.mark volume status) =
      .ask (Act.request (markRequest volume status)) fun answer => .done (resultOfMark answer) := by
  have hmerge := run_checkName_answerTo (α := Claim) (nameOf volume) (markRequest volume status)
  rw [if_neg (by simpa using hname)] at hmerge
  change Script.bind (Script.bind (Script.bind (mergeObject Claim _ _ _).run _) _) _ = _
  rw [mergeObject]
  refine (congrArg (fun step => Script.bind (Script.bind (Script.bind step _) _) _) hmerge).trans ?_
  refine congrArg (Script.ask _) (funext fun answer => ?_)
  change Script.bind (Script.bind (Script.bind (.done (resultOfRead answer)) _) _) _ = _
  unfold resultOfMark
  cases (resultOfRead answer : Except ClientError Claim) with
  | ok stored => rfl
  | error e =>
    change Script.bind (.done (if e.isMissing then Except.ok () else Except.error e)) _ = _
    dsimp only
    cases e.isMissing <;> rfl

theorem mark_eq (hname : nameOf volume ≠ "") (status : DrainMark) (s : Server) :
    mark volume status s =
      (resultOfMark (s.answer (.request (markRequest volume status))).1,
        (s.answer (.request (markRequest volume status))).2) := by
  rw [mark, carryOut_mark hname]
  rfl

theorem serve_markRequest (volume : Claim) (status : DrainMark) (s : Server) :
    s.serve (markRequest volume status) =
      s.patch (volumeKey volume) (markPatch volume status) false := rfl

/-- A patch that names a version which is not stored is refused. -/
theorem patch_of_stale {key : ObjectKey} {change : Json}
    (hchange : Server.versionOf change = some v) (hstored : s.get? key = some j)
    (hstale : Server.versionOf j ≠ some v) :
    s.patch key change false = (.error (Server.modified key), s) := by
  have hother : (some v).any (fun v => decide (Server.versionOf j ≠ some v)) = true := by
    simp [hstale]
  rw [Server.patch, hstored]
  dsimp only
  rw [hchange, if_pos hother]

theorem patch_of_gone {key : ObjectKey} {change : Json} (hstored : s.get? key = none) :
    s.patch key change false = (.error (Server.notFound key), s) := by
  rw [Server.patch, hstored]
  rfl

/-- A patch that names the stored version is carried out. -/
theorem patch_of_current {key : ObjectKey} {change : Json}
    (hchange : Server.versionOf change = some v) (hstored : s.get? key = some j)
    (hcurrent : Server.versionOf j = some v) :
    s.patch key change false =
      (.ok (stamped s (change.mergePatch j)), (s.storeStamped key (change.mergePatch j)).2) := by
  have hsame : ¬(some v).any (fun v => decide (Server.versionOf j ≠ some v)) = true := by
    simp [hcurrent]
  rw [Server.patch, hstored]
  dsimp only
  rw [hchange, if_neg hsame]
  rfl

theorem unchanged_of_struck (hname : nameOf volume ≠ "")
    (hstruck : Struck (markRequest volume status) s) :
    (mark volume status s).2.objects = s.objects := by
  rw [mark_eq hname]
  exact (answer_of_struck hstruck).2.1

/-- A volume is not marked where its version is not stored. -/
theorem declined_of_stale (hname : nameOf volume ≠ "")
    (hv : volume.metadata.resourceVersion = some v)
    (hstale : ∀ j, s.get? (volumeKey volume) = some j → Server.versionOf j ≠ some v) :
    Declined volume status s := by
  have hchange := versionOf_markPatch status hv
  by_cases hstruck : Struck (markRequest volume status) s
  · exact ⟨unchanged_of_struck hname hstruck, fun _ _ hnot => absurd hstruck hnot,
      fun _ hnot => absurd hstruck hnot⟩
  · obtain ⟨s', hobjects, -, hanswer⟩ := answer_of_not_struck hstruck
    have hget : s'.get? (volumeKey volume) = s.get? (volumeKey volume) := by
      rw [Server.get?, Server.get?, hobjects]
    rw [serve_markRequest] at hanswer
    cases hstored : s.get? (volumeKey volume) with
    | none =>
      rw [patch_of_gone (hget.trans hstored)] at hanswer
      have hmark := (mark_eq hname status s).trans (by rw [hanswer])
      refine ⟨?_, fun j hj => ?_, fun _ _ => ?_⟩
      · rw [hmark]
        exact hobjects
      · cases hstored.symm.trans hj
      · rw [hmark]
        rfl
    | some j =>
      rw [patch_of_stale hchange (hget.trans hstored) (hstale j hstored)] at hanswer
      have hmark := (mark_eq hname status s).trans (by rw [hanswer])
      refine ⟨?_, fun _ _ _ => ?_, fun hgone => ?_⟩
      · rw [hmark]
        exact hobjects
      · rw [hmark]
        exact ⟨_, rfl, fun _ => rfl⟩
      · cases hstored.symm.trans hgone

/-- Once something has happened to a volume since it was read, marking it is declined. -/
theorem ReadFrom.declined (h : ReadFrom start j v volume)
    (htouched : ¬Untouched (volumeKey volume) start between) (status : DrainMark) :
    Declined volume status (start.after between) :=
  declined_of_stale h.named h.version fun _ hstored => stale_of_touched h.fresh htouched hstored

/-! ## A mark that is set -/

/-- A volume was read at the version that its document names. -/
theorem ReadFrom.current (h : ReadFrom start j v volume) : Server.versionOf j = some v := by
  obtain ⟨members, fields, rfl, hmetadata, hfields⟩ := metadata_of_decode h.read h.version
  obtain ⟨-, -, -, -, -, -, -, hversion, -⟩ := decode_objectMeta_eq_ok_iff.1 hfields
  have hfound := member?_string_eq_ok hversion
  rw [h.version] at hfound
  exact (textAt?_of_lookup hmetadata).trans hfound.symm

theorem ofLabels_eq {labels : Labels} (h : labels.get? statusLabel = status.labelValue?) :
    DrainMark.ofLabels labels = status := by
  rw [DrainMark.ofLabels, h]
  cases status <;> rfl

/-- Where the document that was read is still stored, the mark is set. -/
theorem ReadFrom.sets (h : ReadFrom start j v volume) (hstored : s.get? (volumeKey volume) = some j)
    (hstruck : ¬Struck (markRequest volume status) s) :
    (mark volume status s).1 = .ok () ∧
      ∃ j' stored, Sets volume status j s (mark volume status s).2 j' stored := by
  obtain ⟨s', hobjects, hversion, hanswer⟩ := answer_of_not_struck hstruck
  have hget (key : ObjectKey) : s'.get? key = s.get? key := by
    rw [Server.get?, Server.get?, hobjects]
  rw [serve_markRequest, patch_of_current (versionOf_markPatch status h.version)
    ((hget _).trans hstored) h.current] at hanswer
  obtain ⟨stored, hread, hsame, hlabels⟩ := decode_marked h.read h.version h.distinct s' status
  have hmark := (mark_eq h.named status s).trans (by rw [hanswer])
  have hresult : resultOfMark (.ok (stamped s' ((markPatch volume status).mergePatch j))) =
      .ok () := by
    have hfound (document : Json) : (resultOfRead (.ok document) : Except ClientError Claim) =
        (decode document).mapError .undecodable := rfl
    unfold resultOfMark
    rw [hfound, hread]
    rfl
  refine ⟨(congrArg Prod.fst hmark).trans hresult,
    stamped s' ((markPatch volume status).mergePatch j), stored, ?_⟩
  rw [hmark]
  constructor
  case kept => exact get?_storeStamped s' _ _
  case document => exact hversion ▸ marked_markPatch h.read h.version s' status
  case read => exact hread
  case mark => exact ofLabels_eq ((hlabels _).trans (if_pos rfl))
  case labels => exact fun name hname => (hlabels name).trans (if_neg hname)
  case same => exact hversion ▸ hsame
  case others => exact fun key hkey => (get?_storeStamped_ne hkey s' _).trans (hget key)

/-! ## Marks and what happens in the meantime -/

/-- How a call ends that marks a volume which was read before, and which `between` has happened to
the server since. -/
structure MarksExactly (start : Server) (j : Json) (volume : Claim) (status : DrainMark)
    (between : List Interference) : Prop where
  /-- A volume that was left alone is given the mark, and nothing else. -/
  untouched : Untouched (volumeKey volume) start between →
    ¬Struck (markRequest volume status) (start.after between) →
    (mark volume status (start.after between)).1 = .ok () ∧
      ∃ j' stored, Sets volume status j (start.after between)
        (mark volume status (start.after between)).2 j' stored
  /-- A volume that was written, deleted or created since stays as it is. -/
  touched : ¬Untouched (volumeKey volume) start between →
    Declined volume status (start.after between)
  /-- A request that a fault strikes changes nothing. -/
  struck : Struck (markRequest volume status) (start.after between) →
    (mark volume status (start.after between)).2.objects = (start.after between).objects
  /-- After a patch that was carried out no other patch of the same reading is, whatever has
  happened besides. -/
  once : (mark volume status (start.after between)).2.get? (volumeKey volume) ≠
      (start.after between).get? (volumeKey volume) →
    ∀ (status' : DrainMark) (later : List Interference),
      Declined volume status' ((mark volume status (start.after between)).2.after later)

theorem marks_exactly (h : ReadFrom start j v volume) (status : DrainMark)
    (between : List Interference) : MarksExactly start j volume status between := by
  constructor
  case untouched =>
    intro huntouched hstruck
    exact h.sets ((get?_after_of_untouched huntouched).trans h.stored) hstruck
  case touched => exact fun htouched => h.declined htouched status
  case struck => exact unchanged_of_struck h.named
  case once =>
    intro hchanged status' later
    -- The patch that was carried out is itself something that happened since the reading.
    have hafter : (mark volume status (start.after between)).2.after later =
        start.after (between ++ .request (markRequest volume status) :: later) := by
      rw [mark_eq h.named, after_append]
      rfl
    rw [hafter]
    refine h.declined (fun huntouched => hchanged ?_) status'
    rw [mark_eq h.named]
    exact (untouched_append.1 huntouched).2.1

/-- A volume with a label of its owner's. -/
def labelledDocument : Json := .obj
  [("apiVersion", .str "v1"), ("kind", .str "PersistentVolumeClaim"),
   ("metadata", .obj
    [("name", .str "buffer-logs-0"), ("namespace", .str "ops"), ("resourceVersion", .str "7"),
     ("labels", .obj [("team", .str "ops")])])]

/-- The volume as it is read. -/
def labelledVolume : Claim where
  metadata :=
    { name := some "buffer-logs-0"
      namespaceName := some "ops"
      resourceVersion := some "7"
      labels := some (.ofList [("team", "ops")]) }

def volumeServer : Server := { objects := [(volumeKey labelledVolume, labelledDocument)] }

/-- Somebody else gives the volume another owner. -/
def relabelling : Interference :=
  .request (.merge (placeOf Claim (some "ops")) "buffer-logs-0" false
    (.obj [("metadata", .obj [("labels", .obj [("team", .str "storage")])])]))

theorem readFrom_volumeServer : ReadFrom volumeServer labelledDocument "7" labelledVolume where
  stored := by rfl
  read := by rfl
  named := by decide
  version := rfl
  fresh n hn heq := by
    have hseven : (7 : Nat) = n := Text.toString_injective heq
    have hversion : volumeServer.version = 1000 := rfl
    omega
  distinct := by decide

theorem marks_exactly_ops : ReadFrom volumeServer labelledDocument "7" labelledVolume ∧
    MarksExactly volumeServer labelledDocument labelledVolume .drained [relabelling] ∧
    (mark labelledVolume .drained volumeServer).1 = .ok () ∧
    (mark labelledVolume .drained (volumeServer.after [relabelling])).1 =
      .error (.client (.api (Server.modified (volumeKey labelledVolume)))) :=
  ⟨readFrom_volumeServer, marks_exactly readFrom_volumeServer .drained [relabelling], by rfl,
    by rfl⟩

end VolumeDrain.Api
