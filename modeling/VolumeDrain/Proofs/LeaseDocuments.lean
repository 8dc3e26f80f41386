import VolumeDrain.Api.Server
import VolumeDrain.Operator.Leadership
import VolumeDrain.Proofs.Documents

/-!
# Documents of a lease

Who holds a lease and which version of it is stored are read off its document. A renewal leaves the
holder alone and names no version; a takeover names the version that was read and puts a new holder
in. Each write stamps the document with the next version number of the server.
-/
namespace VolumeDrain.Operator

open Api Json Manifest

/-- The holder that the document of a lease names. -/
def holderOf (j : Json) : Option String := j.textAt? ["spec", "holderIdentity"]

/-- A lease has expired by this clock: it has no renewal time, or the clock is strictly past the
renewal time and the lease's duration, which is fifteen seconds where it is not set. -/
def Expired (now : Instant) (lease : Lease) : Prop :=
  ∀ renewed, lease.spec.bind LeaseSpec.renewTime = some renewed →
    renewed.nanos + ((lease.spec.bind LeaseSpec.leaseDurationSeconds).getD 15).toInt * 1000000000 <
      now.nanos

theorem leaseExpired_iff {now : Instant} {lease : Lease} :
    leaseExpired now lease.spec = true ↔ Expired now lease := by
  unfold leaseExpired Expired
  cases lease.spec.bind LeaseSpec.renewTime with
  | none => exact ⟨nofun, fun _ => rfl⟩
  | some renewed =>
    refine decide_eq_true_iff.trans ⟨fun h _ heq => ?_, fun h => h renewed rfl⟩
    exact Option.some.inj heq ▸ h

/-! ## Reading -/

theorem member?_string_eq_ok {members : Members} {name : String} {value : Option String}
    (h : Json.member? members name = (.ok value : Decoded (Option String))) :
    value = (members.lookup name).bind text? := by
  unfold Json.member? at h
  cases hj : members.lookup name with
  | none =>
    rw [hj] at h
    cases h
    rfl
  | some j =>
    rw [hj] at h
    cases j with
    | null | str => cases h; rfl
    | bool | int | decimal | arr | obj => cases h

/-- An optional member is unset, or it is what its document is read as. -/
theorem member?_eq_ok {α : Type} [Decode α] {members : Members} {name : String} {value : Option α}
    (h : Json.member? members name = (.ok value : Decoded (Option α))) :
    (value = none ∧ ∀ j, members.lookup name = some j → j = .null) ∨
      ∃ j a, members.lookup name = some j ∧ decode j = (.ok a : Decoded α) ∧ value = some a := by
  unfold Json.member? at h
  split at h
  · rename_i hnull
    cases h
    exact .inl ⟨rfl, fun j hj => Option.some.inj (hj.symm.trans hnull)⟩
  · rename_i j _ hj
    cases ha : (decode j : Decoded α) with
    | error e =>
      rw [ha] at h
      cases h
    | ok a =>
      rw [ha] at h
      cases h
      exact .inr ⟨j, a, hj, ha, rfl⟩
  · rename_i hnone
    cases h
    exact .inl ⟨rfl, fun j hj => nomatch hnone.symm.trans hj⟩

theorem memberOr_eq_ok {α : Type} [Decode α] {members : Members} {name : String} {empty value : α}
    (h : Json.memberOr members name empty = .ok value) :
    ∃ found, Json.member? members name = (.ok found : Decoded (Option α)) ∧
      value = found.getD empty := by
  unfold Json.memberOr at h
  cases hfound : (Json.member? members name : Decoded (Option α)) with
  | error e =>
    rw [hfound] at h
    cases h
  | ok found =>
    rw [hfound] at h
    cases h
    exact ⟨found, rfl, rfl⟩

theorem objectMembers_eq_ok {j : Json} {members : Members} (h : j.objectMembers = .ok members) :
    j = .obj members := by
  cases j with
  | obj found => cases h; rfl
  | null | bool | int | decimal | str | arr => cases h

theorem membersOf_eq_ok {j : Json} {members : Members} {k : Kind}
    (h : k.membersOf j = .ok members) : j = .obj members := by
  unfold Kind.membersOf at h
  obtain ⟨found, hfound, h⟩ := bind_eq_ok.1 h
  obtain ⟨_, _, h⟩ := bind_eq_ok.1 h
  obtain ⟨_, _, h⟩ := bind_eq_ok.1 h
  cases h
  exact objectMembers_eq_ok hfound

/-- The text of a member of a record, which may be missing. -/
theorem lookup_of_nullable {members : Members} {name other : String}
    (h : ∀ j, members.lookup name = some j → j = .null) :
    ((obj members).textAt? [name, other]) = none := by
  change ((members.lookup name).bind _).bind text? = none
  cases hj : members.lookup name with
  | none => rfl
  | some j =>
    rw [h j hj]
    rfl

theorem textAt?_of_lookup {members fields : Members} {name other : String}
    (h : members.lookup name = some (.obj fields)) :
    (obj members).textAt? [name, other] = (fields.lookup other).bind text? := by
  change ((members.lookup name).bind _).bind text? = _
  rw [h]
  change ((fields.lookup other).bind some).bind text? = _
  rw [Option.bind_fun_some]

/-- A lease that was read names the holder that its document names. -/
theorem holder_of_decode {j : Json} {lease : Lease} (h : decode j = (.ok lease : Decoded Lease)) :
    lease.spec.bind LeaseSpec.holderIdentity = holderOf j := by
  obtain ⟨members, hmembers, h⟩ := bind_eq_ok.1 h
  obtain ⟨_, _, h⟩ := bind_eq_ok.1 h
  obtain ⟨spec, hspec, h⟩ := bind_eq_ok.1 h
  cases h
  cases membersOf_eq_ok hmembers
  rcases member?_eq_ok hspec with ⟨rfl, hnull⟩ | ⟨k, s, hk, hs, rfl⟩
  · exact (lookup_of_nullable hnull).symm
  · obtain ⟨fields, hfields, hs⟩ := bind_eq_ok.1 hs
    obtain ⟨holder, hholder, hs⟩ := bind_eq_ok.1 hs
    obtain ⟨_, _, hs⟩ := bind_eq_ok.1 hs
    obtain ⟨_, _, hs⟩ := bind_eq_ok.1 hs
    obtain ⟨_, _, hs⟩ := bind_eq_ok.1 hs
    obtain ⟨_, _, hs⟩ := bind_eq_ok.1 hs
    cases hs
    cases objectMembers_eq_ok hfields
    exact (member?_string_eq_ok hholder).trans (textAt?_of_lookup hk).symm

/-- A lease that was read is of the version that its document names. -/
theorem version_of_decode {j : Json} {lease : Lease}
    (h : decode j = (.ok lease : Decoded Lease)) :
    lease.metadata.resourceVersion = Server.versionOf j := by
  obtain ⟨members, hmembers, h⟩ := bind_eq_ok.1 h
  obtain ⟨metadata, hmetadata, h⟩ := bind_eq_ok.1 h
  obtain ⟨_, _, h⟩ := bind_eq_ok.1 h
  cases h
  cases membersOf_eq_ok hmembers
  obtain ⟨found, hfound, rfl⟩ := memberOr_eq_ok hmetadata
  rcases member?_eq_ok hfound with ⟨rfl, hnull⟩ | ⟨k, found, hk, hdecode, rfl⟩
  · exact (lookup_of_nullable hnull).symm
  · obtain ⟨fields, hfields, hread⟩ := bind_eq_ok.1 hdecode
    obtain ⟨_, _, hread⟩ := bind_eq_ok.1 hread
    obtain ⟨_, _, hread⟩ := bind_eq_ok.1 hread
    obtain ⟨_, _, hread⟩ := bind_eq_ok.1 hread
    obtain ⟨_, _, hread⟩ := bind_eq_ok.1 hread
    obtain ⟨_, _, hread⟩ := bind_eq_ok.1 hread
    obtain ⟨_, _, hread⟩ := bind_eq_ok.1 hread
    obtain ⟨_, _, hread⟩ := bind_eq_ok.1 hread
    obtain ⟨version, hversion, hread⟩ := bind_eq_ok.1 hread
    obtain ⟨_, _, hread⟩ := bind_eq_ok.1 hread
    obtain ⟨_, _, hread⟩ := bind_eq_ok.1 hread
    obtain ⟨_, _, hread⟩ := bind_eq_ok.1 hread
    cases hread
    cases objectMembers_eq_ok hfields
    exact (member?_string_eq_ok hversion).trans (textAt?_of_lookup hk).symm

/-! ## Writing -/

theorem textAt?_pair (j : Json) (name other : String) :
    j.textAt? [name, other] = (((j.get? name).getD null).get? other).bind text? := by
  change ((j.get? name).bind _).bind text? = _
  cases j.get? name with
  | none => rfl
  | some k =>
    change ((k.get? other).bind some).bind text? = (k.get? other).bind text?
    rw [Option.bind_fun_some]

/-- What a patch makes of one member of a document. -/
theorem get?_mergePatch {changes : Members} (h : (changes.map Prod.fst).Nodup) (name : String)
    (target : Json) : ((obj changes).mergePatch target).get? name =
      match changes.lookup name with
      | none => target.get? name
      | some null => none
      | some change => some (mergePatch change ((target.get? name).getD null)) := by
  have hlookup : ((obj changes).mergePatch target).get? name =
      (mergeMembers changes target.membersOf).lookup name := by
    rw [mergePatch]
    rfl
  rw [get?_eq_lookup name target]
  exact hlookup.trans (lookup_mergeMembers h name _)

/-- A renewal leaves the holder alone. -/
theorem holderOf_renewed (now : Instant) (stored : Json) :
    holderOf ((renewPatch now).mergePatch stored) = holderOf stored := by
  rw [holderOf, holderOf, textAt?_pair, textAt?_pair, renewPatch, get?_mergePatch (by simp)]
  change (((mergePatch (obj _) _).get? "holderIdentity")).bind text? = _
  rw [get?_mergePatch (by simp)]
  rfl

theorem metadata_renewed (now : Instant) (stored : Json) :
    ((renewPatch now).mergePatch stored).get? "metadata" = stored.get? "metadata" := by
  rw [renewPatch, get?_mergePatch (by simp)]
  rfl

theorem versionOf_renewPatch (now : Instant) : Server.versionOf (renewPatch now) = none := rfl

/-- A takeover puts its candidate in as the holder. -/
theorem holderOf_takenOver (now : Instant) (identity : String) (lease : Lease) (stored : Json) :
    holderOf ((takeoverPatch now identity lease).mergePatch stored) = some identity := by
  rw [holderOf, textAt?_pair, takeoverPatch, get?_mergePatch (by simp)]
  change ((mergePatch (obj _) _).get? "holderIdentity").bind text? = _
  rw [get?_mergePatch (by simp)]
  change (some (mergePatch (.str identity) _)).bind text? = _
  rw [(replaces_str identity).2]
  rfl

theorem metadata_takenOver (now : Instant) (identity : String) (lease : Lease) (stored : Json) :
    ∃ m, ((takeoverPatch now identity lease).mergePatch stored).get? "metadata" =
      some (.obj m) := by
  rw [takeoverPatch, get?_mergePatch (by simp)]
  change ∃ m, some (mergePatch (obj _) _) = some (obj m)
  rw [mergePatch]
  exact ⟨_, rfl⟩

theorem versionOf_takeoverPatch (now : Instant) (identity : String) (lease : Lease) :
    Server.versionOf (takeoverPatch now identity lease) = lease.metadata.resourceVersion := by
  unfold takeoverPatch
  cases lease.metadata.resourceVersion <;> rfl

theorem holderOf_newLease (now : Instant) (ns identity : String) :
    holderOf (encode (newLease now ns identity)) = some identity := rfl

theorem metadata_newLease (now : Instant) (ns identity : String) :
    ∃ m, (encode (newLease now ns identity)).get? "metadata" = some (.obj m) := ⟨_, rfl⟩

theorem metadata_of_versionOf {j : Json} {version : String}
    (h : Server.versionOf j = some version) : ∃ m, j.get? "metadata" = some (.obj m) := by
  rw [Server.versionOf, textAt?_pair] at h
  cases hj : j.get? "metadata" with
  | none =>
    rw [hj] at h
    cases h
  | some k =>
    rw [hj] at h
    cases k with
    | obj m => exact ⟨m, rfl⟩
    | null | bool | int | decimal | str | arr => cases h

/-! ## Stamping -/

theorem holderOf_stamped (version : String) (j : Json) :
    holderOf (Server.withMeta "resourceVersion" (.str version) j) = holderOf j := by
  rw [holderOf, holderOf, textAt?_pair, textAt?_pair, Server.withMeta, get?_put_ne (by decide)]

theorem versionOf_stamped {j : Json} {m : Members} (h : j.get? "metadata" = some (.obj m))
    (version : String) :
    Server.versionOf (Server.withMeta "resourceVersion" (.str version) j) = some version := by
  cases j with
  | obj members =>
    rw [Server.versionOf, textAt?_pair, Server.withMeta, h]
    change ((((putMember "metadata" _ members).lookup "metadata").getD null).get? _).bind text? = _
    rw [lookup_putMember, if_pos rfl]
    change ((putMember "resourceVersion" _ m).lookup "resourceVersion").bind text? = _
    rw [lookup_putMember, if_pos rfl]
    rfl
  | null | bool | int | decimal | str | arr => cases h

end VolumeDrain.Operator
