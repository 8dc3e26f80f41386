import VolumeDrain.Json.MergePatch
import VolumeDrain.Pool.Status

/-!
# Reading back what was written

A type whose values are read back from their own documents, and what a merge patch leaves under each
member of a document. Patching with a record sets the members that the record writes; of the others
nothing is said, and they stay as they were.
-/
namespace VolumeDrain

theorem bind_eq_ok {ε α β : Type} {x : Except ε α} {f : α → Except ε β} {b : β} :
    x >>= f = .ok b ↔ ∃ a, x = .ok a ∧ f a = .ok b := by
  cases x with
  | error e => exact ⟨nofun, fun ⟨_, ha, _⟩ => nomatch ha⟩
  | ok a => exact ⟨fun h => ⟨a, rfl, h⟩, fun ⟨_, ha, h⟩ => Except.ok.inj ha ▸ h⟩

theorem ok_of_isSome {ε α : Type} {x : Except ε α} (h : x.toOption.isSome = true) :
    ∃ a, x = .ok a := by
  cases x with
  | error e => cases h
  | ok a => exact ⟨a, rfl⟩

/-- Types whose values are read from the documents that they are written as. -/
class LawfulCodec (α : Type) [Encode α] [Decode α] : Prop where
  decode_encode (a : α) : decode (encode a) = (.ok a : Decoded α)

export LawfulCodec (decode_encode)

attribute [simp] decode_encode

instance : LawfulCodec String := ⟨fun _ => rfl⟩

instance : LawfulCodec Bool := ⟨fun _ => rfl⟩

instance : LawfulCodec Int32 where
  decode_encode n := by
    have hmin := n.le_toInt
    have hmax := n.toInt_lt
    change (if -2147483648 ≤ n.toInt ∧ n.toInt < 2147483648 then
      (.ok (Int32.ofInt n.toInt) : Decoded Int32) else .error (.outOfRange n.toInt)) = .ok n
    rw [if_pos (by omega), Int32.ofInt_toInt]

instance : LawfulCodec Int64 where
  decode_encode n := by
    have hmin := n.le_toInt
    have hmax := n.toInt_lt
    change (if -9223372036854775808 ≤ n.toInt ∧ n.toInt < 9223372036854775808 then
      (.ok (Int64.ofInt n.toInt) : Decoded Int64) else .error (.outOfRange n.toInt)) = .ok n
    rw [if_pos (by omega), Int64.ofInt_toInt]

instance {α : Type} [Encode α] [Decode α] [LawfulCodec α] : LawfulCodec (List α) where
  decode_encode l := by
    change (l.map encode).mapM decode = .ok l
    induction l with
    | nil => rfl
    | cons a rest ih => rw [List.map_cons, List.mapM_cons, decode_encode, ih]; rfl

/-! ## Fields -/

namespace Fields

section

variable {α : Type} [Decode α] {members : Json.Members} {place : Nat} {name : String} {j : Json}

theorem required_of_lookup (h : members.lookup name = some j) :
    (named members).required place name = (decode j : Decoded α) := by
  unfold required get?
  simp only [h]

theorem withDefault_of_lookup (h : members.lookup name = some j) (default : α) :
    (named members).withDefault place name default = decode j := by
  unfold withDefault get?
  simp only [h]

theorem optional_of_get? {fields : Fields} (h : fields.get? place name = some j)
    (hnull : j ≠ .null) :
    fields.optional place name = (some <$> decode j : Decoded (Option α)) := by
  rw [optional, h]
  cases j with
  | null => exact absurd rfl hnull
  | bool | int | decimal | str | arr | obj => rfl

theorem optional_of_lookup (h : members.lookup name = some j) (hnull : j ≠ .null) :
    (named members).optional place name = (some <$> decode j : Decoded (Option α)) :=
  optional_of_get? h hnull

theorem optional_of_lookup_none (h : members.lookup name = none) :
    (named members).optional place name = (.ok none : Decoded (Option α)) := by
  unfold optional get?
  simp only [h]

theorem nullable_eq_optional (members : Json.Members) (place : Nat) (name : String) :
    (named members).nullable place name =
      ((named members).optional place name : Decoded (Option α)) := by
  unfold nullable optional
  cases (named members).get? place name with
  | none => rfl
  | some j => cases j <;> rfl

end

variable {α : Type} [Encode α] [Decode α] [LawfulCodec α] {members : Json.Members} {place : Nat}
  {name : String} {a : α}

theorem required_eq (h : members.lookup name = some (encode a)) :
    (named members).required place name = (.ok a : Decoded α) :=
  (required_of_lookup h).trans (decode_encode a)

theorem withDefault_eq (h : members.lookup name = some (encode a)) (default : α) :
    (named members).withDefault place name default = (.ok a : Decoded α) :=
  (withDefault_of_lookup h default).trans (decode_encode a)

theorem optional_eq {value : Option α} (h : members.lookup name = value.map encode)
    (hnull : ∀ a : α, encode a ≠ .null) :
    (named members).optional place name = (.ok value : Decoded (Option α)) := by
  cases value with
  | none => exact optional_of_lookup_none h
  | some a =>
    rw [optional_of_lookup h (hnull a), decode_encode]
    rfl

end Fields

namespace Json

/-! ## Members -/

theorem get?_eq_lookup (name : String) (j : Json) : j.get? name = j.membersOf.lookup name := by
  cases j <;> rfl

theorem lookup_putMember (name other : String) (value : Json) (members : Members) :
    (putMember name value members).lookup other =
      if other = name then some value else members.lookup other := by
  induction members with
  | nil => simp [putMember, KeyMap.lookup_cons_eq]
  | cons m rest ih => grind [putMember, KeyMap.lookup_cons_eq]

theorem get?_put (name : String) (value : Json) (members : Members) :
    ((obj members).put name value).get? name = some value := by
  change (putMember name value members).lookup name = some value
  rw [lookup_putMember, if_pos rfl]

theorem get?_put_ne {name other : String} (h : other ≠ name) (value j : Json) :
    (j.put name value).get? other = j.get? other := by
  cases j with
  | obj members =>
    change (putMember name value members).lookup other = members.lookup other
    rw [lookup_putMember, if_neg h]
  | null | bool | int | decimal | str | arr => rfl

theorem lookup_dropMember (name other : String) (members : Members) :
    (dropMember name members).lookup other =
      if other = name then none else members.lookup other :=
  KeyMap.lookup_filter_ne name other members

theorem lookup_eq_none {α : Type} {name : String} {members : List (String × α)}
    (h : name ∉ members.map Prod.fst) : members.lookup name = none := by
  refine List.lookup_eq_none_iff.2 fun e he => ?_
  exact bne_iff_ne.2 fun heq => h (heq ▸ List.mem_map_of_mem he)

theorem mem_of_lookup {α : Type} {name : String} {value : α} {members : List (String × α)}
    (h : members.lookup name = some value) : (name, value) ∈ members := by
  obtain ⟨l₁, l₂, rfl, -⟩ := List.lookup_eq_some_iff.1 h
  exact List.mem_append_right l₁ List.mem_cons_self

/-- The members that a record writes. -/
def written (fields : List (String × Option Json)) : Members :=
  fields.filterMap fun f => f.2.map fun v => (f.1, v)

theorem lookup_written {fields : List (String × Option Json)} (h : (fields.map Prod.fst).Nodup)
    (name : String) : (written fields).lookup name = (fields.lookup name).join := by
  induction fields with
  | nil => rfl
  | cons f rest ih =>
    obtain ⟨key, value⟩ := f
    obtain ⟨hkey, hrest⟩ := List.nodup_cons.1 h
    have hwritten : written ((key, value) :: rest) =
        (value.map fun v => (key, v)).toList ++ written rest := by
      cases value <;> rfl
    rw [hwritten, KeyMap.lookup_cons_eq]
    by_cases heq : name = key
    · subst heq
      cases value with
      | none => simp [ih hrest, lookup_eq_none hkey]
      | some v => simp
    · cases value <;> simp [heq, KeyMap.lookup_cons_eq, ih hrest]

theorem nodup_written {fields : List (String × Option Json)} (h : (fields.map Prod.fst).Nodup) :
    ((written fields).map Prod.fst).Nodup := by
  refine h.sublist ?_
  induction fields with
  | nil => exact .slnil
  | cons f rest ih =>
    obtain ⟨key, value⟩ := f
    have hrest := ih (List.nodup_cons.1 h).2
    cases value with
    | none => exact hrest.cons key
    | some v => exact hrest.cons_cons key

/-! ## Patches -/

/-- The members after one change of a patch. -/
def changeMember (name : String) (change : Json) (target : Members) : Members :=
  match change with
  | null => dropMember name target
  | other => putMember name (mergePatch other ((target.lookup name).getD null)) target

theorem mergeMembers_cons (name : String) (change : Json) (rest target : Members) :
    mergeMembers ((name, change) :: rest) target =
      mergeMembers rest (changeMember name change target) := by
  cases change <;> simp [mergeMembers, changeMember]

theorem lookup_changeMember_ne {name other : String} (h : other ≠ name) (change : Json)
    (target : Members) : (changeMember name change target).lookup other = target.lookup other := by
  cases change <;> simp [changeMember, lookup_putMember, lookup_dropMember, h]

/-- What a patch makes of one member: a change of that name is carried out on it, and without one it
is as it was. -/
theorem lookup_mergeMembers {changes : Members} (h : (changes.map Prod.fst).Nodup) (name : String)
    (target : Members) : (mergeMembers changes target).lookup name =
      match changes.lookup name with
      | none => target.lookup name
      | some null => none
      | some change => some (mergePatch change ((target.lookup name).getD null)) := by
  induction changes generalizing target with
  | nil => rfl
  | cons c rest ih =>
    obtain ⟨key, change⟩ := c
    obtain ⟨hkey, hrest⟩ := List.nodup_cons.1 h
    rw [mergeMembers_cons, ih hrest, KeyMap.lookup_cons_eq]
    by_cases heq : name = key
    · subst heq
      rw [lookup_eq_none hkey, if_pos rfl]
      cases change <;> simp [changeMember, lookup_putMember, lookup_dropMember]
    · rw [if_neg heq, lookup_changeMember_ne heq]

/-- The value takes the place of whatever it is merged into: it is no object, and not `null`. -/
def Replaces (change : Json) : Prop := change ≠ null ∧ ∀ target, change.mergePatch target = change

theorem replaces_str (s : String) : Replaces (str s) := ⟨nofun, fun _ => by rw [mergePatch]; nofun⟩

theorem replaces_int (n : Int) : Replaces (int n) := ⟨nofun, fun _ => by rw [mergePatch]; nofun⟩

theorem replaces_arr (items : List Json) : Replaces (arr items) :=
  ⟨nofun, fun _ => by rw [mergePatch]; nofun⟩

section

variable {fields : List (String × Option Json)} {change : Json} {name : String}

theorem lookup_merge_set (h : (fields.map Prod.fst).Nodup) (target : Members)
    (hname : (fields.lookup name).join = some change) (hchange : change.Replaces) :
    (mergeMembers (written fields) target).lookup name = some change := by
  rw [lookup_mergeMembers (nodup_written h), lookup_written h, hname]
  split
  · rename_i heq
    cases heq
  · rename_i heq
    exact absurd (Option.some.inj heq) hchange.1
  · rename_i heq
    rw [← Option.some.inj heq, hchange.2]

theorem lookup_merge_unset (h : (fields.map Prod.fst).Nodup) (target : Members)
    (hname : (fields.lookup name).join = none) :
    (mergeMembers (written fields) target).lookup name = target.lookup name := by
  rw [lookup_mergeMembers (nodup_written h), lookup_written h, hname]

/-- A patch of one member is carried out on that member. -/
theorem get?_mergePatch_one (hnull : change ≠ null) (name : String) (target : Json) :
    ((obj [(name, change)]).mergePatch target).get? name =
      some (change.mergePatch ((target.get? name).getD null)) := by
  have hone : ((obj [(name, change)]).mergePatch target).get? name =
      (mergeMembers [(name, change)] target.membersOf).lookup name := by
    rw [mergePatch]
    rfl
  rw [hone, mergeMembers_cons, get?_eq_lookup]
  cases change <;> simp [changeMember, lookup_putMember, mergeMembers] at hnull ⊢

end

end Json

/-- An optional field that a merged record may leave out reads as before where it does. -/
theorem Fields.optional_merge {α : Type} [Encode α] [Decode α] [LawfulCodec α]
    {fields : List (String × Option Json)} {target : Json.Members} {place : Nat} {name : String}
    {new old : Option α} (h : (fields.map Prod.fst).Nodup)
    (hnew : (fields.lookup name).join = new.map encode)
    (hreplaces : ∀ a : α, (encode a).Replaces)
    (hold : (named target).optional place name = (.ok old : Decoded (Option α))) :
    (named (Json.mergeMembers (Json.written fields) target)).optional place name =
      (.ok (new.or old) : Decoded (Option α)) := by
  cases new with
  | none =>
    have hsame : (named (Json.mergeMembers (Json.written fields) target)).get? place name =
        (named target).get? place name := Json.lookup_merge_unset h target hnew
    rw [optional, hsame, Option.none_or, ← hold, optional]
  | some a =>
    have hset := Json.lookup_merge_set h target hnew (hreplaces a)
    exact optional_eq hset fun a => (hreplaces a).1

end VolumeDrain
