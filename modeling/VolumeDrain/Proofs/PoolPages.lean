import Mathlib.Data.List.TakeWhile
import VolumeDrain.Operator.View
import VolumeDrain.Proofs.ReadServer

/-!
# The pages of pools

The operator shows a list of pools and a page for each of them, here to visitors of an operator
whose server keeps its promises to those who read. The list is that of the namespace to which the
operator is restricted. The page of a pool is found by the path alone and does not know of the
restriction: it shows a pool of any namespace. So the two agree on the pools of the namespace and on
those that do not exist, and on no others.

Every namespace and name that are not empty have a path, as any text can be escaped in one.
-/
namespace VolumeDrain

namespace Operator

open Api Manifest Pool

/-! ## Paths -/

namespace Route

/-- A hexadecimal digit. -/
def hexDigit (n : Nat) : Char := Char.ofNat (if n < 10 then 48 + n else 55 + n)

/-- A byte as it may stand anywhere in a path. -/
def escape (b : UInt8) : List Char := ['%', hexDigit (b.toNat / 16), hexDigit (b.toNat % 16)]

/-- A text as a part of a path. -/
def encodePart (s : String) : List Char := s.toUTF8.data.toList.flatMap escape

theorem hexDigit?_hexDigit : ∀ n < 16, bytes.hexDigit? (hexDigit n) = some n := by decide

theorem hexDigit_ne : ∀ n < 16, hexDigit n ≠ '/' ∧ hexDigit n ≠ '?' := by decide

theorem bytes_escape (b : UInt8) (rest : List Char) :
    bytes (escape b ++ rest) = b :: bytes rest := by
  have hb := b.toNat_lt
  rw [escape, List.cons_append, List.cons_append, List.cons_append, List.nil_append, bytes,
    hexDigit?_hexDigit _ (by omega), hexDigit?_hexDigit _ (by omega)]
  dsimp only
  rw [Nat.div_add_mod, UInt8.ofNat_toNat]

theorem bytes_flatMap_escape (bs : List UInt8) : bytes (bs.flatMap escape) = bs := by
  induction bs with
  | nil => rfl
  | cons b rest ih => rw [List.flatMap_cons, bytes_escape, ih]

theorem decodePart_encodePart (s : String) : decodePart (encodePart s) = some s := by
  rw [decodePart, encodePart, bytes_flatMap_escape]
  exact dif_pos s.isValidUTF8

theorem isEmpty_encodePart {s : String} (h : s ≠ "") : (encodePart s).isEmpty = false := by
  cases hbytes : s.toUTF8.data.toList with
  | nil =>
    refine absurd (String.toByteArray_inj.1 (ByteArray.ext ?_)) h
    exact Array.toList_inj.1 hbytes
  | cons b rest =>
    rw [encodePart, hbytes]
    rfl

/-- An escaped text neither divides a path nor ends it. -/
theorem of_mem_encodePart {s : String} {c : Char} (h : c ∈ encodePart s) : c ≠ '/' ∧ c ≠ '?' := by
  obtain ⟨b, -, hc⟩ := List.mem_flatMap.1 h
  have hb := b.toNat_lt
  rw [escape, List.mem_cons, List.mem_cons, List.mem_singleton] at hc
  rcases hc with rfl | rfl | rfl
  · decide
  · exact hexDigit_ne _ (by omega)
  · exact hexDigit_ne _ (by omega)

theorem segments_append {part : List Char} (h : '/' ∉ part) (rest : List Char) :
    segments (part ++ '/' :: rest) = part :: segments rest := by
  induction part with
  | nil => rfl
  | cons c part ih =>
    rw [List.mem_cons, not_or] at h
    rw [List.cons_append, segments, ih h.2]
    exact Ne.symm h.1

theorem segments_eq_singleton {part : List Char} (h : '/' ∉ part) : segments part = [part] := by
  induction part with
  | nil => rfl
  | cons c part ih =>
    rw [List.mem_cons, not_or] at h
    rw [segments, ih h.2]
    exact Ne.symm h.1

/-- What the paths of the pages of pools begin with. -/
def poolsRoot : List Char :=
  ['/', 'a', 'p', 'i', '/', 'v', '1', '/', 'p', 'o', 'o', 'l', 's', '/']

/-- A path of the page of a pool. -/
def poolPath (ns name : String) : String :=
  String.ofList (poolsRoot ++ encodePart ns ++ '/' :: encodePart name)

theorem segments_poolPath (ns name : String) : segments (poolPath ns name).toList =
    [[], ['a', 'p', 'i'], ['v', '1'], ['p', 'o', 'o', 'l', 's'], encodePart ns,
      encodePart name] := by
  rw [poolPath, String.toList_ofList, List.append_assoc]
  change [] :: ['a', 'p', 'i'] :: ['v', '1'] :: ['p', 'o', 'o', 'l', 's'] ::
    segments (encodePart ns ++ '/' :: encodePart name) = _
  rw [segments_append fun h => (of_mem_encodePart h).1 rfl,
    segments_eq_singleton fun h => (of_mem_encodePart h).1 rfl]

theorem ne_of_mem_poolPath {ns name : String} {c : Char} (h : c ∈ (poolPath ns name).toList) :
    c ≠ '?' := by
  rw [poolPath, String.toList_ofList, List.mem_append, List.mem_append, List.mem_cons] at h
  rcases h with (h | h) | rfl | h
  · rintro rfl
    exact (by decide : '?' ∉ poolsRoot) h
  · exact (of_mem_encodePart h).2
  · decide
  · exact (of_mem_encodePart h).2

theorem ofPath?_pools : ofPath? "/api/v1/pools" = some pools := by decide

/-- Every pool has a page. -/
theorem ofPath?_poolPath {ns name : String} (hns : ns ≠ "") (hname : name ≠ "") :
    ofPath? (poolPath ns name) = some (pool ns name) := by
  rw [ofPath?, List.takeWhile_eq_self_iff.2 fun c hc => decide_eq_true (ne_of_mem_poolPath hc),
    segments_poolPath]
  simp only [isEmpty_encodePart hns, isEmpty_encodePart hname, decodePart_encodePart,
    Bool.or_self, Bool.false_eq_true, if_false]

example : poolPath "x" "a/b" = "/api/v1/pools/%78/%61%2F%62" := by decide +kernel

end Route

/-! ## Pages -/

/-- The page that a visitor of a path is shown. -/
def shows {σ : Type} (server : ApiServer σ) (restriction : Option String) (path : String) (s : σ) :
    Page :=
  (Script.run server.answer (visit restriction "GET" path) s).1

/-- A page that lists items. -/
def listing (items : List Json) : Page :=
  ⟨200, .json (.record [("items", some (.arr items)), ("total", some (.int items.length))])⟩

/-- The items that a page lists. -/
def Page.items (p : Page) : List Json :=
  match p.content with
  | .json document =>
    match document.get? "items" with
    | some (.arr items) => items
    | _ => []
  | _ => []

/-- Whether an item is the one of a namespace and name. -/
def isItemOf (ns name : String) (item : Json) : Bool :=
  item.textAt? ["namespace"] = some ns && item.textAt? ["name"] = some name

/-- What a page shows, if it is not there to tell of an error. -/
def Page.found? (p : Page) : Option Json :=
  match p.content with
  | .json document => if p.code = 200 then some document else none
  | _ => none

/-- A list and the page of a pool agree: what the page shows is the one item that the list has for
the pool, and there is no pool if it has none. -/
structure Agree (list pool : Page) (ns name : String) : Prop where
  items : list.items.filter (isItemOf ns name) = pool.found?.toList
  missing (h : pool.found? = none) : pool.code = 404

/-- An operator sees a namespace if it is restricted to none or to this one. -/
def Sees (restriction : Option String) (ns : String) : Prop := ∀ watched ∈ restriction, watched = ns

instance (restriction : Option String) (ns : String) : Decidable (Sees restriction ns) :=
  inferInstanceAs (Decidable (∀ watched ∈ restriction, watched = ns))

section

variable {σ : Type} {server : ApiServer σ} {restriction : Option String} {s : σ}
  {ns name path : String}

/-- The pool that is kept under a namespace and name. -/
def poolAt (server : ApiServer σ) (s : σ) (key : String × String) : Option BufferPool :=
  (server.stored? (keyOf BufferPool key.1 key.2) s).bind fun j =>
    (decode j : Decoded BufferPool).toOption

/-- The item of a pool. -/
def itemOf (p : BufferPool) : Json := encode (Summary.ofPool p)

/-- The page of what comes of reading the list. -/
def pageOfList : Except ClientError (List BufferPool) → Page
  | .ok pools => listing (pools.map itemOf)
  | .error e => errorPage 500 "list_failed" e.message

/-- The page of what comes of reading a pool. -/
def pageOfPool (ns name : String) : Except ClientError (Option BufferPool) → Page
  | .ok (some p) => ⟨200, .json (itemOf p)⟩
  | .ok none => errorPage 404 "not_found" ("BufferPool " ++ ns ++ "/" ++ name ++ " not found")
  | .error e => errorPage 500 "get_failed" e.message

theorem poolsPage_eq (restriction : Option String) : poolsPage restriction =
    (listAll BufferPool restriction none).run >>= fun result => .done (pageOfList result) := by
  refine congrArg ((listAll BufferPool restriction none).run >>= ·) (funext fun result => ?_)
  cases result with
  | ok pools =>
    have hitems : encode (pools.map Summary.ofPool) = .arr (pools.map itemOf) :=
      congrArg Json.arr List.map_map
    rw [pageOfList, listing, List.length_map, ← hitems]
    rfl
  | error e => rfl

theorem poolPage_eq (ns name : String) : poolPage ns name =
    (getObject? BufferPool ns name).run >>= fun result => .done (pageOfPool ns name result) := by
  refine congrArg ((getObject? BufferPool ns name).run >>= ·) (funext fun result => ?_)
  rcases result with _ | _ | _ <;> rfl

theorem shows_pools (hpath : Route.ofPath? path = some .pools) :
    shows server restriction path s = pageOfList (resultOfList
      ((server.serve (.list (placeOf BufferPool restriction) none) s).1.mapError .api)) := by
  rw [shows, visit, hpath]
  change (Script.run server.answer (poolsPage restriction) s).1 = _
  rw [poolsPage_eq, run_listAll]
  rfl

theorem shows_pool (hpath : Route.ofPath? path = some (.pool ns name)) (hname : name ≠ "") :
    shows server restriction path s = pageOfPool ns name (resultOfGet
      ((server.serve (.get (placeOf BufferPool (some ns)) name) s).1.mapError .api)) := by
  rw [shows, visit, hpath]
  change (Script.run server.answer (poolPage ns name) s).1 = _
  rw [poolPage_eq, run_getObject?, if_neg (by simpa using hname)]
  rfl

/-! ## What a list has of one pool -/

theorem mapM_decode {α : Type} [Decode α] {docs : List Json}
    (h : ∀ j ∈ docs, ∃ a : α, decode j = .ok a) :
    (docs.mapM decode : Decoded (List α)) =
      .ok (docs.filterMap fun j => (decode j : Decoded α).toOption) := by
  induction docs with
  | nil => rfl
  | cons j rest ih =>
    obtain ⟨⟨a, ha⟩, hrest⟩ := List.forall_mem_cons.1 h
    rw [List.mapM_cons, ih hrest, List.filterMap_cons, ha]
    rfl

theorem resultOfList_ok {α : Type} [Decode α] {members : Json.Members} {docs : List Json}
    (hitems : members.lookup "items" = some (.arr docs))
    (h : ∀ j ∈ docs, ∃ a : α, decode j = .ok a) :
    (resultOfList (.ok (.obj members)) : Except ClientError (List α)) =
      .ok (docs.filterMap fun j => (decode j : Decoded α).toOption) := by
  have hread : (Json.memberOr members "items" [] : Decoded (List α)) =
      .ok (docs.filterMap fun j => (decode j : Decoded α).toOption) := by
    rw [Json.memberOr, Json.member?, hitems]
    change (Option.getD · []) <$> (some <$> (docs.mapM decode : Decoded (List α))) = _
    rw [mapM_decode h]
    rfl
  rw [resultOfList]
  change Except.mapError _ (Json.memberOr members "items" [] : Decoded (List α)) = _
  rw [hread]
  rfl

variable (h : server.ReadContract BufferPool)
include h

theorem exists_poolAt_iff {key : String × String} : (poolAt server s key).isSome ↔
    (server.stored? (keyOf BufferPool key.1 key.2) s).isSome := by
  rw [poolAt]
  cases hstored : server.stored? (keyOf BufferPool key.1 key.2) s with
  | none => rfl
  | some j =>
    obtain ⟨p, hp, -⟩ := h.kept hstored
    rw [Option.bind_some, hp]
    rfl

theorem isItemOf_itemOf {key : String × String} {p : BufferPool}
    (hp : poolAt server s key = some p) :
    isItemOf ns name (itemOf p) = decide (key = (ns, name)) := by
  obtain ⟨j, hj, hdecode⟩ := Option.bind_eq_some_iff.1 hp
  obtain ⟨q, hq, hns, hname⟩ := h.kept hj
  rw [hq] at hdecode
  cases hdecode
  have hitem : isItemOf ns name (itemOf p) =
      (some ((metadata p).namespaceName.getD "") = some ns &&
        some (metadata p).nameOrStem = some name) := rfl
  rw [hitem, hns, ObjectMeta.nameOrStem, hname]
  simp [Prod.ext_iff]

theorem filter_items (keys : List (String × String)) :
    ((keys.filterMap (poolAt server s)).map itemOf).filter (isItemOf ns name) =
      ((keys.filter (· = (ns, name))).filterMap (poolAt server s)).map itemOf := by
  induction keys with
  | nil => rfl
  | cons key rest ih =>
    cases hp : poolAt server s key with
    | none =>
      rw [List.filterMap_cons_none hp, ih, List.filter_cons]
      split
      · rw [List.filterMap_cons_none hp]
      · rfl
    | some p =>
      rw [List.filterMap_cons_some hp, List.map_cons, List.filter_cons, List.filter_cons, ih,
        isItemOf_itemOf h hp]
      split
      · rw [List.filterMap_cons_some hp, List.map_cons]
      · rfl

theorem filter_items_of_nodup {keys : List (String × String)} (hnodup : keys.Nodup) :
    ((keys.filterMap (poolAt server s)).map itemOf).filter (isItemOf ns name) =
      if (ns, name) ∈ keys then ((poolAt server s (ns, name)).map itemOf).toList else [] := by
  rw [filter_items h, List.filter_eq, hnodup.count]
  split
  · cases hp : poolAt server s (ns, name) <;> simp [hp]
  · rfl

/-- The list of what is kept where the operator sees it. -/
theorem exists_keys
    (hanswers : server.Answers (.list (placeOf BufferPool restriction) none) s)
    (hpath : Route.ofPath? path = some .pools) : ∃ keys : List (String × String), keys.Nodup ∧
      (∀ ns name, (ns, name) ∈ keys ↔ Sees restriction ns ∧ (poolAt server s (ns, name)).isSome) ∧
      (shows server restriction path s).items = (keys.filterMap (poolAt server s)).map itemOf ∧
      (shows server restriction path s = listing (shows server restriction path s).items ∨
        ∃ e : ErrorResponse, e.reason = "NotFound" ∧ shows server restriction path s =
          errorPage 500 "list_failed" (ClientError.api e).message) := by
  rw [shows_pools hpath]
  obtain ⟨answer, s', hserve⟩ : ∃ answer s',
      server.serve (.list (placeOf BufferPool restriction) none) s = (answer, s') := ⟨_, _, rfl⟩
  simp only [exists_poolAt_iff h, hserve]
  cases answer with
  | error e =>
    have hreason := hanswers e s' hserve
    refine ⟨[], List.nodup_nil, fun ns name => iff_of_false List.not_mem_nil ?_, rfl,
      .inr ⟨e, hreason, rfl⟩⟩
    rintro ⟨hsees, hkept⟩
    rw [h.unlisted hserve hreason hsees name] at hkept
    cases hkept
  | ok j =>
    obtain ⟨members, keys, rfl, hitems, hnodup, hkeys⟩ := h.listed hserve
    have hread : (resultOfList (.ok (.obj members)) : Except ClientError (List BufferPool)) =
        .ok (keys.filterMap (poolAt server s)) := by
      refine (resultOfList_ok hitems fun j hj => ?_).trans ?_
      · obtain ⟨key, -, hj⟩ := List.mem_filterMap.1 hj
        obtain ⟨p, hp, -⟩ := h.kept hj
        exact ⟨p, hp⟩
      · rw [List.filterMap_filterMap]
        rfl
    have hshown : pageOfList (resultOfList (Except.mapError ClientError.api (.ok (.obj members)))) =
        listing ((keys.filterMap (poolAt server s)).map itemOf) :=
      congrArg pageOfList hread
    rw [hshown]
    exact ⟨keys, hnodup, hkeys, rfl, .inl rfl⟩

/-- The page of a pool shows what is kept, in any namespace. -/
theorem shows_poolAt (hanswers : server.Answers (.get (placeOf BufferPool (some ns)) name) s)
    (hpath : Route.ofPath? path = some (.pool ns name)) (hname : name ≠ "") :
    shows server restriction path s =
      pageOfPool ns name (.ok (poolAt server s (ns, name))) := by
  rw [shows_pool hpath hname, poolAt]
  obtain ⟨answer, s', hserve⟩ : ∃ answer s',
      server.serve (.get (placeOf BufferPool (some ns)) name) s = (answer, s') := ⟨_, _, rfl⟩
  rw [hserve]
  cases answer with
  | error e =>
    have hreason := hanswers e s' hserve
    rw [h.missing hserve hreason]
    change pageOfPool ns name (if e.reason = "NotFound" then .ok none else .error (.api e)) = _
    rw [if_pos hreason]
    rfl
  | ok j =>
    have hstored := h.found hserve
    obtain ⟨p, hp, -⟩ := h.kept hstored
    rw [hstored, Option.bind_some, hp]
    change pageOfPool ns name (resultOfGet (.ok j)) = _
    rw [ApiServer.Contract.resultOfGet_ok hp]
    rfl

omit h in
theorem found?_pageOfPool (p : Option BufferPool) :
    (pageOfPool ns name (.ok p)).found? = p.map itemOf := by
  cases p <;> rfl

/-- Where requests are answered without an error other than that something is not found, the list
has of a pool what its page shows if the operator sees the pool's namespace, and nothing if it does
not. So the two agree exactly on the pools of the namespaces that it sees and on those that are not
there. -/
theorem pool_views_agree_iff (hns : ns ≠ "") (hname : name ≠ "")
    (hlist : server.Answers (.list (placeOf BufferPool restriction) none) s)
    (hget : server.Answers (.get (placeOf BufferPool (some ns)) name) s) :
    let list := shows server restriction "/api/v1/pools" s
    (list = listing list.items ∨ ∃ e : ErrorResponse, e.reason = "NotFound" ∧
      list = errorPage 500 "list_failed" (ClientError.api e).message) ∧
    (∃ path, Route.ofPath? path = some (.pool ns name)) ∧
    ∀ path, Route.ofPath? path = some (.pool ns name) →
      let pool := shows server restriction path s
      (pool.found? = none →
        pool = errorPage 404 "not_found" ("BufferPool " ++ ns ++ "/" ++ name ++ " not found")) ∧
      list.items.filter (isItemOf ns name) =
        (if Sees restriction ns then pool.found?.toList else []) ∧
      (Agree list pool ns name ↔ Sees restriction ns ∨ pool.found? = none) := by
  obtain ⟨keys, hnodup, hkeys, hitems, hpage⟩ := exists_keys h hlist Route.ofPath?_pools
  refine ⟨hpage, ⟨_, Route.ofPath?_poolPath hns hname⟩, fun path hpath => ?_⟩
  have hpool : shows server restriction path s =
      pageOfPool ns name (.ok (poolAt server s (ns, name))) :=
    shows_poolAt h hget hpath hname
  have hof : (shows server restriction "/api/v1/pools" s).items.filter (isItemOf ns name) =
      if Sees restriction ns then (shows server restriction path s).found?.toList else [] := by
    rw [hitems, filter_items_of_nodup h hnodup, hpool, found?_pageOfPool]
    by_cases hsees : Sees restriction ns
    · cases hp : poolAt server s (ns, name) <;> simp [hkeys, hsees, hp]
    · simp [hkeys, hsees]
  have hmissing (hfound : (shows server restriction path s).found? = none) :
      shows server restriction path s =
        errorPage 404 "not_found" ("BufferPool " ++ ns ++ "/" ++ name ++ " not found") := by
    rw [hpool, found?_pageOfPool, Option.map_eq_none_iff] at hfound
    rw [hpool, hfound]
    rfl
  refine ⟨hmissing, hof, fun hagree => ?_, fun hcases => ⟨?_, fun hfound => ?_⟩⟩
  · by_cases hsees : Sees restriction ns
    · exact .inl hsees
    · rw [if_neg hsees] at hof
      exact .inr (Option.toList_eq_nil_iff.1 (hagree.items.symm.trans hof))
  · rcases hcases with hsees | hfound
    · rw [hof, if_pos hsees]
    · rw [hof, hfound, Option.toList_none, ite_self]
  · rw [hmissing hfound]
    rfl

end

/-- The document of a pool. -/
def poolDocument (ns name : String) : Json :=
  .obj [("metadata", .obj [("name", .str name), ("namespace", .str ns)]), ("spec", .obj [])]

/-- A server with two pools in two namespaces. -/
def twoPools : Server where
  objects :=
    [(⟨"bufferpools", "logging", "edge"⟩, poolDocument "logging" "edge"),
     (⟨"bufferpools", "metrics", "core"⟩, poolDocument "metrics" "core")]

theorem files_twoPools : twoPools.Files BufferPool where
  apart := by decide
  named := by decide

/-- An operator that is restricted to one of the namespaces lists its pool as it shows it. -/
theorem pool_views_agree_iff_twoPools :
    let server := readServer BufferPool
    let s : { s : Server // s.Files BufferPool } := ⟨twoPools, files_twoPools⟩
    server.ReadContract BufferPool ∧
    server.Answers (.list (placeOf BufferPool (some "logging")) none) s ∧
    server.Answers (.get (placeOf BufferPool (some "logging")) "edge") s ∧
    Agree (shows server (some "logging") "/api/v1/pools" s)
      (shows server (some "logging") "/api/v1/pools/logging/edge" s) "logging" "edge" := by
  intro server s
  have hcontract := readContract_readServer BufferPool
  have hlist : server.Answers (.list (placeOf BufferPool (some "logging")) none) s := nofun
  have hget : server.Answers (.get (placeOf BufferPool (some "logging")) "edge") s := nofun
  obtain ⟨-, -, hpool⟩ := pool_views_agree_iff hcontract (by decide) (by decide) hlist hget
  obtain ⟨-, -, hagree⟩ := hpool "/api/v1/pools/logging/edge" (by decide +kernel)
  exact ⟨hcontract, hlist, hget, hagree.2 (.inl (by decide))⟩

/-- It shows the pool of the other namespace as well, which it does not list. -/
theorem shows_pool_beyond_restriction :
    let server := readServer BufferPool
    let s : { s : Server // s.Files BufferPool } := ⟨twoPools, files_twoPools⟩
    server.ReadContract BufferPool ∧
    server.Answers (.list (placeOf BufferPool (some "logging")) none) s ∧
    server.Answers (.get (placeOf BufferPool (some "metrics")) "core") s ∧
    ¬ Agree (shows server (some "logging") "/api/v1/pools" s)
      (shows server (some "logging") "/api/v1/pools/metrics/core" s) "metrics" "core" := by
  intro server s
  refine ⟨readContract_readServer BufferPool, nofun, nofun, fun hagree => ?_⟩
  have hlisted : ((shows server (some "logging") "/api/v1/pools" s).items.filter
      (isItemOf "metrics" "core")).length = 0 := by decide +kernel
  have hshown : (shows server (some "logging") "/api/v1/pools/metrics/core" s).found?.toList.length
      = 1 := by decide +kernel
  rw [hagree.items, hshown] at hlisted
  cases hlisted

end Operator

end VolumeDrain
