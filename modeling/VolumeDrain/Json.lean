/-!
# JSON documents

The values that requests, answers and stored objects are made of. The members of an object have
no order of their own; a name counts at its first place.
-/
namespace VolumeDrain

/-- A JSON value. A number is an integer, or a decimal if it is written with a fraction or an
exponent: `decimal m e` stands for `m * 10 ^ e`. -/
inductive Json where
  | null
  | bool (value : Bool)
  | int (value : Int)
  | decimal (mantissa exponent : Int)
  | str (text : String)
  | arr (items : List Json)
  | obj (members : List (String × Json))
deriving Inhabited

namespace Json

/-- The members of an object. -/
abbrev Members := List (String × Json)

mutual

/-- Whether two values are written alike, member order included. -/
def same : Json → Json → Bool
  | null, null => true
  | bool a, bool b => a == b
  | int a, int b => a == b
  | decimal a b, decimal c d => a == c && b == d
  | str a, str b => a == b
  | arr a, arr b => sameItems a b
  | obj a, obj b => sameMembers a b
  | _, _ => false

/-- Whether two lists of values agree item by item. -/
def sameItems : List Json → List Json → Bool
  | [], [] => true
  | a :: as, b :: bs => same a b && sameItems as bs
  | _, _ => false

/-- Whether two lists of members agree member by member. -/
def sameMembers : List (String × Json) → List (String × Json) → Bool
  | [], [] => true
  | (k, a) :: as, (l, b) :: bs => k == l && same a b && sameMembers as bs
  | _, _ => false

end

instance : BEq Json := ⟨same⟩

/-- The member of an object under a name. -/
def get? (name : String) : Json → Option Json
  | obj members => members.lookup name
  | _ => none

/-- The value under a path of member names. -/
def path? : List String → Json → Option Json
  | [], j => some j
  | name :: rest, j => (j.get? name).bind (path? rest)

/-- The text of a string. -/
def text? : Json → Option String
  | str s => some s
  | _ => none

/-- The text under a path of member names. -/
def textAt? (names : List String) (j : Json) : Option String := (j.path? names).bind text?

/-- The members with one added, or replaced where its name stands. -/
def putMember (name : String) (value : Json) : Members → Members
  | [] => [(name, value)]
  | m :: rest => if m.1 = name then (name, value) :: rest else m :: putMember name value rest

/-- The members without those of a name. -/
def dropMember (name : String) (members : Members) : Members :=
  members.filter (fun m => m.1 != name)

/-- The object with one member added or replaced; what is no object is returned as it is. -/
def put (j : Json) (name : String) (value : Json) : Json :=
  match j with
  | obj members => obj (putMember name value members)
  | j => j

/-- The object of the members that have a value. -/
def record (fields : List (String × Option Json)) : Json :=
  obj (fields.filterMap fun f => f.2.map fun v => (f.1, v))

/-- An optional value, `null` if there is none. -/
def ofOption : Option Json → Json
  | some j => j
  | none => null

end Json

end VolumeDrain
