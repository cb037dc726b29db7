import GameRealm.Binary64.Decimal

/-!
# Reading values out of a document

Scalars, lists, enumerations and records. A record is an object, whose unknown
members are ignored and whose known members may not repeat, or an array of its
fields in order, which may not be too long. An absent field of an object counts
as absent only for optional fields and fields with a default; an array that ends
early leaves the rest to the defaults alone.
-/

namespace GameRealm.Json

/-! ## Scalars and lists -/

/-- An integer literal below `limit`. -/
def natural? (limit : Nat) : Json → Option Nat
  | .number n => n.natural?.filter (· < limit)
  | _ => none

def u8? (json : Json) : Option UInt8 := (json.natural? 0x100).map UInt8.ofNat
def u16? (json : Json) : Option UInt16 := (json.natural? 0x10000).map UInt16.ofNat
def u32? (json : Json) : Option UInt32 := (json.natural? 0x100000000).map UInt32.ofNat
def u64? (json : Json) : Option UInt64 := (json.natural? 0x10000000000000000).map UInt64.ofNat

def float? : Json → Option Float
  | .number n => n.toFloat?
  | _ => none

def bool? : Json → Option Bool
  | .bool b => some b
  | _ => none

/-- A literal that is text. -/
def string? : Json → Option String
  | .text value => value
  | _ => none

/-- An array whose items can all be read. -/
def items (read : Json → Option α) : Json → Option (List α)
  | .array items => items.mapM read
  | _ => none

def nullable (read : Json → Option α) : Json → Option (Option α)
  | .null => some none
  | json => (read json).map some

/-! ## Enumerations -/

/-- The first of the values with the given name. -/
def named? (name : α → String) (values : List α) (text : String) : Option α :=
  values.find? fun value => name value == text

/-- A value without content: its name, or an object with its name and `null`. -/
def unitValue? (name : α → String) (values : List α) : Json → Option α
  | .text (some content) => named? name values content
  | .object [(some member, .null)] => named? name values member
  | _ => none

/-! ## Records -/

/-- The fields of a record, `none` where the document has none. -/
structure Record where
  slots : List (Option Json)
  /-- Whether the record was written as an array. -/
  positional : Bool

/-- The one member of a name. A name that repeats is refused. -/
def member? (members : List (Option String × Json)) (name : String) : Option (Option Json) :=
  match members.filter fun member => member.1 == some name with
  | [] => some none
  | [member] => some (some member.2)
  | _ => none

/-- The members of a record with the given field names. -/
def recordOfMembers? (names : List String) (members : List (Option String × Json)) :
    Option Record :=
  if members.all fun member => member.1.isSome then
    (names.mapM (member? members)).map (⟨·, false⟩)
  else none

/-- The items of a record with the given field names. -/
def recordOfItems? (names : List String) (items : List Json) : Option Record :=
  if items.length ≤ names.length then
    some ⟨items.map some ++ List.replicate (names.length - items.length) none, true⟩
  else none

def record? (names : List String) : Json → Option Record
  | .object members => recordOfMembers? names members
  | .array items => recordOfItems? names items
  | _ => none

namespace Record

def slot (r : Record) (i : Nat) : Option Json := r.slots[i]?.join

/-- A field that must be there. -/
def field (r : Record) (i : Nat) (read : Json → Option α) : Option α :=
  (r.slot i).bind read

/-- A field that may be `null`, or absent from an object. -/
def optional (r : Record) (i : Nat) (read : Json → Option α) : Option (Option α) :=
  match r.slot i with
  | some json => nullable read json
  | none => if r.positional then none else some none

/-- A field that stands for a default when it is absent. -/
def fieldOr (r : Record) (i : Nat) (default : α) (read : Json → Option α) : Option α :=
  match r.slot i with
  | some json => read json
  | none => some default

end Record

/-! ## Documents that are buffered before they are read -/

mutual
/-- Whether every number is one, every literal is text, and arrays and objects
nest at most `depth` deep. -/
def readable : Nat → Json → Bool
  | _, .null => true
  | _, .bool _ => true
  | _, .number n => n.toFloat?.isSome
  | _, .text value => value.isSome
  | 0, .array _ => false
  | depth + 1, .array items => readableItems depth items
  | 0, .object _ => false
  | depth + 1, .object members => readableMembers depth members

def readableItems : Nat → List Json → Bool
  | _, [] => true
  | depth, item :: rest => readable depth item && readableItems depth rest

def readableMembers : Nat → List (Option String × Json) → Bool
  | _, [] => true
  | depth, (name, value) :: rest =>
    name.isSome && readable depth value && readableMembers depth rest
end

/-- How deep a buffered document may nest. -/
def maxDepth : Nat := 127

/-- A value without content inside a buffered document, where an empty object
counts as no content too. -/
def bufferedUnitValue? (name : α → String) (values : List α) : Json → Option α
  | .object [(some member, .object [])] => named? name values member
  | json => unitValue? name values json

end GameRealm.Json
