/-
JSON values:

* `Json`: values, with whole numbers apart from fractions and with the fields of an object in order;
* `Json.get?`, `Json.insertField`: fields by name. A field that is set again keeps its place;
* `Json.sortFields`: the fields of every object sorted by name;
* `Json.widen64?`: whole numbers that do not fit in 64 bits, signed or unsigned, become fractions;
* `Json.depth`: how deep lists and objects are nested;
* `Json.writeFault?`: what stands against writing a value: a whole number that does not fit, or
  nesting that is too deep.
-/
import SourceLayers.Json.Binary

namespace SourceLayers

/-- A JSON value. -/
inductive Json where
  | null
  | bool (value : Bool)
  | int (value : Int)
  | decimal (value : Decimal)
  | str (value : String)
  | arr (items : List Json)
  | obj (fields : List (String × Json))
  deriving Inhabited

namespace Json

/-- A whole number. -/
def nat (value : Nat) : Json :=
  .int value

/-- A list of texts. -/
def strings (texts : List String) : Json :=
  .arr (texts.map .str)

/-- A value or null. -/
def ofOption {α : Type} (write : α → Json) : Option α → Json
  | some value => write value
  | none => .null

/-- A field of an object. -/
def get? (value : Json) (name : String) : Option Json :=
  match value with
  | .obj fields => fields.lookup name
  | _ => none

/-- Sets a field: in its place if there is one of that name, else at the end. -/
def insertField (fields : List (String × Json)) (name : String) (value : Json) :
    List (String × Json) :=
  match fields with
  | [] => [(name, value)]
  | (other, old) :: rest =>
    if other = name then (name, value) :: rest else (other, old) :: insertField rest name value

/-- A text, if the value is one. -/
def str? : Json → Option String
  | .str text => some text
  | _ => none

/-- The items, if the value is a list. -/
def arr? : Json → Option (List Json)
  | .arr items => some items
  | _ => none

/-! ### Order of fields -/

mutual
/-- The value with the fields of every object sorted by name. -/
def sortFields : Json → Json
  | .arr items => .arr (sortFieldsItems items)
  | .obj fields =>
    .obj ((sortFieldsFields fields).mergeSort fun a b => decide (a.1 ≤ b.1))
  | other => other

/-- The same for the items of a list. -/
def sortFieldsItems : List Json → List Json
  | [] => []
  | item :: rest => sortFields item :: sortFieldsItems rest

/-- The same for the values in the fields of an object, which keep their order. -/
def sortFieldsFields : List (String × Json) → List (String × Json)
  | [] => []
  | (name, value) :: rest => (name, sortFields value) :: sortFieldsFields rest
end

/-! ### Range of whole numbers -/

/-- Whether a whole number fits in 64 bits, signed or unsigned. -/
def intFits64 (value : Int) : Bool :=
  -9223372036854775808 ≤ value && value < 18446744073709551616

mutual
/-- The value with every whole number that does not fit in 64 bits turned into a fraction. There is
none if such a number is too large for a fraction, too. -/
def widen64? : Json → Option Json
  | .int value =>
    if intFits64 value then some (.int value)
    else
      let whole : Decimal := { negative := value < 0, digits := value.natAbs, exponent := 0 }
      whole.rounded?.map .decimal
  | .arr items => (widen64Items? items).map .arr
  | .obj fields => (widen64Fields? fields).map .obj
  | other => some other

/-- The same for the items of a list. -/
def widen64Items? : List Json → Option (List Json)
  | [] => some []
  | item :: rest =>
    match widen64? item, widen64Items? rest with
    | some item, some rest => some (item :: rest)
    | _, _ => none

/-- The same for the fields of an object. -/
def widen64Fields? : List (String × Json) → Option (List (String × Json))
  | [] => some []
  | (name, value) :: rest =>
    match widen64? value, widen64Fields? rest with
    | some value, some rest => some ((name, value) :: rest)
    | _, _ => none
end

/-! ### Nesting -/

mutual
/-- The number of lists and objects around the innermost value, that value included. -/
def depth : Json → Nat
  | .arr items => depthItems items + 1
  | .obj fields => depthFields fields + 1
  | _ => 0

/-- The largest depth among the items of a list. -/
def depthItems : List Json → Nat
  | [] => 0
  | item :: rest => max (depth item) (depthItems rest)

/-- The largest depth among the fields of an object. -/
def depthFields : List (String × Json) → Nat
  | [] => 0
  | (_, value) :: rest => max (depth value) (depthFields rest)
end

/-- The depth up to which values are read. -/
def maxReadDepth : Nat :=
  1024

/-- The depth up to which values are written. -/
def maxWrittenDepth : Nat :=
  254

end Json

/-- Why a value cannot be written. -/
inductive WriteFault where
  | wideInteger
  | tooDeep
  deriving DecidableEq, Repr

/-- The wording of a fault. -/
def WriteFault.message : WriteFault → String
  | .wideInteger => "Integer exceeds 64-bit range"
  | .tooDeep => "Recursion limit reached"

namespace Json

mutual
/-- The first fault of a value in the order of its text, if lists and objects may be nested so many
levels deep. -/
def writeFault? (levels : Nat) : Json → Option WriteFault
  | .int value => if intFits64 value then none else some .wideInteger
  | .arr items => if levels = 0 then some .tooDeep else writeFaultItems? (levels - 1) items
  | .obj fields => if levels = 0 then some .tooDeep else writeFaultFields? (levels - 1) fields
  | _ => none

/-- The same for the items of a list. -/
def writeFaultItems? (levels : Nat) : List Json → Option WriteFault
  | [] => none
  | item :: rest => (writeFault? levels item).or (writeFaultItems? levels rest)

/-- The same for the fields of an object. -/
def writeFaultFields? (levels : Nat) : List (String × Json) → Option WriteFault
  | [] => none
  | (_, value) :: rest => (writeFault? levels value).or (writeFaultFields? levels rest)
end

end Json

end SourceLayers
