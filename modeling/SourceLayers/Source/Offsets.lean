/-
Texts with their UTF-8 form and the offset maps between the two:

* `SourceText`: a text, its octets, and the two tables, which are left out where octets and
  characters agree one to one;
* `SourceText.ofText`: the tables of a text;
* `SourceText.ofTables`: given tables, whose lengths are checked;
* `charOffset`, `octetOffset`: the maps. An index below zero counts from the end of the table, and
  an index that the table does not have is a fault.
-/
import SourceLayers.Text.Slice
import SourceLayers.Text.Utf8

namespace SourceLayers

/-- A table of the wrong length. -/
inductive TableFault where
  | octetTable
  | charTable
  deriving DecidableEq, Repr

/-- The wording of a table fault. -/
def TableFault.message : TableFault → String
  | .octetTable => "byte_to_char length must equal len(encoded) + 1"
  | .charTable => "char_to_byte length must equal len(text) + 1"

/-- A text, its UTF-8 form, and the offset tables. A table has one entry for every offset and one
for the end. -/
structure SourceText where
  chars : List Char
  octets : List UInt8
  octetToChar : Option (Array Int)
  charToOctet : Option (Array Int)
  octetToChar_length : ∀ table, octetToChar = some table → table.size = octets.length + 1
  charToOctet_length : ∀ table, charToOctet = some table → table.size = chars.length + 1

/-- The character offset of every octet, and the end, for a text whose first character has offset
`i`. -/
def octetTable (i : Nat) : List Char → List Int
  | [] => [(i : Int)]
  | c :: rest =>
    List.replicate (String.utf8EncodeChar c).length (i : Int) ++ octetTable (i + 1) rest

/-- The octet offset of every character, and the end, for a text whose first octet has offset
`b`. -/
def charTable (b : Nat) : List Char → List Int
  | [] => [(b : Int)]
  | c :: rest => (b : Int) :: charTable (b + (String.utf8EncodeChar c).length) rest

/-- The table from octets to characters has an entry for every octet and one for the end. -/
theorem length_octetTable (i : Nat) (text : List Char) :
    (octetTable i text).length = (encodeUtf8 text).length + 1 := by
  induction text generalizing i with
  | nil => rfl
  | cons c rest ih => simp [octetTable, encodeUtf8, ih, Nat.add_assoc]

/-- The table from characters to octets has an entry for every character and one for the end. -/
theorem length_charTable (b : Nat) (text : List Char) :
    (charTable b text).length = text.length + 1 := by
  induction text generalizing b with
  | nil => rfl
  | cons c rest ih => simp [charTable, ih]

namespace SourceText

/-- A text with its tables; both are left out where every character is one octet. -/
def ofText (chars : List Char) : SourceText :=
  let octets := encodeUtf8 chars
  if octets.length = chars.length then
    ⟨chars, octets, none, none, nofun, nofun⟩
  else
    { chars
      octets := encodeUtf8 chars
      octetToChar := some (octetTable 0 chars).toArray
      charToOctet := some (charTable 0 chars).toArray
      octetToChar_length := by
        intro table h
        cases h
        simpa using length_octetTable 0 chars
      charToOctet_length := by
        intro table h
        cases h
        simpa using length_charTable 0 chars }

/-- A text with given octets and tables. Only the lengths of the tables are checked, that of the
table from octets to characters first. -/
def ofTables (chars : List Char) (octets : List UInt8)
    (octetToChar charToOctet : Option (Array Int)) : Except TableFault SourceText :=
  if h₁ : ∀ table, octetToChar = some table → table.size = octets.length + 1 then
    if h₂ : ∀ table, charToOctet = some table → table.size = chars.length + 1 then
      .ok ⟨chars, octets, octetToChar, charToOctet, h₁, h₂⟩
    else .error .charTable
  else .error .octetTable

/-- Whether the table from octets to characters is left out. -/
def isPlain (source : SourceText) : Bool :=
  source.octetToChar.isNone

/-- An offset through a table; the absent table maps every offset to itself. -/
def through (table : Option (Array Int)) (offset : Int) : Except OffsetFault Int :=
  match table with
  | none => .ok offset
  | some entries =>
    match entryAt? entries offset with
    | some entry => .ok entry
    | none => .error ⟨offset⟩

/-- The character offset of an octet offset. -/
def charOffset (source : SourceText) (offset : Int) : Except OffsetFault Int :=
  through source.octetToChar offset

/-- The octet offset of a character offset. -/
def octetOffset (source : SourceText) (offset : Int) : Except OffsetFault Int :=
  through source.charToOctet offset

end SourceText

end SourceLayers
