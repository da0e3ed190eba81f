/-
JSON text:

* `Json.compact`: a value on one line, without blanks;
* `Json.pretty`: a value with one item to a line, two blanks deeper at each level.

Only what cannot stand in a text as it is gets escaped: the quote, the backslash, and the controls
below the blank.
-/
import SourceLayers.Json.Basic
import SourceLayers.Text.Quoted

namespace SourceLayers.Json

/-- A character in a text. -/
def escapeChar (c : Char) : List Char :=
  if c = '"' then ['\\', '"']
  else if c = '\\' then ['\\', '\\']
  else if c = '\n' then ['\\', 'n']
  else if c = '\r' then ['\\', 'r']
  else if c = '\t' then ['\\', 't']
  else if c.toNat = 8 then ['\\', 'b']
  else if c.toNat = 12 then ['\\', 'f']
  else if c.toNat < 32 then '\\' :: 'u' :: hexDigits 4 c.toNat
  else [c]

/-- A text between quotes. -/
def renderText (text : String) : List Char :=
  '"' :: text.toList.flatMap escapeChar ++ ['"']

mutual
/-- A value on one line, without blanks. -/
def compact : Json → List Char
  | .null => "null".toList
  | .bool true => "true".toList
  | .bool false => "false".toList
  | .int value => (toString value).toList
  | .decimal value => value.render
  | .str text => renderText text
  | .arr items => '[' :: compactItems false items
  | .obj fields => '\x7b' :: compactFields false fields

/-- The items of a list up to its end; `more` says whether there are items before them. -/
def compactItems (more : Bool) : List Json → List Char
  | [] => [']']
  | item :: rest => (if more then [','] else []) ++ compact item ++ compactItems true rest

/-- The fields of an object up to its end. -/
def compactFields (more : Bool) : List (String × Json) → List Char
  | [] => ['\x7d']
  | (name, value) :: rest =>
    (if more then [','] else []) ++ renderText name ++ ':' :: compact value ++
      compactFields true rest
end

/-- A line feed and the blanks at the start of a line of the given depth. -/
def newLine (depth : Nat) : List Char :=
  '\n' :: List.replicate (2 * depth) ' '

mutual
/-- A value laid out over lines; `depth` is that of the line it begins on. -/
def prettyAt (depth : Nat) : Json → List Char
  | .arr [] => ['[', ']']
  | .arr (item :: rest) =>
    '[' :: newLine (depth + 1) ++ prettyAt (depth + 1) item ++ prettyItems depth rest
  | .obj [] => ['\x7b', '\x7d']
  | .obj ((name, value) :: rest) =>
    '\x7b' :: newLine (depth + 1) ++ renderText name ++ ':' :: ' ' :: prettyAt (depth + 1) value ++
      prettyFields depth rest
  | .null => "null".toList
  | .bool true => "true".toList
  | .bool false => "false".toList
  | .int value => (toString value).toList
  | .decimal value => value.render
  | .str text => renderText text

/-- The further items of a list up to its end. -/
def prettyItems (depth : Nat) : List Json → List Char
  | [] => newLine depth ++ [']']
  | item :: rest =>
    ',' :: newLine (depth + 1) ++ prettyAt (depth + 1) item ++ prettyItems depth rest

/-- The further fields of an object up to its end. -/
def prettyFields (depth : Nat) : List (String × Json) → List Char
  | [] => newLine depth ++ ['\x7d']
  | (name, value) :: rest =>
    ',' :: newLine (depth + 1) ++ renderText name ++ ':' :: ' ' :: prettyAt (depth + 1) value ++
      prettyFields depth rest
end

/-- A value laid out over lines. -/
def pretty (value : Json) : List Char :=
  prettyAt 0 value

end SourceLayers.Json
