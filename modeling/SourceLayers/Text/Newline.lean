/-
Line ends: `unifyNewlines` turns every carriage return, with the line feed after it if there is
one, into a single line feed.
-/

namespace SourceLayers

/-- The text with every line end written as a line feed. -/
def unifyNewlines : List Char → List Char
  | '\r' :: '\n' :: rest => '\n' :: unifyNewlines rest
  | '\r' :: rest => '\n' :: unifyNewlines rest
  | c :: rest => c :: unifyNewlines rest
  | [] => []

end SourceLayers
