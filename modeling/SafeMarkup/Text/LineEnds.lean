/-!
# Ends of lines

* `unifyLineEnds` — a text in which every line ends with a line feed.
-/

namespace SafeMarkup

/-- Writes a line feed for every carriage return, and for every carriage return that a line feed
follows. -/
def unifyLineEnds : List Char → List Char
  | '\r' :: '\n' :: rest => '\n' :: unifyLineEnds rest
  | '\r' :: rest => '\n' :: unifyLineEnds rest
  | c :: rest => c :: unifyLineEnds rest
  | [] => []

end SafeMarkup
