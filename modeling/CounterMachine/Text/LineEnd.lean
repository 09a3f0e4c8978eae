/-!
# Line ends

Stored text may end its lines in the Unix, DOS or old Macintosh way. Reading a file turns all three
into the single line feed at which a listing is split.
-/

namespace CounterMachine.Text

/-- Turn every carriage return, with the line feed after it if there is one, into a line feed. -/
def normalizeLineEnds : List Char → List Char
  | [] => []
  | '\r' :: '\n' :: rest => '\n' :: normalizeLineEnds rest
  | '\r' :: rest => '\n' :: normalizeLineEnds rest
  | char :: rest => char :: normalizeLineEnds rest

end CounterMachine.Text
