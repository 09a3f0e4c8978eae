import CounterMachine.Listing.Parser
import CounterMachine.Text.LineEnd
import CounterMachine.Text.Utf8

/-!
# Listings in files

What a file name leads to, and reading the listing that a file holds: the bytes are decoded, the
line ends made uniform, and the text parsed.
-/

namespace CounterMachine.Listing

/-- What stands under a file name. -/
inductive StoredFile where
  | missing
  | directory
  /-- No file can have this name. -/
  | nameTooLong
  | contents (bytes : ByteArray)

/-- Why no program can be read from a file. -/
inductive ReadError where
  | missing
  | directory
  | nameTooLong
  | undecodable (fault : Text.Utf8.Fault)
  | unparsable (error : ParseError)
  deriving DecidableEq

def readBytes (bytes : ByteArray) : Except ReadError Program :=
  match Text.Utf8.decode bytes with
  | .error fault => .error (.undecodable fault)
  | .ok text => (parse (Text.normalizeLineEnds text.toList)).mapError .unparsable

def readStored : StoredFile → Except ReadError Program
  | .missing => .error .missing
  | .directory => .error .directory
  | .nameTooLong => .error .nameTooLong
  | .contents bytes => readBytes bytes

end CounterMachine.Listing
