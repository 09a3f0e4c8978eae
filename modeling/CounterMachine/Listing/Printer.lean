import CounterMachine.Program

/-!
# Writing a listing

The listing of a program has the header first and one line per rule, with the adjustments of all
rules padded to one width so that they stand in columns.
-/

namespace CounterMachine.Listing

/-- The width of the widest adjustment; one if there is none. -/
def columnWidth (program : Program) : Nat :=
  let widths := program.rules.flatMap fun rule =>
    rule.adjustments.map fun amount => (Text.Numeral.write amount).length
  if widths.isEmpty then 1 else widths.foldl max 0

def padLeft (width : Nat) (text : List Char) : List Char :=
  List.replicate (width - text.length) ' ' ++ text

/-- One line for a rule, its adjustments padded to a width. -/
def ruleLine (width : Nat) (rule : Rule) : List Char :=
  let amounts := rule.adjustments.map fun amount => padLeft width (Text.Numeral.write amount)
  Text.Numeral.write rule.source ++ ' ' :: '[' :: List.intercalate [',', ' '] amounts ++
    ']' :: ' ' :: Text.Numeral.write rule.target

/-- The listing of a program; every line ends in a line feed. -/
def format (program : Program) : List Char :=
  let lines := program.header :: program.rules.map (ruleLine (columnWidth program))
  lines.flatMap fun line => line ++ ['\n']

def formatText (program : Program) : String :=
  String.ofList (format program)

end CounterMachine.Listing
