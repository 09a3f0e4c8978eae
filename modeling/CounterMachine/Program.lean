import CounterMachine.Text.Numeral

/-!
# Programs

A counter machine has a control state and a row of counters, one per tape. A program is a list of
rules in order of priority. A rule belongs to one state, adds a signed amount to every counter and
names the next state; a negative amount is at the same time a guard, for the counter must hold
that much.

States, tape counts and amounts are plain integers here. Which programs make sense is said by
`Program.WellFormed`.
-/

namespace CounterMachine

/-- The largest value of a counter and of an adjustment, that of a 32-bit signed integer. -/
def maxValue : Int := 2147483647

/-- The smallest adjustment, that of a 32-bit signed integer. -/
def minValue : Int := -2147483648

/-- A transition rule. -/
structure Rule where
  /-- State in which the rule may fire. -/
  source : Int
  /-- State after the rule has fired. -/
  target : Int
  /-- Signed amount for each tape. -/
  adjustments : List Int
  deriving DecidableEq

namespace Rule

def width (rule : Rule) : Nat :=
  rule.adjustments.length

/-- Whether the rule leaves the control state as it is. -/
def isSelfLoop (rule : Rule) : Bool :=
  rule.source == rule.target

/-- One-line text of a rule: source, bracketed adjustments, target. -/
def write (rule : Rule) : List Char :=
  Text.Numeral.write rule.source ++ ' ' :: Text.Numeral.writeList rule.adjustments ++
    ' ' :: Text.Numeral.write rule.target

def text (rule : Rule) : String :=
  String.ofList rule.write

/-- What a rule of a sensible program for the given number of tapes satisfies. -/
structure WellFormed (tapes : Int) (rule : Rule) : Prop where
  width_eq : (rule.width : Int) = tapes
  source_nonneg : 0 ≤ rule.source
  target_nonneg : 0 ≤ rule.target
  adjustments_bounded : ∀ amount ∈ rule.adjustments, minValue ≤ amount ∧ amount ≤ maxValue

@[simp] theorem isSelfLoop_eq_true {rule : Rule} :
    rule.isSelfLoop = true ↔ rule.source = rule.target := by
  simp [isSelfLoop]

end Rule

/-- A program: a number of tapes and the rules in order of priority. -/
structure Program where
  tapes : Int
  rules : List Rule := []
  deriving DecidableEq

/-- Insert a number into an ascending list, unless it is there already. -/
def insertAscending (value : Int) : List Int → List Int
  | [] => [value]
  | head :: rest =>
      if value < head then value :: head :: rest
      else if value = head then head :: rest
      else head :: insertAscending value rest

@[simp] theorem mem_insertAscending {value other : Int} {values : List Int} :
    other ∈ insertAscending value values ↔ other = value ∨ other ∈ values := by
  induction values with
  | nil => simp [insertAscending]
  | cons head rest ih =>
      rw [insertAscending]
      split
      · simp
      · split
        next equal => simp [equal]
        next => simp only [List.mem_cons, ih]; grind

namespace Program

/-- Every state that some rule mentions, ascending and without repetition. -/
def states (program : Program) : List Int :=
  program.rules.foldr
    (fun rule found => insertAscending rule.source (insertAscending rule.target found)) []

/-- Header line of a program's text. -/
def header (program : Program) : List Char :=
  "tapes: ".toList ++ Text.Numeral.write program.tapes

/-- Plain text of a program: the header and one line per rule. -/
def write (program : Program) : List Char :=
  List.intercalate ['\n'] (program.header :: program.rules.map Rule.write)

def text (program : Program) : String :=
  String.ofList program.write

/-- What a sensible program satisfies: every rule fits the number of tapes. -/
structure WellFormed (program : Program) : Prop where
  tapes_nonneg : 0 ≤ program.tapes
  rules_wellFormed : ∀ rule ∈ program.rules, rule.WellFormed program.tapes

/-- The states of a program are those that its rules mention. -/
theorem mem_states {program : Program} {state : Int} :
    state ∈ program.states ↔
      ∃ rule ∈ program.rules, state = rule.source ∨ state = rule.target := by
  rw [states]
  induction program.rules with
  | nil => simp
  | cons rule rest ih => simp [ih, or_assoc]

end Program

end CounterMachine
