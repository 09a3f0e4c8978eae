import CounterMachine.Session

/-!
# Arithmetic programs

Three programs that compute on their counters, and functions that run them. Each function gives its
program a budget that is always enough, and reads the result off tape `0`.
-/

namespace CounterMachine.Library

/-- Adds: moves tape 1 onto tape 0, one unit at a time. -/
def adderProgram : Program where
  tapes := 2
  rules := [⟨0, 0, [1, -1]⟩]

/-- Multiplies with four rules, on an accumulator, the first factor, a scratch tape and the second
factor less one. State 0 drains the first factor into the accumulator and the scratch tape, state 1
restores it and takes one unit of the second factor. -/
def multiplierProgram : Program where
  tapes := 4
  rules := [
    ⟨0, 0, [1, -1, 1, 0]⟩,
    ⟨0, 1, [0, 0, 0, 0]⟩,
    ⟨1, 1, [0, 1, -1, 0]⟩,
    ⟨1, 0, [0, 0, 0, -1]⟩]

/-- Multiplies with six rules, on an accumulator, the two factors and a scratch tape. State 0 takes
one unit of the second factor per round, state 1 drains the first factor into the accumulator and
the scratch tape, state 2 restores it. Once the second factor is used up, the last rule clears the
first. -/
def sixRuleMultiplierProgram : Program where
  tapes := 4
  rules := [
    ⟨0, 1, [0, 0, -1, 0]⟩,
    ⟨1, 1, [1, -1, 0, 1]⟩,
    ⟨1, 2, [0, 0, 0, 0]⟩,
    ⟨2, 2, [0, 1, 0, -1]⟩,
    ⟨2, 0, [0, 0, 0, 0]⟩,
    ⟨0, 0, [0, -1, 0, 0]⟩]

def adderCounters (x y : Int) : List Int := [x, y]

def multiplierCounters (x y : Int) : List Int := [0, x, 0, y - 1]

def sixRuleMultiplierCounters (x y : Int) : List Int := [0, x, y, 0]

/-- Why a computation has no result. -/
inductive Error where
  | negative (name : String) (value : Int)
  | belowOne (name : String) (value : Int)
  | run (error : RunError)
  deriving DecidableEq

def Error.message : Error → String
  | .negative name value => name ++ " must be non-negative, got " ++ Text.Numeral.text value
  | .belowOne name value => name ++ " must be at least 1, got " ++ Text.Numeral.text value
  | .run error => error.message

/-- The message of a failed computation, unless it would show a number that is too long. -/
def Error.message? (error : Error) : Option String :=
  match error with
  | .negative _ value | .belowOne _ value => Text.Numeral.showing? [value] error.message
  | .run error => error.message?

def checkNonnegative (name : String) (value : Int) : Except Error Unit :=
  if value < 0 then .error (.negative name value) else .ok ()

/-- Run a program in state 0 on the given counters, and read tape 0 of the machine in which it
halts. -/
def compute (program : Program) (counters : List Int) (fuel : Int) : Except Error Int :=
  match interpret ({ counters } : Machine).toDraft program.toDraft fuel with
  | .error error => .error (.run error)
  | .ok (_, machine) => .ok (machine.counters.headD 0)

/-- The sum of two numbers. The rule fires once per unit of `y`. -/
def add (x y : Int) : Except Error Int := do
  checkNonnegative "x" x
  checkNonnegative "y" y
  compute adderProgram (adderCounters x y) (2 * y)

/-- The product of two numbers, the second at least one, with the four-rule program. -/
def multiply (x y : Int) : Except Error Int := do
  checkNonnegative "x" x
  if y < 1 then throw (.belowOne "y" y)
  compute multiplierProgram (multiplierCounters x y) (2 * (x + 1) * y)

/-- The product of two numbers with the six-rule program. -/
def sixRuleMultiply (x y : Int) : Except Error Int := do
  checkNonnegative "x" x
  checkNonnegative "y" y
  compute sixRuleMultiplierProgram (sixRuleMultiplierCounters x y) ((2 * x + 3) * y + x + 1)

end CounterMachine.Library
