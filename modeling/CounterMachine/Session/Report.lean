import CounterMachine.Session

/-!
# Reports on a session

The trace of a session in words, and the figures with which a run is summed up.
-/

namespace CounterMachine

open Text.Numeral (text listText)

/-- The counters that differ between two machines, as `tape: old arrow new`. -/
def counterChanges (arrow : String) (before after : List Int) : List String :=
  (before.zip after).zipIdx.filterMap fun ((old, new), tape) =>
    if old = new then none
    else some ("T" ++ text tape ++ ": " ++ text old ++ arrow ++ text new)

def truthText (value : Bool) : String :=
  if value then "True" else "False"

def optionText : Option Int → String
  | some value => text value
  | none => "None"

def ruler (length : Nat) (char : Char) : String :=
  String.ofList (List.replicate length char)

/-- Every line with a line feed after it. -/
def unlines (lines : List String) : String :=
  String.join (lines.map (· ++ "\n"))

/-- The lines of a trace report for one firing. -/
def Firing.reportLines (firing : Firing) : List String :=
  let heading := "\n[Step " ++ text firing.step ++ "] rule " ++ text firing.ruleIndex ++ ": " ++
    firing.rule.text
  match firing.before, firing.after with
  | some before, some after =>
      let changes := counterChanges " → " before.counters after.counters
      let changeLines :=
        if changes.isEmpty then [] else ["  Changes: " ++ String.intercalate ", " changes]
      let stateLines :=
        if before.state = after.state then []
        else ["  State: " ++ text before.state ++ " → " ++ text after.state]
      heading :: (changeLines ++ stateLines)
  | _, _ => [heading]

namespace Session

/-- The trace report: every recorded firing, then where the session stands. -/
def report (session : Session) : String :=
  let line := ruler 70 '='
  let final :=
    match session.machine with
    | none => []
    | some machine =>
        ["  State: " ++ text machine.state, "  Tapes: " ++ listText machine.counters,
          "  Steps: " ++ text session.steps, "  Halted: " ++ truthText session.halted]
  unlines ([line, "MINSKY MACHINE EXECUTION TRACE", line] ++
    session.trace.toList.flatMap Firing.reportLines ++
    ["\n" ++ line, "FINAL STATE", line] ++ final)

/-- The figures of a run. -/
structure Summary where
  steps : Nat
  halted : Bool
  /-- The control state, if a machine is loaded. -/
  state : Option Int
  counters : List Int
  fuel : Int
  traceLength : Nat
  deriving DecidableEq

def summary (session : Session) : Summary where
  steps := session.steps
  halted := session.halted
  state := session.machine.map Machine.state
  counters := (session.machine.map Machine.counters).getD []
  fuel := session.fuel
  traceLength := session.trace.size

end Session

end CounterMachine
