import CounterMachine.Elimination.Report
import CounterMachine.Launch
import CounterMachine.Library.Catalog
import CounterMachine.Listing.Parser
import CounterMachine.Listing.Printer

/-!
# The playground

A page on which a listing is edited, given tapes, a state and fuel, and run. This module computes
the three texts of the page from its input fields, and the fields of the examples on offer.
-/

namespace CounterMachine.Playground

open Text.Numeral (text listText)

/-- What an input field for a number can hold. -/
inductive Field where
  | scalar (value : Scalar)
  | list
  | record
  deriving DecidableEq

/-- Why a field holds no number. -/
inductive FieldError where
  | numeral (error : Text.Numeral.Error)
  /-- The field holds a floating-point number without an integer part. -/
  | floating (error : Text.Binary64.TruncateError)
  /-- The field holds something of a kind that is never a number. -/
  | kind (name : String)
  deriving DecidableEq

def FieldError.message : FieldError → String
  | .numeral error => error.message
  | .floating error => error.message
  | .kind name =>
      "int() argument must be a string, a bytes-like object or a real number, not '" ++ name ++ "'"

/-- The whole number in a field. Floating-point numbers lose their places, truth values count as 0
and 1, and texts are read as numerals. -/
def Field.toInt : Field → Except FieldError Int
  | .scalar (.integer value) => .ok value
  | .scalar (.truth value) => .ok (if value then 1 else 0)
  | .scalar (.floating value) => value.truncate.mapError .floating
  | .scalar (.text value) => (Text.Numeral.read value.toList).mapError .numeral
  | .scalar .absent => .error (.kind "NoneType")
  | .scalar .blank | .list => .error (.kind "list")
  | .record => .error (.kind "dict")

/-- The input fields of the page. -/
structure Form where
  source : String
  tapes : String
  state : Field
  fuel : Field
  /-- Whether to run the single-state form. -/
  eliminate : Bool

/-- The texts of the page. -/
structure Page where
  summary : String
  trace : String
  /-- Listing of the single-state form, if that is what was run. -/
  encoded : String
  deriving DecidableEq

def Page.ofError (message : String) (encoded : String := "") : Page where
  summary := "Error: " ++ message
  trace := ""
  encoded := encoded

/-- What the page cannot show. -/
inductive Failure where
  | field (error : FieldError)
  | elimination (error : Elimination.Error)
  | run (error : RunError)
  | decoding (error : Elimination.DecodeError)
  deriving DecidableEq

/-- The most firings that the page shows. -/
def traceLimit : Nat := 100

def firingLines (firing : Firing) : List String :=
  match firing.before, firing.after with
  | some before, some after =>
      let changes := counterChanges " -> " before.counters after.counters
      ["\n--- Step " ++ text firing.step ++ " (state " ++ text before.state ++ ") ---",
        "Rule " ++ text firing.ruleIndex ++ ": " ++ firing.rule.text] ++
      (if changes.isEmpty then [] else ["Changes: " ++ String.intercalate ", " changes])
  | _, _ => []

/-- Text of a trace, cut after `traceLimit` firings. -/
def traceText (trace : Array Firing) : String :=
  let shown := (trace.toList.take traceLimit).flatMap firingLines
  let more :=
    if traceLimit < trace.size then
      ["\n... (" ++ text (trace.size - traceLimit : Nat) ++ " more entries)"]
    else []
  String.intercalate "\n" (["EXECUTION TRACE", ruler 60 '='] ++ shown ++ more)

def standingLines (session : Session) : List String :=
  let summary := session.summary
  ["EXECUTION SUMMARY", ruler 40 '=', "Steps: " ++ text summary.steps,
    "Halted: " ++ (if summary.halted then "Yes" else "No"),
    "State: " ++ optionText summary.state, "Tapes: " ++ listText summary.counters]

/-- Run a loaded session and lay out the page. -/
def present (program : Program) (eliminated : Bool) (encoded : String) (loaded : Session) :
    Except Failure Page :=
  match loaded.run with
  | (.ok (), final) => do
      let source ←
        if eliminated then (Elimination.sourceLines program final).mapError .decoding else pure []
      return {
        summary := String.intercalate "\n" (standingLines final ++ source)
        trace := traceText final.trace
        encoded }
  | (.error error, final) =>
      .ok {
        summary := String.intercalate "\n"
          (standingLines final ++ ["\nRuntime: " ++ error.message])
        trace := traceText final.trace
        encoded }

/-- Open a session and run it. What does not fit is shown on the page. -/
def launchPage (program : Program) (eliminated : Bool) (encoded : String) (launch : Launch) :
    Except Failure Page :=
  match launch.session true with
  | .error (.malformed (.defective defect)) => .ok (Page.ofError defect.message encoded)
  | .error error => .error (.run error)
  | .ok loaded => present program eliminated encoded loaded

/-- Why there is nothing to run. -/
inductive FormError where
  | noProgram
  | listing (error : Listing.ParseError)
  | state (error : FieldError)
  | tapes (error : Text.Numeral.Error)
  deriving DecidableEq

def FormError.message : FormError → String
  | .noProgram => "No program provided"
  | .listing error => error.message
  | .state error => error.message
  | .tapes error => error.message

/-- The program and the machine that the form describes. The listing is read first, then the state,
then the tapes. -/
def Form.read (form : Form) : Except FormError (Program × Machine) := do
  if form.source.toList.all Text.isBlank then throw .noProgram
  let program ← (Listing.parseText form.source).mapError .listing
  let state ← form.state.toInt.mapError .state
  let counters ← (Text.Numeral.readList form.tapes.toList).mapError .tapes
  return (program, { state, counters })

/-- The page for an error in the form. An infinite state is not shown. -/
def FormError.page : FormError → Except Failure Page
  | .state (.floating .infinite) => .error (.field (.floating .infinite))
  | error => .ok (Page.ofError error.message)

/-- Launch the single-state form of a run. A machine that does not fit is shown on the page. -/
def eliminatedPage (launch : Launch) : Except Failure Page :=
  match launch.eliminate with
  | .ok single =>
      launchPage launch.program true (Listing.formatText single.program) single
  | .error (.malformed (.defective defect)) => .ok (Page.ofError defect.message)
  | .error error => .error (.elimination error)

/-- The page after a run of the form. Fuel is looked at only once the program, the tapes and the
state are in order. -/
def run (form : Form) : Except Failure Page :=
  match form.read with
  | .error error => error.page
  | .ok (program, machine) => do
      let fuel ← form.fuel.toInt.mapError .field
      let launch : Launch := { program, machine := machine.toDraft, fuel }
      if form.eliminate then eliminatedPage launch else launchPage program false "" launch

/-- The examples on offer and the inputs they are shown with. -/
def exampleInputs : List (String × Int × Int) :=
  [("adder", 3, 4), ("mult", 7, 11), ("six_rule_mult", 7, 11)]

/-- The listing and the tapes of an example; both are empty for a name that is not on offer. -/
def exampleFields (name : String) : String × String :=
  if name == "Custom" then ("tapes: 1\n", "0")
  else
    match exampleInputs.lookup name, Library.Catalog.standard.entry name with
    | some (x, y), .ok entry =>
        (Listing.formatText entry.program,
          String.intercalate "," ((entry.counters x y).map text))
    | _, _ => ("", "")

end CounterMachine.Playground
