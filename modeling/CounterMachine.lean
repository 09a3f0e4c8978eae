import CounterMachine.Acceptance
import CounterMachine.CommandLine.Arguments
import CounterMachine.CommandLine.Command
import CounterMachine.CommandLine.Options
import CounterMachine.Defect
import CounterMachine.Draft
import CounterMachine.Elimination
import CounterMachine.Elimination.Emulated
import CounterMachine.Elimination.Report
import CounterMachine.Index
import CounterMachine.Launch
import CounterMachine.Library.Arithmetic
import CounterMachine.Library.Catalog
import CounterMachine.Listing.File
import CounterMachine.Listing.Line
import CounterMachine.Listing.Parser
import CounterMachine.Listing.Printer
import CounterMachine.Machine
import CounterMachine.Main
import CounterMachine.Playground
import CounterMachine.Program
import CounterMachine.Proofs.Addition
import CounterMachine.Proofs.Agreement
import CounterMachine.Proofs.Budget
import CounterMachine.Proofs.Computation
import CounterMachine.Proofs.Conservation
import CounterMachine.Proofs.Decoding
import CounterMachine.Proofs.Defects
import CounterMachine.Proofs.Equivalence
import CounterMachine.Proofs.Failure
import CounterMachine.Proofs.Firing
import CounterMachine.Proofs.FirstFault
import CounterMachine.Proofs.Grammar
import CounterMachine.Proofs.History
import CounterMachine.Proofs.InlineSource
import CounterMachine.Proofs.Iteration
import CounterMachine.Proofs.LineEnds
import CounterMachine.Proofs.Multiplication
import CounterMachine.Proofs.Numbering
import CounterMachine.Proofs.Numeral
import CounterMachine.Proofs.Outcome
import CounterMachine.Proofs.Parsing
import CounterMachine.Proofs.Ranks
import CounterMachine.Proofs.Recording
import CounterMachine.Proofs.Reference
import CounterMachine.Proofs.Registration
import CounterMachine.Proofs.Remarks
import CounterMachine.Proofs.Renaming
import CounterMachine.Proofs.Repetition
import CounterMachine.Proofs.Replay
import CounterMachine.Proofs.Reporting
import CounterMachine.Proofs.Result
import CounterMachine.Proofs.RoundTrip
import CounterMachine.Proofs.Safety
import CounterMachine.Proofs.Settings
import CounterMachine.Proofs.Simulation
import CounterMachine.Proofs.Token
import CounterMachine.Session
import CounterMachine.Session.Action
import CounterMachine.Session.Report
import CounterMachine.Text.Binary64
import CounterMachine.Text.Blank
import CounterMachine.Text.Digit
import CounterMachine.Text.LineEnd
import CounterMachine.Text.Numeral
import CounterMachine.Text.Printable
import CounterMachine.Text.Quoted
import CounterMachine.Text.Shortest
import CounterMachine.Text.Utf8
