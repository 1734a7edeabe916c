import InputDemand.App.Screen
import InputDemand.Main
import InputDemand.Proofs.Demand.Trail
import InputDemand.Proofs.Demand.Order
import InputDemand.Proofs.Demand.Stability
import InputDemand.Proofs.Demand.OrderedPlan
import InputDemand.Proofs.Session.Calls
import InputDemand.Proofs.Session.Script
import InputDemand.Proofs.Execution.Dispatch
import InputDemand.Proofs.Pattern.Matches
import InputDemand.Proofs.Source.Brackets
import InputDemand.Proofs.Source.Mask
import InputDemand.Proofs.Source.Clean
import InputDemand.Proofs.Source.Sever
import InputDemand.Proofs.Source.Body
import InputDemand.Proofs.Recognition.Headers
import InputDemand.Proofs.Source.Literal
import InputDemand.Proofs.Source.Arguments
import InputDemand.Proofs.Source.Calls
import InputDemand.Proofs.Recognition.Calls
import InputDemand.Proofs.Recognition.Loops
import InputDemand.Proofs.Demand.Silence
import InputDemand.Proofs.Demand.Outline
import InputDemand.Proofs.Demand.Masking
import InputDemand.Proofs.Source.Sites
import InputDemand.Proofs.Demand.Cuts
import InputDemand.Proofs.App.Turns
import InputDemand.Proofs.Text.Names
import InputDemand.Proofs.Pattern.Rounds
import InputDemand.Proofs.Pattern.Hunt
import InputDemand.Proofs.Program.Template
import InputDemand.Proofs.Program.Traces
import InputDemand.Proofs.Program.Sure
import InputDemand.Proofs.Program.Brackets
import InputDemand.Proofs.Program.Counted
import InputDemand.Proofs.Program.Search
import InputDemand.Proofs.Program.Reads
import InputDemand.Proofs.Program.Clauses
import InputDemand.Proofs.Program.Body
import InputDemand.Proofs.Program.Loops
import InputDemand.Proofs.Program.Outline
import InputDemand.Proofs.Program.Plan
import InputDemand.Proofs.Session.Lines
import InputDemand.Proofs.Demand.Walks
import InputDemand.Proofs.Demand.Influence
import InputDemand.Proofs.Demand.Exits
import InputDemand.Proofs.Session.Waiting
import InputDemand.Proofs.Loop.Expression
import InputDemand.Proofs.Loop.Passes
import InputDemand.Proofs.Loop.Range
import InputDemand.Proofs.Source.Alignment
import InputDemand.Proofs.Source.Delimiters
import InputDemand.Proofs.Source.Bindings
import InputDemand.Proofs.Demand.Bodies
import InputDemand.Proofs.Source.Escapes
import InputDemand.Proofs.Loop.Sequence
import InputDemand.Proofs.Pattern.First
import InputDemand.Proofs.Loop.Spellings
import InputDemand.Proofs.Loop.Conditions
import InputDemand.Proofs.Loop.Starts
import InputDemand.Proofs.Loop.Headers
import InputDemand.Proofs.Demand.Progress
import InputDemand.Proofs.Text.Lines
import InputDemand.Proofs.Demand.LineNumbers
import InputDemand.Proofs.Source.RawLiterals
import InputDemand.Proofs.Json.RoundTrip
import InputDemand.Proofs.Execution.Wire
import InputDemand.Proofs.Pattern.Covers
import InputDemand.Proofs.Loop.Declarations
import InputDemand.Proofs.Loop.Deciding
import InputDemand.Proofs.Loop.Readings
import InputDemand.Proofs.Loop.Elements
import InputDemand.Proofs.Loop.Sizes
import InputDemand.Proofs.Screen.Rows
import InputDemand.Proofs.Pane.Highlight
import InputDemand.Proofs.Pane.Window
import InputDemand.Proofs.Pane.Cursor
import InputDemand.Proofs.Command.Options
import InputDemand.Proofs.Recognition.Sweeps
import InputDemand.Proofs.Loop.Forms
import InputDemand.Proofs.Loop.Arithmetic
import InputDemand.Proofs.Source.Nesting
import InputDemand.Proofs.Source.Suites
