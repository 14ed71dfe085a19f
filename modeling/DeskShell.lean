import DeskShell.Builtin.About
import DeskShell.Builtin.Copy
import DeskShell.Builtin.Create
import DeskShell.Builtin.Filters
import DeskShell.Builtin.Find
import DeskShell.Builtin.Grep
import DeskShell.Builtin.Listing
import DeskShell.Builtin.Move
import DeskShell.Builtin.Navigate
import DeskShell.Builtin.Program
import DeskShell.Builtin.Remove
import DeskShell.Builtin.Screen
import DeskShell.Builtin.Tree
import DeskShell.Calendar
import DeskShell.Command.Args
import DeskShell.Command.Line
import DeskShell.Command.Token
import DeskShell.Fault
import DeskShell.Glob
import DeskShell.Main
import DeskShell.Node
import DeskShell.Path
import DeskShell.Pattern.Basic
import DeskShell.Pattern.Branch
import DeskShell.Pattern.Folding
import DeskShell.Pattern.Matching
import DeskShell.Pattern.Reader
import DeskShell.Proofs.Accounts
import DeskShell.Proofs.Additions
import DeskShell.Proofs.Addresses
import DeskShell.Proofs.Answers
import DeskShell.Proofs.Commands
import DeskShell.Proofs.Containment
import DeskShell.Proofs.CopiedTrees
import DeskShell.Proofs.Copying
import DeskShell.Proofs.Cycles
import DeskShell.Proofs.Desktop
import DeskShell.Proofs.Dialogues
import DeskShell.Proofs.Edges
import DeskShell.Proofs.EmptySlots
import DeskShell.Proofs.Excerpts
import DeskShell.Proofs.Expressions
import DeskShell.Proofs.Filtering
import DeskShell.Proofs.FolderParts
import DeskShell.Proofs.Forest
import DeskShell.Proofs.FoundPaths
import DeskShell.Proofs.Frames
import DeskShell.Proofs.FreshIds
import DeskShell.Proofs.Guards
import DeskShell.Proofs.HalfMoves
import DeskShell.Proofs.Handlers
import DeskShell.Proofs.LastExit
import DeskShell.Proofs.Leads
import DeskShell.Proofs.Lines
import DeskShell.Proofs.Losses
import DeskShell.Proofs.LostCopies
import DeskShell.Proofs.Lowering
import DeskShell.Proofs.Makings
import DeskShell.Proofs.Moves
import DeskShell.Proofs.Numerals
import DeskShell.Proofs.Order
import DeskShell.Proofs.Outcomes
import DeskShell.Proofs.Piping
import DeskShell.Proofs.Places
import DeskShell.Proofs.PlainLines
import DeskShell.Proofs.Printing
import DeskShell.Proofs.Programs
import DeskShell.Proofs.Purges
import DeskShell.Proofs.Redirects
import DeskShell.Proofs.Refusals
import DeskShell.Proofs.Reliable
import DeskShell.Proofs.Removals
import DeskShell.Proofs.Renaming
import DeskShell.Proofs.Requests
import DeskShell.Proofs.Resolving
import DeskShell.Proofs.Restores
import DeskShell.Proofs.RoundTrips
import DeskShell.Proofs.RunLengths
import DeskShell.Proofs.Runs
import DeskShell.Proofs.Seams
import DeskShell.Proofs.Selections
import DeskShell.Proofs.SelfMoves
import DeskShell.Proofs.Sequences
import DeskShell.Proofs.Shares
import DeskShell.Proofs.Siblings
import DeskShell.Proofs.Sound
import DeskShell.Proofs.Spellings
import DeskShell.Proofs.SplitPaths
import DeskShell.Proofs.Stages
import DeskShell.Proofs.Steps
import DeskShell.Proofs.Switches
import DeskShell.Proofs.SystemCopies
import DeskShell.Proofs.SystemItems
import DeskShell.Proofs.Tallies
import DeskShell.Proofs.Tokens
import DeskShell.Proofs.Trails
import DeskShell.Proofs.Trimming
import DeskShell.Proofs.Untouched
import DeskShell.Proofs.Visits
import DeskShell.Proofs.WholeNames
import DeskShell.Proofs.Widening
import DeskShell.Proofs.Wildcards
import DeskShell.Proofs.WorkingFolder
import DeskShell.Proofs.WrittenOut
import DeskShell.Shell.Call
import DeskShell.Shell.Engine
import DeskShell.Shell.Host
import DeskShell.Shell.Inquiry
import DeskShell.Shell.Registry
import DeskShell.Shell.Resolve
import DeskShell.Shell.Session
import DeskShell.Store.Basic
import DeskShell.Store.Desktop
import DeskShell.Store.Edit
import DeskShell.Store.Walk
import DeskShell.Table
import DeskShell.Terminal.Interact
import DeskShell.Terminal.Invocation
import DeskShell.Terminal.Log
import DeskShell.Text.Blank
import DeskShell.Text.Case
import DeskShell.Text.CaseMap
import DeskShell.Text.Digit
import DeskShell.Text.Identifier
import DeskShell.Text.Integer
import DeskShell.Text.Letter
import DeskShell.Text.Lines
import DeskShell.Text.Magnitude
import DeskShell.Text.Name
import DeskShell.Text.Pad
import DeskShell.Text.Printable
import DeskShell.Text.Quoted
import DeskShell.Text.Range
