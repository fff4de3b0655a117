import LineShell.Builtin
import LineShell.Builtin.ChangeDirectory
import LineShell.Builtin.Exit
import LineShell.Builtin.Help
import LineShell.Builtin.Scripted
import LineShell.Command
import LineShell.CommandLine
import LineShell.CommandLine.Arguments
import LineShell.Console
import LineShell.Editor
import LineShell.Errno
import LineShell.Error
import LineShell.History
import LineShell.Job
import LineShell.Job.Tokenize
import LineShell.Kernel
import LineShell.Line.Rubout
import LineShell.Line.Source
import LineShell.Line.Terminated
import LineShell.Machine.Awk.Fields
import LineShell.Machine.Awk.Number
import LineShell.Machine.Awk.Pattern
import LineShell.Machine.Awk.Reader
import LineShell.Machine.Awk.Running
import LineShell.Machine.Awk.Source
import LineShell.Machine.Awk.State
import LineShell.Machine.Awk.Table
import LineShell.Machine.Awk.Token
import LineShell.Machine.Awk.Tree
import LineShell.Machine.Awk.Value
import LineShell.Machine.Class
import LineShell.Machine.Decimal
import LineShell.Machine.Edit.Script
import LineShell.Machine.FileTree
import LineShell.Machine.FileTree.Change
import LineShell.Machine.Format
import LineShell.Machine.Glob
import LineShell.Machine.Image
import LineShell.Machine.Installed
import LineShell.Machine.Mode
import LineShell.Machine.Numeral
import LineShell.Machine.Options
import LineShell.Machine.Order
import LineShell.Machine.Program
import LineShell.Machine.Quoting
import LineShell.Machine.Raw
import LineShell.Machine.Regex
import LineShell.Machine.Regex.Parse
import LineShell.Machine.Running
import LineShell.Machine.Script.Arguments
import LineShell.Machine.Script.Arithmetic
import LineShell.Machine.Script.Calling
import LineShell.Machine.Script.Children
import LineShell.Machine.Script.Expansion
import LineShell.Machine.Script.Finding
import LineShell.Machine.Script.Grammar
import LineShell.Machine.Script.Judging
import LineShell.Machine.Script.Places
import LineShell.Machine.Script.Printing
import LineShell.Machine.Script.Reader
import LineShell.Machine.Script.Redirecting
import LineShell.Machine.Script.Running
import LineShell.Machine.Script.Signalling
import LineShell.Machine.Script.Source
import LineShell.Machine.Script.State
import LineShell.Machine.Script.Tree
import LineShell.Machine.Script.Variables
import LineShell.Machine.Search
import LineShell.Machine.Signal
import LineShell.Machine.Size
import LineShell.Machine.Stat
import LineShell.Machine.System
import LineShell.Machine.TabStops
import LineShell.Machine.Table
import LineShell.Machine.Tool
import LineShell.Machine.Tool.Choosing
import LineShell.Machine.Tool.Comparing
import LineShell.Machine.Tool.Copying
import LineShell.Machine.Tool.Counting
import LineShell.Machine.Tool.Cutting
import LineShell.Machine.Tool.Dumping
import LineShell.Machine.Tool.Editing
import LineShell.Machine.Tool.Judging
import LineShell.Machine.Tool.Listing
import LineShell.Machine.Tool.Making
import LineShell.Machine.Tool.Mapping
import LineShell.Machine.Tool.Moving
import LineShell.Machine.Tool.Numbering
import LineShell.Machine.Tool.Printing
import LineShell.Machine.Tool.Removing
import LineShell.Machine.Tool.Reporting
import LineShell.Machine.Tool.Reversing
import LineShell.Machine.Tool.Searching
import LineShell.Machine.Tool.Sorting
import LineShell.Machine.Tool.Spacing
import LineShell.Machine.Tool.Starting
import LineShell.Machine.Tool.Walking
import LineShell.Machine.World
import LineShell.Main
import LineShell.Pipeline
import LineShell.Pipeline.Pipe
import LineShell.Pipeline.Streams
import LineShell.Pipeline.Task
import LineShell.Proofs.Builtin.Dialog
import LineShell.Proofs.Builtin.Dispatched
import LineShell.Proofs.Builtin.Informed
import LineShell.Proofs.Builtin.Left
import LineShell.Proofs.Builtin.Modest
import LineShell.Proofs.Builtin.Moved
import LineShell.Proofs.Builtin.Reserved
import LineShell.Proofs.Builtin.Respected
import LineShell.Proofs.Builtin.Returned
import LineShell.Proofs.CommandLine.Asked
import LineShell.Proofs.Console.Emitted
import LineShell.Proofs.Editor.Remembered
import LineShell.Proofs.Job.Awaited
import LineShell.Proofs.Job.Chatter
import LineShell.Proofs.Job.Course
import LineShell.Proofs.Job.Delivered
import LineShell.Proofs.Job.Ends
import LineShell.Proofs.Job.Interleaving
import LineShell.Proofs.Job.Moves
import LineShell.Proofs.Job.Plain
import LineShell.Proofs.Job.Processes
import LineShell.Proofs.Job.Reference
import LineShell.Proofs.Job.Repeated
import LineShell.Proofs.Job.Restored
import LineShell.Proofs.Job.Room
import LineShell.Proofs.Job.Stage
import LineShell.Proofs.Job.Trace
import LineShell.Proofs.Job.Turn
import LineShell.Proofs.Job.Wired
import LineShell.Proofs.Kernel.Flow
import LineShell.Proofs.Kernel.Ledger
import LineShell.Proofs.Kernel.Rationing
import LineShell.Proofs.Kernel.Recorded
import LineShell.Proofs.Kernel.Room
import LineShell.Proofs.Kernel.SharedInput
import LineShell.Proofs.Kernel.Sheltered
import LineShell.Proofs.Line.Answers
import LineShell.Proofs.Line.Cut
import LineShell.Proofs.Line.Heard
import LineShell.Proofs.Line.Joined
import LineShell.Proofs.Line.Reading
import LineShell.Proofs.Line.Rendered
import LineShell.Proofs.Line.Runs
import LineShell.Proofs.Line.Whole
import LineShell.Proofs.Rehearsal
import LineShell.Proofs.Session.Agenda
import LineShell.Proofs.Session.Contained
import LineShell.Proofs.Session.Delivered
import LineShell.Proofs.Session.Joined
import LineShell.Proofs.Session.Plain
import LineShell.Proofs.Session.Retraced
import LineShell.Proofs.Session.Served
import LineShell.Proofs.Session.Trail
import LineShell.Proofs.Session.Unopened
import LineShell.Proofs.Setback
import LineShell.Proofs.State
import LineShell.Proofs.Surroundings
import LineShell.Proofs.Text.Decoded
import LineShell.Proofs.Text.Denoted
import LineShell.Proofs.Text.Lossy
import LineShell.Proofs.Trough
import LineShell.Shell
import LineShell.Shell.Session
import LineShell.Shell.Supply
import LineShell.Sink.Bounded
import LineShell.Split
import LineShell.Status
import LineShell.Text.Blank
import LineShell.Text.Cluster
import LineShell.Text.Cluster.Table
import LineShell.Text.Distance
import LineShell.Text.Numeral
import LineShell.Text.Quoted
import LineShell.Text.Ranges
import LineShell.Text.SystemText
import LineShell.Text.Unprintable
import LineShell.Text.Utf8
import LineShell.Wait
