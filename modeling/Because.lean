import Because.Main
import Because.Proofs.Census
import Because.Proofs.Rename
import Because.Proofs.Comparison.Basic
import Because.Proofs.Comparison.Action
import Because.Proofs.Comparison.Call
import Because.Proofs.Comparison.Collection
import Because.Proofs.Comparison.Native
import Because.Proofs.Comparison.Expr
import Because.Proofs.Comparison.Stmt
import Because.Proofs.Comparison.Run
import Because.Proofs.Comparison.Limit
import Because.Proofs.Reachable
import Because.Proofs.Stacks
import Because.Proofs.Comparison.Track
import Because.Proofs.Initialization
import Because.Proofs.Integrity
import Because.Proofs.Stability
import Because.Proofs.Depth
import Because.Proofs.Graph.History
import Because.Proofs.Graph.Records
import Because.Proofs.Comparison.Renumber
import Because.Proofs.Termination
import Because.Proofs.Provenance
import Because.Proofs.Rooted
import Because.Proofs.Isolation
import Because.Proofs.Methods
import Because.Proofs.Super
import Because.Proofs.Receivers
import Because.Proofs.Alike.Basic
import Because.Proofs.Alike.Call
import Because.Proofs.Alike.Expr
import Because.Proofs.Alike.Stmt
import Because.Proofs.Explained
import Because.Proofs.Traces
import Because.Proofs.Operands
import Because.Proofs.Graph.Surfaces
import Because.Proofs.Labels
import Because.Proofs.Orderly.Course
import Because.Proofs.Orderly.Kept
import Because.Proofs.ClassNames
import Because.Proofs.ClassRecords
import Because.Proofs.Bottoms
import Because.Proofs.Recognition
import Because.Proofs.Forwarding
import Because.Proofs.Graph.Unfolding
import Because.Proofs.Graph.Trees
import Because.Proofs.Text.Readback
import Because.Proofs.Graph.Reading
import Because.Proofs.Shadowing
import Because.Proofs.Construction
import Because.Proofs.Properties
import Because.Proofs.Chronicle.Basic
import Because.Proofs.Chronicle.Call
import Because.Proofs.Chronicle.Expr
import Because.Proofs.Chronicle.Native
import Because.Proofs.Chronicle.Stmt
import Because.Proofs.Chronicle.Run
import Because.Proofs.Handover
import Because.Proofs.Chronicle.Replay
import Because.Proofs.Chronicle.Mutation
import Because.Proofs.Chronicle.History
import Because.Proofs.Iteration
import Because.Proofs.Lists
import Because.Proofs.Keys
import Because.Proofs.Dictionaries
import Because.Proofs.Builtins
import Because.Proofs.Filling
import Because.Proofs.Text.Split
import Because.Proofs.Sums
import Because.Proofs.Parts
import Because.Proofs.Returns
import Because.Proofs.Snapshots
import Because.Proofs.Numbers
import Because.Proofs.Collections
import Because.Proofs.Execution
import Because.Proofs.Outside
import Because.Proofs.UniqueWords
import Because.Proofs.Declaration
import Because.Proofs.Generations
import Because.Proofs.Graph.Mentions
import Because.Proofs.Quotation
import Because.Proofs.Text.Words
import Because.Proofs.Text.Lines
import Because.Proofs.Questions
import Because.Proofs.Transcripts
import Because.Proofs.Options
import Because.Proofs.Counter
import Because.Proofs.Graph.Locations
