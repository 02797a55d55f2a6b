import Offside.Main
import Offside.Proofs.Comment
import Offside.Proofs.Defects
import Offside.Proofs.Grammar.Cut
import Offside.Proofs.Grammar.Height
import Offside.Proofs.Grammar.Tallest
import Offside.Proofs.Nesting
import Offside.Proofs.Run.Steps
import Offside.Proofs.Run.WhileFree
import Offside.Proofs.Sketch.Printed
import Offside.Proofs.Attaching
import Offside.Proofs.Placeable
import Offside.Proofs.Run.LoopControl
import Offside.Proofs.Run.Desugared
import Offside.Proofs.Run.Independent
import Offside.Proofs.Run.Lengths
import Offside.Proofs.Run.Snapshot
import Offside.Proofs.Expectation
import Offside.Proofs.FirstLines
import Offside.Proofs.Insertion
import Offside.Proofs.Position
import Offside.Proofs.Reindented
import Offside.Proofs.Sequence
import Offside.Proofs.Accounting
import Offside.Proofs.ReadBack
import Offside.Proofs.Spaced
import Offside.Proofs.FirstDefect
import Offside.Proofs.WellFormed
import Offside.Proofs.Run.Comparisons
import Offside.Proofs.Respaced
import Offside.Proofs.Counting
import Offside.Proofs.Indexing
import Offside.Proofs.Quotient
import Offside.Proofs.Repetition
import Offside.Proofs.Coherence
import Offside.Proofs.Stack
import Offside.Proofs.Grammar.Calls
