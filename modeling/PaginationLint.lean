import PaginationLint.Disk.Tree
import PaginationLint.Main
import PaginationLint.Proofs.Syntax.Handling
import PaginationLint.Proofs.Types.Reachability
import PaginationLint.Proofs.Result.Origin
import PaginationLint.Proofs.Lint.Exactness
import PaginationLint.Proofs.Result.Simulation
import PaginationLint.Proofs.Result.TokenField
import PaginationLint.Proofs.Types.Reordering
import PaginationLint.Proofs.Types.Underlying
import PaginationLint.Proofs.Lint.Reordering
import PaginationLint.Proofs.Wire.Tagged
import PaginationLint.Proofs.Wire.Fields
import PaginationLint.Proofs.Wire.Reading
import PaginationLint.Proofs.Wire.RoundTrip
import PaginationLint.Proofs.Wire.NormalForm
import PaginationLint.Proofs.Wire.Layout
import PaginationLint.Proofs.Types.Chain
import PaginationLint.Proofs.Types.Outline
import PaginationLint.Proofs.Lint.Growth
import PaginationLint.Proofs.Syntax.Insertion
import PaginationLint.Proofs.Lint.Insertion
import PaginationLint.Proofs.Syntax.Erasure
import PaginationLint.Proofs.Lint.Noninterference
import PaginationLint.Proofs.Command.Units
import PaginationLint.Proofs.Command.Lint
import PaginationLint.Proofs.Json.Printer
import PaginationLint.Proofs.Command.Program
import PaginationLint.Proofs.Command.JsonLines
import PaginationLint.Proofs.Command.Formats
import PaginationLint.Proofs.Result.Presence
import PaginationLint.Proofs.Result.Sharing
import PaginationLint.Proofs.Syntax.Occurrence
import PaginationLint.Proofs.Lint.TokenNames
import PaginationLint.Proofs.Types.Extension
import PaginationLint.Proofs.Result.Tower
import PaginationLint.Proofs.Types.Loop
import PaginationLint.Proofs.Settings.Flags
import PaginationLint.Proofs.Source.Position
import PaginationLint.Proofs.Result.Service
import PaginationLint.Proofs.Settings.Decoding
import PaginationLint.Proofs.Result.Message
import PaginationLint.Proofs.Result.Work
import PaginationLint.Proofs.Json.Spelling
import PaginationLint.Proofs.Json.Written
import PaginationLint.Proofs.Wire.Texts
import PaginationLint.Proofs.Settings.Loading
