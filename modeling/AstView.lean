import AstView.CommandLine.Run
import AstView.FileSystem
import AstView.Main
import AstView.Wire.Encode
import AstView.Proofs.Utf8
import AstView.Proofs.Wire.RoundTrip
import AstView.Proofs.Wire.Acceptance
import AstView.Proofs.Kind
import AstView.Proofs.Dot.Label
import AstView.Proofs.Dot.Line
import AstView.Proofs.Dot.Reader
import AstView.Proofs.Dot.Graph
import AstView.Proofs.Sink
import AstView.Proofs.TreeView.Line
import AstView.Proofs.Json.Reader
import AstView.Proofs.View
import AstView.Proofs.Wire.Concatenation
import AstView.Proofs.Wire.Truncation
import AstView.Proofs.Dot.Declaration
import AstView.Proofs.Json.Labels
import AstView.Proofs.Agreement
import AstView.Proofs.FileSystem
import AstView.Proofs.Settings.Loading
import AstView.Proofs.Json.Grammar
import AstView.Proofs.Json.Faithful
import AstView.Proofs.CommandLine.Conversion
import AstView.Proofs.CommandLine.Run
import AstView.Proofs.CommandLine.Plan
import AstView.Proofs.TreeView.Reader
import AstView.Proofs.Wire.Canonical
import AstView.Proofs.Wire.Foreign
import AstView.Proofs.Settings.Layering
import AstView.Proofs.Registry
import AstView.Proofs.CommandLine.Overrides
import AstView.Proofs.Wire.Merging
import AstView.Proofs.Dot.Grammar
import AstView.Proofs.Dot.Root
import AstView.Proofs.TreeView.Guides
import AstView.Proofs.Json.Layout
import AstView.Proofs.Wire.Weight
import AstView.Proofs.Wire.FaultPath
import AstView.Proofs.FilePath
import AstView.Proofs.Knob
import AstView.Proofs.DefaultRendering
import AstView.Proofs.CommandLine.Folding
import AstView.Proofs.Dot.Escaping
import AstView.Proofs.Dot.Verbatim
import AstView.Proofs.CommandLine.Extras
import AstView.Proofs.Registry.Selection
