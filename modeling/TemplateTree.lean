import TemplateTree.Text.Blank
import TemplateTree.Text.Word
import TemplateTree.Text.Printable
import TemplateTree.Text.Digit
import TemplateTree.Text.Letter
import TemplateTree.Text.Search
import TemplateTree.Text.Name
import TemplateTree.Source.Extent
import TemplateTree.Issue
import TemplateTree.Comment
import TemplateTree.Scope
import TemplateTree.Number.Shortest
import TemplateTree.Expression.Token
import TemplateTree.Expression.Binding
import TemplateTree.Markup.Syntax
import TemplateTree.Markup.Template
import TemplateTree.Graph.Walk
import TemplateTree.Config.Basic
import TemplateTree.Graph.Blueprint
import TemplateTree.Graph.Plain
import TemplateTree.Program.Analysis
import TemplateTree.Yaml.Scalar
import TemplateTree.Yaml.Token
import TemplateTree.Yaml.Node
import TemplateTree.Config.File
import TemplateTree.Constant.Value
import TemplateTree.Console.Width
import TemplateTree.Console.Style
import TemplateTree.Console.Styled
import TemplateTree.Console.Action
import TemplateTree.Console.Markup
import TemplateTree.Console.Wrap
import TemplateTree.Console.Table
import TemplateTree.Console.Tree
import TemplateTree.Format.Json
import TemplateTree.Format.Yaml
import TemplateTree.Command.Arguments
import TemplateTree.Command.Report
import TemplateTree.Command.Run
import TemplateTree.Main
import TemplateTree.Proofs.Source
import TemplateTree.Proofs.Pieces
import TemplateTree.Proofs.Steps
import TemplateTree.Proofs.Tiling
import TemplateTree.Proofs.Grammar
import TemplateTree.Proofs.Lexing
import TemplateTree.Proofs.Parsing
import TemplateTree.Proofs.Accepted
import TemplateTree.Proofs.Bindings
import TemplateTree.Proofs.Nesting
import TemplateTree.Proofs.Acceptance
import TemplateTree.Proofs.Stamping
import TemplateTree.Proofs.Visiting
import TemplateTree.Proofs.Descent
import TemplateTree.Proofs.Reach
import TemplateTree.Proofs.Placement
import TemplateTree.Proofs.Offsets
import TemplateTree.Proofs.Printing
import TemplateTree.Proofs.Roundtrip
import TemplateTree.Proofs.Idempotence
import TemplateTree.Proofs.Schema
import TemplateTree.Proofs.Layout
import TemplateTree.Proofs.Records
import TemplateTree.Proofs.Holding
import TemplateTree.Proofs.Finishing
import TemplateTree.Proofs.Normalized
import TemplateTree.Proofs.Analysis
import TemplateTree.Proofs.Frame
import TemplateTree.Proofs.Depth
import TemplateTree.Proofs.Copying
import TemplateTree.Proofs.BackReferences
import TemplateTree.Proofs.Policies
import TemplateTree.Proofs.Options
import TemplateTree.Proofs.Faults
import TemplateTree.Proofs.Reports
import TemplateTree.Proofs.Accounting
import TemplateTree.Proofs.Scoping
import TemplateTree.Proofs.Extents
import TemplateTree.Proofs.Attributes
import TemplateTree.Proofs.BindingSites
import TemplateTree.Proofs.Within
import TemplateTree.Proofs.Writing
import TemplateTree.Proofs.Configuration
import TemplateTree.Proofs.Rendering
import TemplateTree.Proofs.Origins
import TemplateTree.Proofs.Labels
import TemplateTree.Proofs.Markers
import TemplateTree.Proofs.Showing
import TemplateTree.Proofs.Places
import TemplateTree.Proofs.Aggregates
import TemplateTree.Proofs.Nodes
import TemplateTree.Proofs.Patterns
import TemplateTree.Proofs.Readings
import TemplateTree.Proofs.Scanners
import TemplateTree.Proofs.Comments
import TemplateTree.Proofs.Repeats
import TemplateTree.Proofs.Dictionaries
