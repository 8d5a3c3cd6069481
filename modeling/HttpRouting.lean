import HttpRouting.Command.Arguments
import HttpRouting.Command.Completion
import HttpRouting.Command.Execution
import HttpRouting.Config.JsonRoutes
import HttpRouting.Config.Routes
import HttpRouting.Config.RoutesFile
import HttpRouting.Config.TomlRoutes
import HttpRouting.Config.YamlRoutes
import HttpRouting.Json.Basic
import HttpRouting.Json.Reader
import HttpRouting.Json.Token
import HttpRouting.Json.Writer
import HttpRouting.Log.Directive
import HttpRouting.Log.Settings
import HttpRouting.Main
import HttpRouting.Matching.Bindings
import HttpRouting.Matching.Machine
import HttpRouting.Matching.Request
import HttpRouting.Program.Basic
import HttpRouting.Program.Compiler
import HttpRouting.Program.Instruction
import HttpRouting.Program.Listing
import HttpRouting.Program.Pool
import HttpRouting.Program.Validation
import HttpRouting.Proofs.Admission
import HttpRouting.Proofs.Backtracking
import HttpRouting.Proofs.BoundPaths
import HttpRouting.Proofs.BoundValues
import HttpRouting.Proofs.ByteOffsets
import HttpRouting.Proofs.Captures
import HttpRouting.Proofs.Checking
import HttpRouting.Proofs.CommandAgreement
import HttpRouting.Proofs.Compilation
import HttpRouting.Proofs.Decompilation
import HttpRouting.Proofs.DefectPlaces
import HttpRouting.Proofs.Demands
import HttpRouting.Proofs.Evaluation
import HttpRouting.Proofs.Expansion
import HttpRouting.Proofs.FirstDefect
import HttpRouting.Proofs.FlatForm
import HttpRouting.Proofs.Grammar
import HttpRouting.Proofs.Independence
import HttpRouting.Proofs.Interning
import HttpRouting.Proofs.JsonRoundTrip
import HttpRouting.Proofs.JsonTokens
import HttpRouting.Proofs.Layout
import HttpRouting.Proofs.Lines
import HttpRouting.Proofs.Loading
import HttpRouting.Proofs.Nesting
import HttpRouting.Proofs.OffsetReading
import HttpRouting.Proofs.OrderedBindings
import HttpRouting.Proofs.PathRange
import HttpRouting.Proofs.PathSplitting
import HttpRouting.Proofs.Pieces
import HttpRouting.Proofs.ProgramListing
import HttpRouting.Proofs.Quoting
import HttpRouting.Proofs.Reading
import HttpRouting.Proofs.Recognition
import HttpRouting.Proofs.Refusal
import HttpRouting.Proofs.Registration
import HttpRouting.Proofs.Reloading
import HttpRouting.Proofs.Rendering
import HttpRouting.Proofs.RouteListing
import HttpRouting.Proofs.StackDepth
import HttpRouting.Proofs.TemplateDocuments
import HttpRouting.Proofs.Validity
import HttpRouting.Proofs.VerbScan
import HttpRouting.Proofs.WellFormed
import HttpRouting.Table.Listing
import HttpRouting.Table.Method
import HttpRouting.Table.RouteError
import HttpRouting.Table.RouteTable
import HttpRouting.Template.Basic
import HttpRouting.Template.Document
import HttpRouting.Template.ParseError
import HttpRouting.Template.Parser
import HttpRouting.Template.Pattern
import HttpRouting.Text.Columns
import HttpRouting.Text.Cursor
import HttpRouting.Text.Quoted
import HttpRouting.Text.Slash
import HttpRouting.Text.Unprintable
import HttpRouting.Toml.Number
import HttpRouting.Toml.Reader
import HttpRouting.Toml.Table
import HttpRouting.Toml.Text
import HttpRouting.Yaml.Node
import HttpRouting.Yaml.Position
import HttpRouting.Yaml.Scalar
import HttpRouting.Yaml.Token
