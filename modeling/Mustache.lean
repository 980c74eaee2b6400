import Mustache.Command
import Mustache.Command.Arguments
import Mustache.Command.Failure
import Mustache.Command.Run
import Mustache.Decimal.Nearest
import Mustache.Decimal.Notation
import Mustache.Decimal.Shortest
import Mustache.Descent
import Mustache.Error
import Mustache.Html
import Mustache.Json.Fault
import Mustache.Json.Number
import Mustache.Json.Reader
import Mustache.Json.Text
import Mustache.Load
import Mustache.Load.Tree
import Mustache.Main
import Mustache.Name
import Mustache.Options
import Mustache.Options.Reader
import Mustache.Partial.Binding
import Mustache.Partial.Reference
import Mustache.Proofs.Acceptance
import Mustache.Proofs.ByteScan
import Mustache.Proofs.Canonical
import Mustache.Proofs.Chain
import Mustache.Proofs.CommandLine
import Mustache.Proofs.Concatenation
import Mustache.Proofs.DataIndependence
import Mustache.Proofs.Decoding
import Mustache.Proofs.DepthLimit
import Mustache.Proofs.Directory
import Mustache.Proofs.DirectoryTree
import Mustache.Proofs.Enclosure
import Mustache.Proofs.Entities
import Mustache.Proofs.EntryPaths
import Mustache.Proofs.ErrorClass
import Mustache.Proofs.Expansion
import Mustache.Proofs.Halt
import Mustache.Proofs.HiddenFailure
import Mustache.Proofs.HiddenOutput
import Mustache.Proofs.HiddenRegion
import Mustache.Proofs.InclusionDepth
import Mustache.Proofs.Injection
import Mustache.Proofs.Inquiry
import Mustache.Proofs.Isolation
import Mustache.Proofs.LoopIndex
import Mustache.Proofs.LoopPasses
import Mustache.Proofs.Message
import Mustache.Proofs.MessageWalk
import Mustache.Proofs.Nesting
import Mustache.Proofs.Parameters
import Mustache.Proofs.PlainName
import Mustache.Proofs.Precedence
import Mustache.Proofs.Prologue
import Mustache.Proofs.Resolution
import Mustache.Proofs.Restoration
import Mustache.Proofs.Retrace
import Mustache.Proofs.Run
import Mustache.Proofs.Scan
import Mustache.Proofs.Selection
import Mustache.Proofs.Sentence
import Mustache.Proofs.Source
import Mustache.Proofs.Spacing
import Mustache.Proofs.StaticWalk
import Mustache.Proofs.StreamCursor
import Mustache.Proofs.Substitution
import Mustache.Proofs.Surroundings
import Mustache.Proofs.Tag
import Mustache.Proofs.Termination
import Mustache.Render
import Mustache.Render.Walk
import Mustache.Render.Workload
import Mustache.Scope
import Mustache.Stream
import Mustache.Text.Blank
import Mustache.Text.Digit
import Mustache.Text.Shown
import Mustache.Text.Table
import Mustache.Text.Utf8
import Mustache.Text.Visible
import Mustache.Text.Width
import Mustache.Token
import Mustache.Token.Lexer
import Mustache.Value
import Mustache.Value.Printer
import Mustache.Yaml.Cursor
import Mustache.Yaml.Fault
import Mustache.Yaml.Lexeme
import Mustache.Yaml.Lexeme.Block
import Mustache.Yaml.Lexeme.Lexer
import Mustache.Yaml.Lexeme.Name
import Mustache.Yaml.Lexeme.Plain
import Mustache.Yaml.Lexeme.Quoted
import Mustache.Yaml.Node
import Mustache.Yaml.Node.Reader
import Mustache.Yaml.Scalar
import Mustache.Yaml.Value
