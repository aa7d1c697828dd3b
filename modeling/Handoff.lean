import Handoff.Compiler.Backend
import Handoff.Compiler.Output
import Handoff.Compiler.SyntaxTree
import Handoff.Component.Artifacts
import Handoff.Design.File
import Handoff.Drawing.Extraction
import Handoff.Failure.Report
import Handoff.Generation.Engine
import Handoff.Json.Equality
import Handoff.Json.Reader
import Handoff.Json.Writer
import Handoff.Log.Logger
import Handoff.Markup.Layout
import Handoff.Markup.Normal
import Handoff.Markup.Tag
import Handoff.Metrics.Summary
import Handoff.Options.Config
import Handoff.Proofs.Component.Findings
import Handoff.Proofs.Component.Header
import Handoff.Proofs.Component.Label
import Handoff.Proofs.Component.Reference
import Handoff.Proofs.Generation.Account
import Handoff.Proofs.Generation.Tolerance
import Handoff.Proofs.Markup.Dialect
import Handoff.Proofs.Markup.Items
import Handoff.Proofs.Markup.Mistake
import Handoff.Proofs.Stylesheet.Comment
import Handoff.Proofs.Stylesheet.Generated
import Handoff.Proofs.Stylesheet.Packed
import Handoff.Proofs.Stylesheet.Sheet
import Handoff.Proofs.Validation.Account
import Handoff.Quality.Report
import Handoff.Report.Result
import Handoff.Service.Tool
import Handoff.Stylesheet.Check
import Handoff.Stylesheet.Text
import Handoff.Validation.Language
import Handoff.Proofs.Component.RootClass
import Handoff.Proofs.Service.Answer
import Handoff.Proofs.Drawing.Placeholder
import Handoff.Proofs.Quality.Count
import Handoff.Proofs.Service.Listed
import Handoff.Proofs.Stylesheet.Brace
import Handoff.Proofs.Stylesheet.Distance
import Handoff.Proofs.Stylesheet.Place
import Handoff.Proofs.Compiler.Output
import Handoff.Proofs.Compiler.Column
import Handoff.Proofs.Markup.Siblings
import Handoff.Proofs.Markup.Written
import Handoff.Proofs.Component.Literal
import Handoff.Proofs.Design.Swatch
import Handoff.Proofs.Markup.Relayout
import Handoff.Proofs.Metrics.Branch
import Handoff.Proofs.Component.Naming
import Handoff.Proofs.Number.Coordinate
import Handoff.Proofs.Stylesheet.Suggestion
import Handoff.Proofs.Markup.Order
