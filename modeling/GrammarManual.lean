import GrammarManual.Blurb.Block
import GrammarManual.Blurb.Markdown.Blocks
import GrammarManual.Blurb.Markdown.Emphasis
import GrammarManual.Blurb.Markdown.Html
import GrammarManual.Blurb.Markdown.Line
import GrammarManual.Blurb.Markdown.Link
import GrammarManual.Blurb.Markdown.Page
import GrammarManual.Blurb.Markdown.Spans
import GrammarManual.Blurb.Markdown.Tree
import GrammarManual.Blurb.Read
import GrammarManual.Command.Invocation
import GrammarManual.Command.Options
import GrammarManual.Command.Run
import GrammarManual.Document.Desk
import GrammarManual.Document.Item
import GrammarManual.Document.Manual
import GrammarManual.Document.Script
import GrammarManual.Document.Section
import GrammarManual.Draft.Basic
import GrammarManual.Draft.Text
import GrammarManual.Draft.Xml
import GrammarManual.Files.Path
import GrammarManual.Files.Tree
import GrammarManual.Files.Write
import GrammarManual.G4.Cursor
import GrammarManual.G4.Grammar
import GrammarManual.G4.Reader
import GrammarManual.G4.Token
import GrammarManual.Grammar.Expr
import GrammarManual.Grammar.Load
import GrammarManual.Grammar.Rule
import GrammarManual.Log
import GrammarManual.Main
import GrammarManual.Markup.Body
import GrammarManual.Markup.Layout
import GrammarManual.Markup.Marker
import GrammarManual.Pattern.Basic
import GrammarManual.Pattern.Escape
import GrammarManual.Pattern.Group
import GrammarManual.Pattern.Language
import GrammarManual.Pattern.Reader
import GrammarManual.Pattern.Regex
import GrammarManual.Pattern.Token
import GrammarManual.Proofs.Consumed
import GrammarManual.Proofs.Documented
import GrammarManual.Proofs.Form
import GrammarManual.Proofs.Lines
import GrammarManual.Proofs.Operators
import GrammarManual.Proofs.Patterns
import GrammarManual.Proofs.Places
import GrammarManual.Proofs.Reread
import GrammarManual.Proofs.Rounds
import GrammarManual.Proofs.Sheets
import GrammarManual.Proofs.Shown
import GrammarManual.Proofs.Survey
import GrammarManual.Proofs.UsageMap
import GrammarManual.Proofs.Usages
import GrammarManual.Proofs.Walk
import GrammarManual.Proofs.Written
import GrammarManual.Settings.Basic
import GrammarManual.Settings.File
import GrammarManual.Settings.Validate
import GrammarManual.Settings.Value
import GrammarManual.Text.Binary64
import GrammarManual.Text.Blank
import GrammarManual.Text.Case
import GrammarManual.Text.ControlSequence
import GrammarManual.Text.Entity
import GrammarManual.Text.EntityName
import GrammarManual.Text.Letter
import GrammarManual.Text.Lines
import GrammarManual.Text.Punctuation
import GrammarManual.Text.Quoted
import GrammarManual.Text.Template
import GrammarManual.Text.Utf8
import GrammarManual.Usage.Map
import GrammarManual.Xml.Basic
import GrammarManual.Yaml.Cursor
import GrammarManual.Yaml.Node
import GrammarManual.Yaml.Scalar
import GrammarManual.Yaml.Token
import GrammarManual.Yaml.Value
import GrammarManual.Proofs.SourceLines
import GrammarManual.Proofs.Sections
import GrammarManual.Proofs.XmlSets
import GrammarManual.Proofs.Reading
import GrammarManual.Proofs.Notation
import GrammarManual.Proofs.Bodies
import GrammarManual.Proofs.Alternatives
import GrammarManual.Proofs.Declarations
import GrammarManual.Proofs.DeclaredNames
import GrammarManual.Proofs.SpelledRule
import GrammarManual.Proofs.Widths
import GrammarManual.Proofs.Strokes
import GrammarManual.Proofs.Unused
import GrammarManual.Proofs.Sketch
import GrammarManual.Proofs.TextDrafts
import GrammarManual.Proofs.XmlDrafts
import GrammarManual.Proofs.Entries
import GrammarManual.Proofs.Formats
import GrammarManual.Proofs.XmlPrinted
import GrammarManual.Proofs.Verbatim
import GrammarManual.Proofs.XmlManual
import GrammarManual.Proofs.History
import GrammarManual.Proofs.Comments
import GrammarManual.Proofs.Blurbs
import GrammarManual.Proofs.Marks
import GrammarManual.Proofs.Words
import GrammarManual.Proofs.XmlTexts
import GrammarManual.Proofs.Loading
import GrammarManual.Proofs.Cuttings
import GrammarManual.Proofs.Breaks
import GrammarManual.Proofs.RepeatedNames
import GrammarManual.Proofs.ControlSequences
import GrammarManual.Proofs.CommandLines
import GrammarManual.Proofs.FileWrites
import GrammarManual.Proofs.Delivery
import GrammarManual.Proofs.OneLine
import GrammarManual.Proofs.Heard
import GrammarManual.Proofs.Refusals
import GrammarManual.Proofs.BlurbTexts
import GrammarManual.Usage.Shelf
import GrammarManual.Proofs.Shelf
import GrammarManual.Proofs.UsageHistory
import GrammarManual.Document.Detector
import GrammarManual.Proofs.Writings
import GrammarManual.Proofs.ValidSettings
import GrammarManual.Document.Logged
import GrammarManual.Proofs.Verbosity
