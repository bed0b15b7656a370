import BqnEdit.App.Keys
import BqnEdit.App.Model
import BqnEdit.Cli.Command
import BqnEdit.Cli.Help
import BqnEdit.Cli.Listing
import BqnEdit.Cli.Parse
import BqnEdit.Cli.Program
import BqnEdit.Cli.Report
import BqnEdit.Cli.Session
import BqnEdit.Cli.Similar
import BqnEdit.Cli.Spec
import BqnEdit.Config.Flags
import BqnEdit.Editor.Block
import BqnEdit.Editor.Buffer
import BqnEdit.Editor.Checked
import BqnEdit.Editor.Insert
import BqnEdit.Editor.Json
import BqnEdit.Editor.LineMap
import BqnEdit.Editor.Lines
import BqnEdit.Editor.Rope
import BqnEdit.Editor.Selection
import BqnEdit.Eval.Output
import BqnEdit.Eval.Run
import BqnEdit.Eval.System
import BqnEdit.Eval.Value
import BqnEdit.Files.System
import BqnEdit.Files.Tree
import BqnEdit.Files.Utf8
import BqnEdit.Glyph.Basic
import BqnEdit.Glyph.Table
import BqnEdit.Input.Action
import BqnEdit.Input.Key
import BqnEdit.Input.Mode
import BqnEdit.Input.Terminal
import BqnEdit.Json.Basic
import BqnEdit.Json.Read
import BqnEdit.Json.Record
import BqnEdit.Json.Value
import BqnEdit.Json.Write
import BqnEdit.Log.Event
import BqnEdit.Main
import BqnEdit.Proofs.AnsiReading
import BqnEdit.Proofs.Block
import BqnEdit.Proofs.BufferLines
import BqnEdit.Proofs.Comment
import BqnEdit.Proofs.Effects
import BqnEdit.Proofs.Evaluation
import BqnEdit.Proofs.FileText
import BqnEdit.Proofs.FlagLayering
import BqnEdit.Proofs.GlyphMode
import BqnEdit.Proofs.HtmlReading
import BqnEdit.Proofs.Indent
import BqnEdit.Proofs.Insert
import BqnEdit.Proofs.KeyBinds
import BqnEdit.Proofs.KeyNames
import BqnEdit.Proofs.KeyNotation
import BqnEdit.Proofs.LineLayout
import BqnEdit.Proofs.LineOffsets
import BqnEdit.Proofs.Lines
import BqnEdit.Proofs.Outputs
import BqnEdit.Proofs.PanicFree
import BqnEdit.Proofs.Persistence
import BqnEdit.Proofs.RcFile
import BqnEdit.Proofs.Reachable
import BqnEdit.Proofs.Reading
import BqnEdit.Proofs.ReadingObjects
import BqnEdit.Proofs.Rules
import BqnEdit.Proofs.SettingsFile
import BqnEdit.Proofs.SettingsJson
import BqnEdit.Proofs.Splice
import BqnEdit.Proofs.Tokenize
import BqnEdit.Proofs.Tokens
import BqnEdit.Proofs.Typing
import BqnEdit.Settings.Basic
import BqnEdit.Settings.FileStore
import BqnEdit.Settings.Json
import BqnEdit.Settings.Store
import BqnEdit.Syntax.Ansi
import BqnEdit.Syntax.Html
import BqnEdit.Syntax.Lexer
import BqnEdit.Syntax.Palette
import BqnEdit.Syntax.StyledLines
import BqnEdit.Syntax.Token
import BqnEdit.Text.Blank
import BqnEdit.Text.Case
import BqnEdit.Text.Decimal
import BqnEdit.Text.Hidden
import BqnEdit.Text.Quoted
import BqnEdit.Text.Shortest
import BqnEdit.Text.Unsigned
