import MiniExpr.Text.Mark
import MiniExpr.Text.Classes
import MiniExpr.Text.Printable
import MiniExpr.Text.Quote
import MiniExpr.Token
import MiniExpr.Lexer
import MiniExpr.Number.Binary64
import MiniExpr.Number.Shortest
import MiniExpr.Json.Value
import MiniExpr.Json.Reader
import MiniExpr.Json.Writer
import MiniExpr.Json.Display
import MiniExpr.Precedence
import MiniExpr.Issue
import MiniExpr.Expr.Basic
import MiniExpr.Expr.Load
import MiniExpr.Expr.Dump
import MiniExpr.Expr.Assign
import MiniExpr.Toml.Value
import MiniExpr.Toml.Reader
import MiniExpr.Number.Whole
import MiniExpr.Config.Basic
import MiniExpr.Config.Validate
import MiniExpr.Config.Location
import MiniExpr.Config.Load
import MiniExpr.Number.Numeral
import MiniExpr.Workspace
import MiniExpr.Console.Wrap
import MiniExpr.Console.Table
import MiniExpr.Console.Markup
import MiniExpr.Console.Panel
import MiniExpr.Cli.Args
import MiniExpr.Cli.Output
import MiniExpr.Cli.Help
import MiniExpr.Cli.Screens
import MiniExpr.Cli.Run
import MiniExpr.Main
import MiniExpr.Proofs.Lexer.Scan
import MiniExpr.Proofs.Lexer.Characters
import MiniExpr.Proofs.Lexer.Cursor
import MiniExpr.Proofs.Lexer.Append
import MiniExpr.Proofs.Lexer.Offsets
import MiniExpr.Proofs.Expr.Linearization
import MiniExpr.Proofs.Expr.Grammar
import MiniExpr.Proofs.Json.Reread
import MiniExpr.Proofs.Expr.RoundTrip
import MiniExpr.Proofs.Expr.Reading
import MiniExpr.Proofs.Expr.Faults
import MiniExpr.Proofs.Expr.Sources
import MiniExpr.Proofs.Expr.Balance
import MiniExpr.Proofs.Config.Settings
import MiniExpr.Proofs.Cli.Tokens
import MiniExpr.Proofs.Config.Loading
