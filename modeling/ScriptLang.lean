import ScriptLang.Builtin.Arguments
import ScriptLang.Builtin.Run
import ScriptLang.CommandLine
import ScriptLang.Cursor
import ScriptLang.Diagnostic
import ScriptLang.Eval
import ScriptLang.Fault
import ScriptLang.Host
import ScriptLang.Host.Files
import ScriptLang.Host.Root
import ScriptLang.Host.World
import ScriptLang.Main
import ScriptLang.Number.Integer
import ScriptLang.Number.Rounded
import ScriptLang.Number.Shortest
import ScriptLang.Number.Text
import ScriptLang.Piece
import ScriptLang.Scan
import ScriptLang.Scope
import ScriptLang.Session
import ScriptLang.Shell.Action
import ScriptLang.Shell.Arithmetic
import ScriptLang.Shell.Bytes
import ScriptLang.Shell.Calendar
import ScriptLang.Shell.Expand
import ScriptLang.Shell.Field
import ScriptLang.Shell.Format
import ScriptLang.Shell.Lookup
import ScriptLang.Shell.Own
import ScriptLang.Shell.Own.Control
import ScriptLang.Shell.Own.Input
import ScriptLang.Shell.Own.Names
import ScriptLang.Shell.Own.Options
import ScriptLang.Shell.Own.Place
import ScriptLang.Shell.Own.Variables
import ScriptLang.Shell.Pattern
import ScriptLang.Shell.Read
import ScriptLang.Shell.Regex
import ScriptLang.Shell.Regex.Read
import ScriptLang.Shell.Run
import ScriptLang.Shell.State
import ScriptLang.Shell.Syntax
import ScriptLang.Shell.System
import ScriptLang.Shell.Test
import ScriptLang.Shell.Tool
import ScriptLang.Shell.Tool.Alike
import ScriptLang.Shell.Tool.Characters
import ScriptLang.Shell.Tool.Clock
import ScriptLang.Shell.Tool.Columns
import ScriptLang.Shell.Tool.Compare
import ScriptLang.Shell.Tool.Digest
import ScriptLang.Shell.Tool.Dump
import ScriptLang.Shell.Tool.Files
import ScriptLang.Shell.Tool.Find
import ScriptLang.Shell.Tool.Grep
import ScriptLang.Shell.Tool.Join
import ScriptLang.Shell.Tool.Lines
import ScriptLang.Shell.Tool.Listing
import ScriptLang.Shell.Tool.Marks
import ScriptLang.Shell.Tool.Mode
import ScriptLang.Shell.Tool.Move
import ScriptLang.Shell.Tool.Numbering
import ScriptLang.Shell.Tool.Numbers
import ScriptLang.Shell.Tool.Paths
import ScriptLang.Shell.Tool.Pieces
import ScriptLang.Shell.Tool.Sed
import ScriptLang.Shell.Tool.Sed.Script
import ScriptLang.Shell.Tool.Show
import ScriptLang.Shell.Tool.Sort
import ScriptLang.Shell.Tool.Stat
import ScriptLang.Shell.Tool.System
import ScriptLang.Shell.Tool.Tabs
import ScriptLang.Shell.Tool.Xargs
import ScriptLang.Shell.Toolbox
import ScriptLang.Text.Blank
import ScriptLang.Text.CasedTable
import ScriptLang.Text.Grapheme
import ScriptLang.Text.GraphemeTable
import ScriptLang.Text.Identifier
import ScriptLang.Text.IdentifierTable
import ScriptLang.Text.Lowercase
import ScriptLang.Text.LowercaseTable
import ScriptLang.Text.PrintableTable
import ScriptLang.Text.Quoted
import ScriptLang.Text.Ranges
import ScriptLang.Text.Replace
import ScriptLang.Text.Utf8
import ScriptLang.Token
import ScriptLang.Tree
import ScriptLang.Tree.ReadExpr
import ScriptLang.Tree.ReadStmt
import ScriptLang.Tree.Render
import ScriptLang.Value
import ScriptLang.Proofs.Grammar
import ScriptLang.Proofs.Grammar.Sound
import ScriptLang.Proofs.Grammar.Complete
import ScriptLang.Proofs.Grammar.Written
import ScriptLang.Proofs.Dialogue
import ScriptLang.Proofs.Action
import ScriptLang.Proofs.Likeness
import ScriptLang.Proofs.Likeness.Value
import ScriptLang.Proofs.Frames
import ScriptLang.Proofs.Likeness.Scopes
import ScriptLang.Proofs.Likeness.Eval
import ScriptLang.Proofs.Fuel
import ScriptLang.Proofs.Isolation
import ScriptLang.Proofs.Names
import ScriptLang.Proofs.Scoping
import ScriptLang.Proofs.Session
import ScriptLang.Proofs.Scan
import ScriptLang.Proofs.Scoping.Sound
import ScriptLang.Proofs.Execution
import ScriptLang.Proofs.Likeness.Read
import ScriptLang.Proofs.Returns
import ScriptLang.Proofs.AtRest
import ScriptLang.Proofs.Places
import ScriptLang.Proofs.Concatenation
import ScriptLang.Proofs.Restoring
import ScriptLang.Proofs.Passage
import ScriptLang.Proofs.Gathering
import ScriptLang.Proofs.Functions
import ScriptLang.Proofs.Layout
import ScriptLang.Proofs.Returns.Reported
import ScriptLang.Proofs.Declarations
import ScriptLang.Proofs.EmptyFrames
import ScriptLang.Proofs.Loops
import ScriptLang.Proofs.Output
import ScriptLang.Proofs.Output.Truncated
import ScriptLang.Proofs.Bounds
import ScriptLang.Proofs.SideBySide
import ScriptLang.Proofs.Recovery
import ScriptLang.Proofs.Trimmed
import ScriptLang.Proofs.Utf8
import ScriptLang.Proofs.Lines
import ScriptLang.Proofs.Input
import ScriptLang.Proofs.Rounds
import ScriptLang.Proofs.Prompt
import ScriptLang.Proofs.Resolution
import ScriptLang.Proofs.Pieces
import ScriptLang.Proofs.Lexemes
import ScriptLang.Proofs.Respaced
import ScriptLang.Proofs.Strings
import ScriptLang.Proofs.Resumption
import ScriptLang.Proofs.Printing
import ScriptLang.Proofs.SingleExpression
import ScriptLang.Proofs.Numbers.Binary
import ScriptLang.Proofs.Numbers.Shortest
import ScriptLang.Proofs.Numbers.Written
import ScriptLang.Proofs.Quoted
import ScriptLang.Proofs.Printed.Words
import ScriptLang.Proofs.Printed.Forms
import ScriptLang.Proofs.Printed.Proper
import ScriptLang.Proofs.Printed.Sources
import ScriptLang.Proofs.Printed.Reading
import ScriptLang.Proofs.Printed.Unambiguous
import ScriptLang.Proofs.Numbers.Values
import ScriptLang.Proofs.Numbers.Exact
import ScriptLang.Proofs.Numbers.Rounding
import ScriptLang.Proofs.Numbers.Conversions
import ScriptLang.Proofs.Numbers.Products
import ScriptLang.Proofs.Numbers.Decimals
import ScriptLang.Proofs.Numbers.Literals
import ScriptLang.Proofs.Numbers.ReadBack
import ScriptLang.Proofs.Substring
import ScriptLang.Proofs.Random
import ScriptLang.Proofs.Validation
import ScriptLang.Proofs.InputLines
import ScriptLang.Proofs.Equality
import ScriptLang.Proofs.Provenance
import ScriptLang.Proofs.History
import ScriptLang.Proofs.Identity
