import InterceptAddons.Addon.Action
import InterceptAddons.Addon.Id
import InterceptAddons.Addon.LoadError
import InterceptAddons.Addon.Program
import InterceptAddons.Config.Basic
import InterceptAddons.Config.Document
import InterceptAddons.Engine.Describe
import InterceptAddons.Engine.Dispatch
import InterceptAddons.Engine.State
import InterceptAddons.Engine.Walk
import InterceptAddons.Facts
import InterceptAddons.Filter.Basic
import InterceptAddons.Filter.Binding
import InterceptAddons.Filter.Eval
import InterceptAddons.Filter.EvalError
import InterceptAddons.Filter.Expr
import InterceptAddons.Filter.Memo
import InterceptAddons.Filter.Parser
import InterceptAddons.Filter.Predicate
import InterceptAddons.Filter.Printer
import InterceptAddons.Filter.SyntaxError
import InterceptAddons.Filter.Token
import InterceptAddons.Http.Attachments
import InterceptAddons.Http.Component
import InterceptAddons.Http.Edit
import InterceptAddons.Http.Headers
import InterceptAddons.Http.Message
import InterceptAddons.Http.Method
import InterceptAddons.Http.Request
import InterceptAddons.Http.Response
import InterceptAddons.Http.Status
import InterceptAddons.Http.Tool
import InterceptAddons.Http.Traffic
import InterceptAddons.Http.Uri
import InterceptAddons.Http.Uri.Authority
import InterceptAddons.Http.Uri.Error
import InterceptAddons.Http.Uri.Target
import InterceptAddons.Json.Draft
import InterceptAddons.Json.Fault
import InterceptAddons.Json.Number
import InterceptAddons.Json.Printer
import InterceptAddons.Json.Record
import InterceptAddons.Json.Token
import InterceptAddons.Json.Value
import InterceptAddons.Log
import InterceptAddons.Pattern.Automaton.Build
import InterceptAddons.Pattern.Automaton.Rows
import InterceptAddons.Pattern.Automaton.SetStates
import InterceptAddons.Pattern.Automaton.Size
import InterceptAddons.Pattern.Automaton.WordTree
import InterceptAddons.Pattern.Basic
import InterceptAddons.Pattern.Form
import InterceptAddons.Pattern.Match
import InterceptAddons.Pattern.Meaning
import InterceptAddons.Pattern.Preferred
import InterceptAddons.Pattern.Regex
import InterceptAddons.Pattern.Syntax
import InterceptAddons.Pattern.Syntax.Brackets
import InterceptAddons.Pattern.Syntax.Escape
import InterceptAddons.Pattern.Syntax.Layout
import InterceptAddons.Pattern.Syntax.Reader
import InterceptAddons.Pattern.Unicode.Age
import InterceptAddons.Pattern.Unicode.Break
import InterceptAddons.Pattern.Unicode.Category
import InterceptAddons.Pattern.Unicode.Fold
import InterceptAddons.Pattern.Unicode.Lookup
import InterceptAddons.Pattern.Unicode.Named
import InterceptAddons.Pattern.Unicode.Property
import InterceptAddons.Pattern.Unicode.Script
import InterceptAddons.Pattern.Unicode.ScriptExtension
import InterceptAddons.Proofs.Config.Spelling
import InterceptAddons.Proofs.Config.Validation
import InterceptAddons.Proofs.Engine.Chronicle
import InterceptAddons.Proofs.Engine.Dispatch
import InterceptAddons.Proofs.Engine.Endings
import InterceptAddons.Proofs.Engine.History
import InterceptAddons.Proofs.Engine.Inert
import InterceptAddons.Proofs.Engine.Journal
import InterceptAddons.Proofs.Engine.Ownership
import InterceptAddons.Proofs.Engine.Runs
import InterceptAddons.Proofs.Engine.Session
import InterceptAddons.Proofs.Engine.Snapshot
import InterceptAddons.Proofs.Engine.Walk
import InterceptAddons.Proofs.Filter.Arguments
import InterceptAddons.Proofs.Filter.Binding
import InterceptAddons.Proofs.Filter.FileExtension
import InterceptAddons.Proofs.Filter.Grammar
import InterceptAddons.Proofs.Filter.Layout
import InterceptAddons.Proofs.Filter.Lexing
import InterceptAddons.Proofs.Filter.Numbers
import InterceptAddons.Proofs.Filter.Occurrences
import InterceptAddons.Proofs.Filter.Places
import InterceptAddons.Proofs.Filter.Remembering
import InterceptAddons.Proofs.Filter.Rewriting
import InterceptAddons.Proofs.Filter.RoundTrip
import InterceptAddons.Proofs.Filter.ShortCircuit
import InterceptAddons.Proofs.Filter.Sources
import InterceptAddons.Proofs.Http.Authority
import InterceptAddons.Proofs.Http.Component
import InterceptAddons.Proofs.Http.ContentLength
import InterceptAddons.Proofs.Http.Cookies
import InterceptAddons.Proofs.Http.Headers
import InterceptAddons.Proofs.Http.Host
import InterceptAddons.Proofs.Http.Pairs
import InterceptAddons.Proofs.Http.Query
import InterceptAddons.Proofs.Http.Target
import InterceptAddons.Proofs.Http.TargetForms
import InterceptAddons.Proofs.Json.Members
import InterceptAddons.Proofs.Json.Paths
import InterceptAddons.Proofs.Json.Printing
import InterceptAddons.Proofs.Json.Reading
import InterceptAddons.Proofs.Json.Records
import InterceptAddons.Proofs.Json.Spelling
import InterceptAddons.Proofs.Lists
import InterceptAddons.Proofs.Pattern.Anchoring
import InterceptAddons.Proofs.Pattern.Fragments
import InterceptAddons.Proofs.Pattern.FullMatch
import InterceptAddons.Proofs.Pattern.Prolonging
import InterceptAddons.Proofs.Pattern.Search
import InterceptAddons.Proofs.Pattern.Spans
import InterceptAddons.Proofs.Registry
import InterceptAddons.Proofs.Registry.Sorting
import InterceptAddons.Proofs.Registry.Unmatched
import InterceptAddons.Proofs.Results
import InterceptAddons.Proofs.Text.Characters
import InterceptAddons.Proofs.Text.Numeral
import InterceptAddons.Proofs.Text.Split
import InterceptAddons.Proofs.Text.Utf8
import InterceptAddons.Registry
import InterceptAddons.Scope
import InterceptAddons.Script.Basic
import InterceptAddons.Services
import InterceptAddons.Text.CharSet
import InterceptAddons.Text.Numeral
import InterceptAddons.Text.Quoted
import InterceptAddons.Text.Shortest
import InterceptAddons.Text.Split
import InterceptAddons.Text.Unicode.Blank
import InterceptAddons.Text.Unicode.Letters
import InterceptAddons.Text.Unicode.Unprintable
import InterceptAddons.Text.Utf8
