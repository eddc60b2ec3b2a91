import DefUse.Check.File
import DefUse.Check.Replay
import DefUse.Check.Report
import DefUse.Check.Session
import DefUse.Check.Step
import DefUse.Command.Arguments
import DefUse.Command.Invocation
import DefUse.Command.Run
import DefUse.Console.Box
import DefUse.Console.Emoji
import DefUse.Console.Log
import DefUse.Console.Markup
import DefUse.Console.Proxy
import DefUse.Console.Routing
import DefUse.Console.Screen
import DefUse.Failure
import DefUse.File.Path
import DefUse.File.Tree
import DefUse.Finding
import DefUse.Json.Document
import DefUse.Json.Printer
import DefUse.Json.Reader
import DefUse.Libraries
import DefUse.Lua.Adapter
import DefUse.Lua.Grammar
import DefUse.Lua.Node
import DefUse.Lua.Syntax
import DefUse.Lua.Token
import DefUse.Main
import DefUse.Name
import DefUse.Number.Double
import DefUse.Number.Shortest
import DefUse.Scope.Basic
import DefUse.Scope.Call
import DefUse.Settings.Basic
import DefUse.Settings.Datum
import DefUse.Settings.Kinds
import DefUse.Settings.Load
import DefUse.Settings.Moment
import DefUse.Settings.Validate
import DefUse.Standard
import DefUse.Text.Blank
import DefUse.Text.Printable
import DefUse.Text.Quoted
import DefUse.Text.Utf8
import DefUse.Text.Width
import DefUse.Toml.Document
import DefUse.Toml.Text
import DefUse.Trace
import DefUse.Value.Basic
import DefUse.Value.Display
import DefUse.Proofs.Attempt
import DefUse.Proofs.Check.Laws
import DefUse.Proofs.Check.Frame
import DefUse.Proofs.Check.Rules
import DefUse.Proofs.Check.Stops
import DefUse.Proofs.Check.Alignment
import DefUse.Proofs.Check.Marks
import DefUse.Proofs.Check.History
import DefUse.Proofs.Check.Fragment
import DefUse.Proofs.Check.Depths
import DefUse.Proofs.Check.Effects
import DefUse.Proofs.Check.Members
import DefUse.Proofs.Check.Lockstep
import DefUse.Proofs.Check.Globals
import DefUse.Proofs.Name.Renaming
import DefUse.Proofs.Check.Reading
import DefUse.Proofs.Check.Renaming
import DefUse.Proofs.Lua.Contract
import DefUse.Proofs.Lua.Words
import DefUse.Proofs.Lua.Adapter
import DefUse.Proofs.Lua.Tokens
import DefUse.Proofs.Lua.Parse
import DefUse.Proofs.Lua.Source
import DefUse.Proofs.Check.Carried
import DefUse.Proofs.Check.Files
import DefUse.Proofs.Check.Inert
import DefUse.Proofs.Check.Handles
import DefUse.Proofs.Command.Job
import DefUse.Proofs.Command.Verify
import DefUse.Proofs.Number.Rounding
import DefUse.Proofs.Number.Shortest
import DefUse.Proofs.Json.Number
import DefUse.Proofs.Json.Bound
import DefUse.Proofs.Json.Proper
import DefUse.Proofs.Json.Text
import DefUse.Proofs.Json.RoundTrip
import DefUse.Proofs.Text.Utf8
import DefUse.Proofs.Json.Ascii
import DefUse.Proofs.Command.Dump
import DefUse.Proofs.Check.Annotations
import DefUse.Proofs.Console.Escape
import DefUse.Proofs.Console.Verbatim
import DefUse.Proofs.Console.Screen
import DefUse.Proofs.Command.Printing
import DefUse.Proofs.Command.Agreement
import DefUse.Proofs.Command.Document
import DefUse.Proofs.Command.Arguments
import DefUse.Proofs.Command.Tracing
import DefUse.Proofs.Scope.Lifetimes
import DefUse.Proofs.Check.Expressions
import DefUse.Proofs.Check.Granted
import DefUse.Proofs.Check.Declarations
import DefUse.Proofs.Name.Chains
import DefUse.Proofs.Name.Skeleton
import DefUse.Proofs.Check.Assignments
import DefUse.Proofs.Table
import DefUse.Proofs.File.Listing
import DefUse.Proofs.Check.Collection
import DefUse.Proofs.Toml.Keys
import DefUse.Proofs.Settings.Names
import DefUse.Proofs.Settings.Nearest
import DefUse.Proofs.Settings.Loaded
import DefUse.Proofs.Console.Routing
