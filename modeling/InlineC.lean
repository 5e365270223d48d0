import InlineC.Assembly.Assembler
import InlineC.Assembly.Basic
import InlineC.Assembly.Names
import InlineC.Config.Load
import InlineC.Config.Settings
import InlineC.Declaration.Basic
import InlineC.Declaration.Render
import InlineC.Failure
import InlineC.Hash.Blake2b
import InlineC.Host.Convert
import InlineC.Host.Driver
import InlineC.Host.Extension
import InlineC.Host.Session
import InlineC.Host.State
import InlineC.Host.Toolchain
import InlineC.Host.Value
import InlineC.Identifier
import InlineC.Lang.Arith
import InlineC.Lang.Check
import InlineC.Lang.Check.Call
import InlineC.Lang.Check.Decl
import InlineC.Lang.Check.Flow
import InlineC.Lang.Check.Init
import InlineC.Lang.Check.Layout
import InlineC.Lang.Check.Library
import InlineC.Lang.Check.Ops
import InlineC.Lang.Check.State
import InlineC.Lang.Check.Value
import InlineC.Lang.Condition
import InlineC.Lang.Core
import InlineC.Lang.Diagnostic
import InlineC.Lang.Fold
import InlineC.Lang.Header
import InlineC.Lang.Header.Core
import InlineC.Lang.Header.Extra
import InlineC.Lang.Header.Stdio
import InlineC.Lang.Lexer
import InlineC.Lang.Literal
import InlineC.Lang.Macro
import InlineC.Lang.Options
import InlineC.Lang.Parser
import InlineC.Lang.Predefined
import InlineC.Lang.Preprocess
import InlineC.Lang.Syntax
import InlineC.Lang.Type
import InlineC.Machine.Arguments
import InlineC.Machine.Code
import InlineC.Machine.Exec
import InlineC.Machine.Format
import InlineC.Machine.Image
import InlineC.Machine.Link
import InlineC.Machine.Load
import InlineC.Machine.Lower
import InlineC.Machine.Memory
import InlineC.Machine.Objects
import InlineC.Machine.Standard.Classes
import InlineC.Machine.Standard.Errors
import InlineC.Machine.Standard.Functions
import InlineC.Machine.Standard.Math
import InlineC.Machine.Standard.Numbers
import InlineC.Machine.Standard.Random
import InlineC.Machine.Standard.Strings
import InlineC.Machine.Step
import InlineC.Main
import InlineC.Manifest.Basic
import InlineC.Manifest.Build
import InlineC.Num.Binary
import InlineC.Num.Decimal
import InlineC.Num.Extended
import InlineC.Service.Answer
import InlineC.Service.Assembling
import InlineC.Service.Decode
import InlineC.Service.Document
import InlineC.Service.Manifests
import InlineC.Service.Module
import InlineC.Service.Naming
import InlineC.Service.Run
import InlineC.Service.Settings
import InlineC.Service.Values
import InlineC.Text.CLiteral
import InlineC.Text.Case
import InlineC.Text.Layout
import InlineC.Text.Path
import InlineC.Text.Printable
import InlineC.Text.Quoted
import InlineC.Text.Utf8
import InlineC.Toml.Date
import InlineC.Toml.Decode
import InlineC.Toml.Dynamic
import InlineC.Toml.Excerpt
import InlineC.Toml.Number
import InlineC.Toml.Parse
import InlineC.Toml.Seen
import InlineC.Toml.Syntax
import InlineC.TypeTable
import InlineC.Proofs.Revision
import InlineC.Proofs.Runs
import InlineC.Proofs.Symbols
import InlineC.Proofs.DriverLaws
import InlineC.Proofs.Bench
import InlineC.Proofs.Paths
import InlineC.Proofs.Prepare
import InlineC.Proofs.Proxies
import InlineC.Proofs.Frame
import InlineC.Proofs.ParseTuple
import InlineC.Proofs.Rendering
import InlineC.Proofs.Background
import InlineC.Proofs.Words
import InlineC.Proofs.ObjectCells
import InlineC.Proofs.ObjectTrees
import InlineC.Proofs.Conversion
import InlineC.Proofs.RoundTrip
import InlineC.Proofs.CallErrors
import InlineC.Proofs.Batches
import InlineC.Proofs.Building
import InlineC.Proofs.BuildParse
import InlineC.Proofs.Refusals
import InlineC.Proofs.QuotedDocs
import InlineC.Proofs.Hygiene
import InlineC.Proofs.BuiltValues
import InlineC.Proofs.RuntimeCalls
import InlineC.Proofs.NameLoops
import InlineC.Proofs.ShortNames
import InlineC.Proofs.BodyLayout
import InlineC.Proofs.FloatReads
import InlineC.Proofs.ObjectGraphs
import InlineC.Proofs.Activation
import InlineC.Proofs.IdentifierCheck
import InlineC.Proofs.Manifests
import InlineC.Proofs.ProvidedCalls
import InlineC.Proofs.Stubs
import InlineC.Proofs.Capture
import InlineC.Proofs.MethodTables
import InlineC.Proofs.TableLookups
