import BindingGen.Api
import BindingGen.CType
import BindingGen.Console
import BindingGen.Doc
import BindingGen.Fault
import BindingGen.Function.Binding
import BindingGen.Function.DoBlock
import BindingGen.Function.ResultDoc
import BindingGen.Function.Signature
import BindingGen.Guard
import BindingGen.Haddock.Comment
import BindingGen.Haddock.Markup
import BindingGen.Journal
import BindingGen.Library
import BindingGen.Marshal.Call
import BindingGen.Marshal.Enumerated
import BindingGen.Marshal.HsType
import BindingGen.Marshal.Parameter
import BindingGen.Marshal.Primitive
import BindingGen.Marshal.Result
import BindingGen.Marshal.Value
import BindingGen.Member.Attribute
import BindingGen.Member.Function
import BindingGen.Member.Handler
import BindingGen.Member.Property
import BindingGen.Member.Signal
import BindingGen.Module.Basic
import BindingGen.Module.Body
import BindingGen.Module.Definition
import BindingGen.Module.Exports
import BindingGen.Module.Section
import BindingGen.Name
import BindingGen.PriorModule
import BindingGen.Proofs.Guard.Preprocessor
import BindingGen.Proofs.Guard.Visibility
import BindingGen.Proofs.Haddock.CommentLines
import BindingGen.Proofs.Haddock.Written
import BindingGen.Proofs.Library.Cycle
import BindingGen.Proofs.Library.Isolation
import BindingGen.Proofs.Member.Entries
import BindingGen.Proofs.Member.Regeneration
import BindingGen.Proofs.Module.Agreement
import BindingGen.Proofs.Module.Definition
import BindingGen.Proofs.Module.ExportOrder
import BindingGen.Proofs.Module.Lifting
import BindingGen.Proofs.Module.Refusal
import BindingGen.Proofs.Module.Regeneration
import BindingGen.Proofs.Module.Section
import BindingGen.Proofs.Module.Since
import BindingGen.Proofs.Outcome
import BindingGen.Proofs.Places
import BindingGen.Proofs.Readable
import BindingGen.Proofs.Symbol.Classification
import BindingGen.Proofs.Symbol.Climb
import BindingGen.Proofs.Text.Filling
import BindingGen.Proofs.Text.Line
import BindingGen.Proofs.Text.Trimming
import BindingGen.Proofs.Version.Release
import BindingGen.Session
import BindingGen.Settings
import BindingGen.Symbol.Ancestry
import BindingGen.Symbol.Basic
import BindingGen.Symbol.Classification
import BindingGen.Table
import BindingGen.Text.Blank
import BindingGen.Text.Case
import BindingGen.Text.CaseTable
import BindingGen.Text.CodeRange
import BindingGen.Text.Digit
import BindingGen.Text.LineBreak
import BindingGen.Text.PrintableTable
import BindingGen.Text.Quoted
import BindingGen.Text.Search
import BindingGen.Text.Wrap
import BindingGen.Version
import BindingGen.Proofs.Member.Conservation
import BindingGen.Proofs.Library.Noninterference
import BindingGen.Proofs.Function.Equation
import BindingGen.Proofs.Marshal.Parameter
import BindingGen.Proofs.Function.CallOrder
import BindingGen.Proofs.Function.Scope
import BindingGen.Proofs.Function.Capture
import BindingGen.Proofs.Member.Accessors
import BindingGen.Proofs.Symbol.Distinct
import BindingGen.Proofs.Symbol.Reordering
import BindingGen.Proofs.Library.Journal
import BindingGen.Proofs.Symbol.Lineage
import BindingGen.Proofs.Session.History
import BindingGen.Proofs.Marshal.ValueForm
import BindingGen.Proofs.FirstFault
import BindingGen.Proofs.Module.TypeUse
import BindingGen.Proofs.Text.Words
import BindingGen.Proofs.Function.Remarks
import BindingGen.Proofs.Text.BlankFree
import BindingGen.Proofs.Haddock.Words
import BindingGen.Proofs.Text.Greedy
import BindingGen.Proofs.Haddock.Wrapping
import BindingGen.Proofs.Text.Room
import BindingGen.Proofs.Haddock.Width
import BindingGen.Proofs.Function.Documentation
import BindingGen.Proofs.Marshal.OneLine
import BindingGen.Proofs.Function.Returned
import BindingGen.Proofs.Function.Layout
import BindingGen.Proofs.Function.Constraint
import BindingGen.Proofs.Marshal.PointerForm
import BindingGen.Proofs.Function.Inout
import BindingGen.Proofs.Marshal.Nullable
import BindingGen.Proofs.Function.Naming
import BindingGen.Proofs.StableOrder
import BindingGen.Proofs.Member.MethodOrder
import BindingGen.Proofs.Member.PropertyMerge
import BindingGen.Proofs.Member.PropertyOrder
import BindingGen.Proofs.Member.ShortNames
import BindingGen.Proofs.Text.Collapse
import BindingGen.Proofs.Haddock.Quotes
import BindingGen.Proofs.Haddock.Reference
import BindingGen.Proofs.Haddock.MarkedUp
import BindingGen.Proofs.Name.Prefixes
import BindingGen.Proofs.Symbol.Ancestors
import BindingGen.Proofs.Text.Replacement
import BindingGen.Proofs.CType.NormalForm
import BindingGen.Proofs.CType.Spelling
import BindingGen.Proofs.Member.ConnectHelper
