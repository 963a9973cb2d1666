import ProviderDocs.CommandLine.Arguments
import ProviderDocs.CommandLine.Log
import ProviderDocs.CommandLine.LogFilter
import ProviderDocs.CommandLine.Run
import ProviderDocs.CommandLine.Terminal
import ProviderDocs.Description
import ProviderDocs.EntityKind
import ProviderDocs.Example
import ProviderDocs.Fault
import ProviderDocs.Json.Basic
import ProviderDocs.Json.Numeral
import ProviderDocs.Json.Reader
import ProviderDocs.Json.Record
import ProviderDocs.Listing
import ProviderDocs.Main
import ProviderDocs.Manifest
import ProviderDocs.Page.Entity
import ProviderDocs.Page.Landing
import ProviderDocs.Proofs.Acceptance
import ProviderDocs.Proofs.CommandLine.Check
import ProviderDocs.Proofs.Confinement
import ProviderDocs.Proofs.Description.Composition
import ProviderDocs.Proofs.Distinctness
import ProviderDocs.Proofs.Example.Blocks
import ProviderDocs.Proofs.Example.Fences
import ProviderDocs.Proofs.Example.Pairs
import ProviderDocs.Proofs.Example.Rereading
import ProviderDocs.Proofs.LineEnds
import ProviderDocs.Proofs.Listing.Canonical
import ProviderDocs.Proofs.Manifest.FieldOrder
import ProviderDocs.Proofs.Navigation
import ProviderDocs.Proofs.Page.FrontMatter
import ProviderDocs.Proofs.Publication.UpToDate
import ProviderDocs.Proofs.Schema.ArgumentWarnings
import ProviderDocs.Proofs.Schema.ArrangedTexts
import ProviderDocs.Proofs.Schema.Arrangement
import ProviderDocs.Proofs.Schema.NestedObjects
import ProviderDocs.Proofs.Schema.Outline
import ProviderDocs.Proofs.Schema.References
import ProviderDocs.Proofs.Schema.Validation
import ProviderDocs.Proofs.Snippet.Blanks
import ProviderDocs.Proofs.Snippet.Columns
import ProviderDocs.Proofs.Snippet.Content
import ProviderDocs.Proofs.Snippet.Depth
import ProviderDocs.Proofs.Snippet.Grammar
import ProviderDocs.Proofs.Snippet.HeredocBody
import ProviderDocs.Proofs.Snippet.Literal
import ProviderDocs.Proofs.Template.Parts
import ProviderDocs.Proofs.Warnings
import ProviderDocs.Provider
import ProviderDocs.Publication
import ProviderDocs.Report
import ProviderDocs.Schema.Argument
import ProviderDocs.Schema.Attribute
import ProviderDocs.Schema.Basic
import ProviderDocs.Schema.Classification
import ProviderDocs.Schema.Section
import ProviderDocs.Site
import ProviderDocs.Snippet.Attribute
import ProviderDocs.Snippet.Bracket
import ProviderDocs.Snippet.Format
import ProviderDocs.Snippet.Heredoc
import ProviderDocs.Storage.Disk
import ProviderDocs.Storage.FileCause
import ProviderDocs.Storage.FileStore
import ProviderDocs.Storage.Path
import ProviderDocs.Template
import ProviderDocs.Text.Alphanumeric
import ProviderDocs.Text.Basic
import ProviderDocs.Text.Encoding
import ProviderDocs.Text.LetterCase
import ProviderDocs.Text.Line
import ProviderDocs.Text.Order
import ProviderDocs.Text.Quoted
import ProviderDocs.Warning
