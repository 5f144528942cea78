import ProtoStore.Blog.Domain
import ProtoStore.Blog.Message
import ProtoStore.Blog.Record
import ProtoStore.Code.Ident
import ProtoStore.Code.Item
import ProtoStore.Code.Path
import ProtoStore.Code.Token
import ProtoStore.Config
import ProtoStore.Descriptor.Annotation
import ProtoStore.Descriptor.Basic
import ProtoStore.Descriptor.Check
import ProtoStore.Descriptor.Codec
import ProtoStore.Descriptor.Content
import ProtoStore.Descriptor.Default
import ProtoStore.Descriptor.Interpretation
import ProtoStore.Descriptor.Options
import ProtoStore.Descriptor.Pool
import ProtoStore.Descriptor.Schema
import ProtoStore.Descriptor.Uninterpreted
import ProtoStore.Domain.Action
import ProtoStore.Domain.Basic
import ProtoStore.Domain.Hook
import ProtoStore.Domain.Mask
import ProtoStore.Domain.Operations
import ProtoStore.Domain.Script
import ProtoStore.Emit.Conversion
import ProtoStore.Emit.FieldMask
import ProtoStore.Emit.File
import ProtoStore.Emit.Hooks
import ProtoStore.Emit.Operations
import ProtoStore.Emit.Phase
import ProtoStore.Emit.Record
import ProtoStore.Emit.Scope
import ProtoStore.Emit.Types
import ProtoStore.Json.Codec
import ProtoStore.Json.Reader
import ProtoStore.Number.Binary
import ProtoStore.Number.Shortest
import ProtoStore.Number.Text
import ProtoStore.Proofs.Blog.Canonical
import ProtoStore.Proofs.Blog.Children
import ProtoStore.Proofs.Blog.Concurrent
import ProtoStore.Proofs.Blog.Conversion
import ProtoStore.Proofs.Blog.Convertible
import ProtoStore.Proofs.Blog.Deleting
import ProtoStore.Proofs.Blog.Embedded
import ProtoStore.Proofs.Blog.Failing
import ProtoStore.Proofs.Blog.ForeignKeys
import ProtoStore.Proofs.Blog.Idempotent
import ProtoStore.Proofs.Blog.Leaves
import ProtoStore.Proofs.Blog.Links
import ProtoStore.Proofs.Blog.Listing
import ProtoStore.Proofs.Blog.Masks
import ProtoStore.Proofs.Blog.Narrowing
import ProtoStore.Proofs.Blog.Numbers
import ProtoStore.Proofs.Blog.Outcome
import ProtoStore.Proofs.Blog.Partial
import ProtoStore.Proofs.Blog.Patching
import ProtoStore.Proofs.Blog.References
import ProtoStore.Proofs.Blog.Reloading
import ProtoStore.Proofs.Blog.Resaving
import ProtoStore.Proofs.Blog.Rewriting
import ProtoStore.Proofs.Blog.SelectedKeys
import ProtoStore.Proofs.Blog.Tags
import ProtoStore.Proofs.Blog.Traceless
import ProtoStore.Proofs.Blog.Upserts
import ProtoStore.Proofs.Blog.Veto
import ProtoStore.Proofs.Code.Ident
import ProtoStore.Proofs.Code.Selection
import ProtoStore.Proofs.Domain.Action
import ProtoStore.Proofs.Domain.Cleaning
import ProtoStore.Proofs.Domain.Course
import ProtoStore.Proofs.Domain.Deletion
import ProtoStore.Proofs.Domain.Discipline
import ProtoStore.Proofs.Domain.Failing
import ProtoStore.Proofs.Domain.Frame
import ProtoStore.Proofs.Domain.Idle
import ProtoStore.Proofs.Domain.Invariant
import ProtoStore.Proofs.Domain.Joined
import ProtoStore.Proofs.Domain.Journal
import ProtoStore.Proofs.Domain.Listing
import ProtoStore.Proofs.Domain.Mask
import ProtoStore.Proofs.Domain.Masking
import ProtoStore.Proofs.Domain.Partial
import ProtoStore.Proofs.Domain.Reading
import ProtoStore.Proofs.Domain.Reload
import ProtoStore.Proofs.Domain.Repeat
import ProtoStore.Proofs.Domain.Resaving
import ProtoStore.Proofs.Domain.Run
import ProtoStore.Proofs.Domain.Session
import ProtoStore.Proofs.Domain.Stages
import ProtoStore.Proofs.Domain.Steps
import ProtoStore.Proofs.Domain.Success
import ProtoStore.Proofs.Domain.Traceless
import ProtoStore.Proofs.Domain.Veto
import ProtoStore.Proofs.Emit.Clashes
import ProtoStore.Proofs.Emit.Conversions
import ProtoStore.Proofs.Emit.Declarations
import ProtoStore.Proofs.Emit.Files
import ProtoStore.Proofs.Emit.ItemNames
import ProtoStore.Proofs.Emit.Items
import ProtoStore.Proofs.Emit.Operations
import ProtoStore.Proofs.Emit.Outputs
import ProtoStore.Proofs.Emit.Records
import ProtoStore.Proofs.Emit.Rendering
import ProtoStore.Proofs.Emit.Required
import ProtoStore.Proofs.Emit.Scope
import ProtoStore.Proofs.Emit.Segments
import ProtoStore.Proofs.Except
import ProtoStore.Proofs.Json.Codec
import ProtoStore.Proofs.Json.Columns
import ProtoStore.Proofs.Json.Decimals
import ProtoStore.Proofs.Json.Floats
import ProtoStore.Proofs.Json.Maps
import ProtoStore.Proofs.Json.Numbers
import ProtoStore.Proofs.Number.Nearest
import ProtoStore.Proofs.Number.Shortest
import ProtoStore.Proofs.Schema.Cycle
import ProtoStore.Proofs.Schema.Dependencies
import ProtoStore.Proofs.Schema.FieldNames
import ProtoStore.Proofs.Schema.Joins
import ProtoStore.Proofs.Schema.KeyColumns
import ProtoStore.Proofs.Schema.ModulePaths
import ProtoStore.Proofs.Schema.Order
import ProtoStore.Proofs.Schema.Partition
import ProtoStore.Proofs.Schema.Plurals
import ProtoStore.Proofs.Schema.Records
import ProtoStore.Proofs.Schema.Resolution
import ProtoStore.Proofs.Schema.Roles
import ProtoStore.Proofs.Schema.Search
import ProtoStore.Proofs.Schema.Tables
import ProtoStore.Proofs.Schema.WrittenKeys
import ProtoStore.Proofs.Source.Paths
import ProtoStore.Proofs.Store.Alike
import ProtoStore.Proofs.Store.Columns
import ProtoStore.Proofs.Store.Comparing
import ProtoStore.Proofs.Store.Edits
import ProtoStore.Proofs.Store.Effects
import ProtoStore.Proofs.Store.Equality
import ProtoStore.Proofs.Store.Failing
import ProtoStore.Proofs.Store.Linking
import ProtoStore.Proofs.Store.NewKeys
import ProtoStore.Proofs.Store.Order
import ProtoStore.Proofs.Store.Partial
import ProtoStore.Proofs.Store.Projection
import ProtoStore.Proofs.Store.Reading
import ProtoStore.Proofs.Store.Refill
import ProtoStore.Proofs.Store.Rewriting
import ProtoStore.Proofs.Store.Rows
import ProtoStore.Proofs.Store.Sameness
import ProtoStore.Proofs.Store.Selection
import ProtoStore.Proofs.Store.Strategies
import ProtoStore.Proofs.Store.Writing
import ProtoStore.Proofs.Text.Hex
import ProtoStore.Proofs.Text.Lettered
import ProtoStore.Proofs.Text.Words
import ProtoStore.Proofs.Wire.Codec
import ProtoStore.Proofs.Wire.Entry
import ProtoStore.Request
import ProtoStore.Schema.Association
import ProtoStore.Schema.Basic
import ProtoStore.Schema.Column
import ProtoStore.Schema.Error
import ProtoStore.Schema.Graph
import ProtoStore.Schema.Key
import ProtoStore.Schema.Model
import ProtoStore.Schema.Naming
import ProtoStore.Shelf
import ProtoStore.Source.Literal
import ProtoStore.Source.Path
import ProtoStore.Source.Token
import ProtoStore.Store.Basic
import ProtoStore.Store.Context
import ProtoStore.Store.Convert
import ProtoStore.Store.Failure
import ProtoStore.Store.Key
import ProtoStore.Store.Linked
import ProtoStore.Store.Moment
import ProtoStore.Store.Query
import ProtoStore.Store.Record
import ProtoStore.Store.Table
import ProtoStore.Store.Uuid
import ProtoStore.Store.Value
import ProtoStore.Strategy
import ProtoStore.Text.Alphanumeric
import ProtoStore.Text.CodeRange
import ProtoStore.Text.Hex
import ProtoStore.Text.Identifier
import ProtoStore.Text.LetterCase
import ProtoStore.Text.Literal
import ProtoStore.Text.Printable
import ProtoStore.Text.Words
import ProtoStore.Wire.Codec
import ProtoStore.Wire.Entry
import ProtoStore.Wire.Known
import ProtoStore.Wire.Varint
