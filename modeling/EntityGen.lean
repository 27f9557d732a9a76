import EntityGen.Blueprint.Class
import EntityGen.Blueprint.Dao
import EntityGen.Blueprint.Entity
import EntityGen.Blueprint.Fault
import EntityGen.Blueprint.Mapping
import EntityGen.Blueprint.Program
import EntityGen.Blueprint.Signature
import EntityGen.Blueprint.Tag
import EntityGen.Blueprint.TypeRef
import EntityGen.Blueprint.Variant
import EntityGen.CommandLine.Arguments
import EntityGen.CommandLine.Command
import EntityGen.CommandLine.Run
import EntityGen.Compile.Context
import EntityGen.Compile.Fault
import EntityGen.Compile.Phase
import EntityGen.Decimal.Binary64
import EntityGen.Files.Path
import EntityGen.Files.Registry
import EntityGen.Files.Staging
import EntityGen.Files.Tree
import EntityGen.Files.Volume
import EntityGen.Java.Annotation
import EntityGen.Java.ClassText
import EntityGen.Java.CompilationUnit
import EntityGen.Java.Generator
import EntityGen.Java.Identifier
import EntityGen.Java.Resolver
import EntityGen.Java.StringLiteral
import EntityGen.Java.TypeText
import EntityGen.Json
import EntityGen.Layout.Fragment
import EntityGen.Layout.Imports
import EntityGen.Layout.Writer
import EntityGen.Lint.Basic
import EntityGen.Lint.DaoMethod
import EntityGen.Lint.Diagnostic
import EntityGen.Lint.DuplicateField
import EntityGen.Lint.Identifier
import EntityGen.Lint.QueryReturnType
import EntityGen.Lint.ReservedName
import EntityGen.Lint.Suite
import EntityGen.Lint.TypeCollision
import EntityGen.Lint.UniqueConstraint
import EntityGen.Main
import EntityGen.Model.Basic
import EntityGen.Model.Decode
import EntityGen.Model.Fault
import EntityGen.Model.FieldType
import EntityGen.Model.Load
import EntityGen.Model.Mismatch
import EntityGen.Model.Read
import EntityGen.Model.Rules
import EntityGen.Model.Source
import EntityGen.Naming
import EntityGen.Proofs.Attempts
import EntityGen.Proofs.Blueprint.Dao
import EntityGen.Proofs.Blueprint.Entity
import EntityGen.Proofs.Blueprint.Settings
import EntityGen.Proofs.Blueprint.Texts
import EntityGen.Proofs.Compile.Build
import EntityGen.Proofs.Compile.Check
import EntityGen.Proofs.Compile.Classes
import EntityGen.Proofs.Compile.Columns
import EntityGen.Proofs.Compile.Constraints
import EntityGen.Proofs.Compile.Growth
import EntityGen.Proofs.Compile.InheritedMethods
import EntityGen.Proofs.Compile.Tables
import EntityGen.Proofs.Enrolment
import EntityGen.Proofs.Files.Inside
import EntityGen.Proofs.Files.Lawful
import EntityGen.Proofs.Files.Paths
import EntityGen.Proofs.Files.Registry
import EntityGen.Proofs.Files.Tree
import EntityGen.Proofs.Files.Writing
import EntityGen.Proofs.FirstOccurrences
import EntityGen.Proofs.Java.AnnotationPieces
import EntityGen.Proofs.Java.AnnotationReader
import EntityGen.Proofs.Java.AnnotationText
import EntityGen.Proofs.Java.AnnotationTokens
import EntityGen.Proofs.Java.Bindings
import EntityGen.Proofs.Java.Bodies
import EntityGen.Proofs.Java.Comparison
import EntityGen.Proofs.Java.Description
import EntityGen.Proofs.Java.EntityAnnotations
import EntityGen.Proofs.Java.EntityImports
import EntityGen.Proofs.Java.Identifier
import EntityGen.Proofs.Java.Independence
import EntityGen.Proofs.Java.Mentions
import EntityGen.Proofs.Java.MethodTokens
import EntityGen.Proofs.Java.Opacity
import EntityGen.Proofs.Java.Owners
import EntityGen.Proofs.Java.Placement
import EntityGen.Proofs.Java.Platform
import EntityGen.Proofs.Java.ProgramNames
import EntityGen.Proofs.Java.References
import EntityGen.Proofs.Java.Resolution
import EntityGen.Proofs.Java.Scoping
import EntityGen.Proofs.Java.Settled
import EntityGen.Proofs.Java.Stretches
import EntityGen.Proofs.Java.StringLiteral
import EntityGen.Proofs.Java.TypeText
import EntityGen.Proofs.Java.Variants
import EntityGen.Proofs.Layout.Collecting
import EntityGen.Proofs.Layout.Comment
import EntityGen.Proofs.Layout.Flattening
import EntityGen.Proofs.Layout.Imports
import EntityGen.Proofs.Layout.Writer
import EntityGen.Proofs.Lint.Accessors
import EntityGen.Proofs.Lint.Collisions
import EntityGen.Proofs.Lint.QueryResults
import EntityGen.Proofs.Lint.Repetitions
import EntityGen.Proofs.Lint.Silence
import EntityGen.Proofs.Lint.Texts
import EntityGen.Proofs.Model.Accepted
import EntityGen.Proofs.Model.Labels
import EntityGen.Proofs.Model.LastPlace
import EntityGen.Proofs.Model.Places
import EntityGen.Proofs.Model.Reading
import EntityGen.Proofs.Model.Violations
import EntityGen.Proofs.Naming
import EntityGen.Proofs.Report.Gates
import EntityGen.Proofs.Text.Blank
import EntityGen.Proofs.Text.Letters
import EntityGen.Proofs.Text.Lower
import EntityGen.Proofs.Text.Search
import EntityGen.Proofs.Text.Upper
import EntityGen.Report.Check
import EntityGen.Report.Generate
import EntityGen.Report.Line
import EntityGen.Roster
import EntityGen.Text.Ascending
import EntityGen.Text.Blank
import EntityGen.Text.Case
import EntityGen.Text.CaseTables
import EntityGen.Text.Digits
import EntityGen.Text.Lines
import EntityGen.Text.Pieces
import EntityGen.Text.PrintTables
import EntityGen.Text.Quoted
import EntityGen.Text.Ranges
import EntityGen.Text.Search
import EntityGen.Text.Span
import EntityGen.Toml.Document
import EntityGen.Toml.Node
import EntityGen.Toml.Quoted
import EntityGen.Toml.Reader
import EntityGen.Toml.Scalar
import EntityGen.Toml.Table
