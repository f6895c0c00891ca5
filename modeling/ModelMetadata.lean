import ModelMetadata.Main
import ModelMetadata.Marker
import ModelMetadata.Proofs.ClassScope
import ModelMetadata.Proofs.Enumerations
import ModelMetadata.Proofs.Framing
import ModelMetadata.Proofs.Rerunning
import ModelMetadata.Proofs.Rescoping
import ModelMetadata.Proofs.Steadiness
import ModelMetadata.Proofs.Resolution
import ModelMetadata.Proofs.Dotting
import ModelMetadata.Proofs.Lexing
import ModelMetadata.Proofs.References
import ModelMetadata.Proofs.Naming
import ModelMetadata.Proofs.Statements
import ModelMetadata.Proofs.Blocks
import ModelMetadata.Proofs.NamedTables
import ModelMetadata.Proofs.NamedTypes
import ModelMetadata.Proofs.NamedAnswers
import ModelMetadata.Proofs.SelfContained
import ModelMetadata.Proofs.Collected
import ModelMetadata.Proofs.Overriding
import ModelMetadata.Proofs.Seeding
import ModelMetadata.Proofs.Evaluating
import ModelMetadata.Proofs.Completing
import ModelMetadata.Proofs.Recording
import ModelMetadata.Proofs.Importing
import ModelMetadata.Proofs.Paths
import ModelMetadata.Proofs.FileNames
import ModelMetadata.Proofs.Indexing
import ModelMetadata.Proofs.LateImports
import ModelMetadata.Proofs.HandedOn
import ModelMetadata.Proofs.Handles
import ModelMetadata.Proofs.FileTrees
import ModelMetadata.Proofs.Sharing
import ModelMetadata.Proofs.Loading
import ModelMetadata.Proofs.Batches
import ModelMetadata.Proofs.DirectoryRuns
import ModelMetadata.Proofs.TypeParts
import ModelMetadata.Proofs.Comparing
import ModelMetadata.Proofs.ModuleParts
import ModelMetadata.Proofs.BoundReferences
import ModelMetadata.Proofs.Lookups
import ModelMetadata.Proofs.Reexports
import ModelMetadata.Proofs.Identities
import ModelMetadata.Proofs.Agreeing
import ModelMetadata.Proofs.Offers
import ModelMetadata.Proofs.Modes
import ModelMetadata.Proofs.Reordering
import ModelMetadata.Proofs.Accounting
import ModelMetadata.Proofs.TypedDicts
import ModelMetadata.Proofs.Additions
import ModelMetadata.Proofs.Inquiries
import ModelMetadata.Proofs.HintForms
import ModelMetadata.Proofs.Expanding
import ModelMetadata.Proofs.UnionMembers
import ModelMetadata.Proofs.UnionTypes
import ModelMetadata.Proofs.UnionBranches
import ModelMetadata.Proofs.Layers
import ModelMetadata.Proofs.Requoting
import ModelMetadata.Proofs.QuotedAnnotations
import ModelMetadata.Proofs.Respelling
import ModelMetadata.Proofs.ImportStyles
import ModelMetadata.Proofs.Restyling
import ModelMetadata.Proofs.ClassMaps
import ModelMetadata.Proofs.NormalTypes
import ModelMetadata.Proofs.FreeNames
import ModelMetadata.Proofs.Nestings
import ModelMetadata.Proofs.Unwrapping
import ModelMetadata.Proofs.SubscriptForms
import ModelMetadata.Proofs.NullBranches
import ModelMetadata.Proofs.DomainLevels
import ModelMetadata.Proofs.DomainTypes
import ModelMetadata.Proofs.CanonicalLiterals
import ModelMetadata.Proofs.ExampleValues
import ModelMetadata.Proofs.ExampleLiterals
import ModelMetadata.Proofs.EntryOrder
import ModelMetadata.Proofs.Places
import ModelMetadata.Proofs.ClassReports
import ModelMetadata.Proofs.ImportBindings
import ModelMetadata.Proofs.RelativeImports
import ModelMetadata.Proofs.Comments
import ModelMetadata.Proofs.KeptComments
import ModelMetadata.Proofs.Settling
import ModelMetadata.Proofs.FileKeys
import ModelMetadata.Proofs.Shadowing
import ModelMetadata.Proofs.PrintedNames
import ModelMetadata.Proofs.NamedFaults
import ModelMetadata.Proofs.NamedReferences
