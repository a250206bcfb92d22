import MoveBindings.Text.Alphanumeric
import MoveBindings.Text.Digit
import MoveBindings.Text.Quoted
import MoveBindings.Text.Search
import MoveBindings.Text.Ordering
import MoveBindings.Dictionary
import MoveBindings.Decimal.Shortest
import MoveBindings.Json.Reader
import MoveBindings.Json.Writer
import MoveBindings.Tag.QualifiedName
import MoveBindings.Identifier
import MoveBindings.Path.Relative
import MoveBindings.TypeScript.Layout
import MoveBindings.TypeScript.TypeName
import MoveBindings.Diagnostic.Log
import MoveBindings.Declaration.Manifest
import MoveBindings.Failure
import MoveBindings.Settings.Reader
import MoveBindings.Container
import MoveBindings.Emission.ProjectFiles
import MoveBindings.Project
import MoveBindings.Main
import MoveBindings.Proofs.Tag.RoundTrip
import MoveBindings.Proofs.Path.Components
import MoveBindings.Proofs.Path.Resolve
import MoveBindings.Proofs.Catalog
import MoveBindings.Proofs.Emission.Indexes
import MoveBindings.Proofs.Path.Package
import MoveBindings.Proofs.Emission.BindingPaths
import MoveBindings.Proofs.Emission.ContainerFields
import MoveBindings.Proofs.Emission.Classes
import MoveBindings.Proofs.Emission.Aliases
import MoveBindings.Proofs.Emission.Runs
import MoveBindings.Proofs.Emission.Places
import MoveBindings.Proofs.Emission.LinkTargets
import MoveBindings.Proofs.Project.Links
import MoveBindings.Proofs.Emission.DistinctPaths
import MoveBindings.Proofs.Project.Outputs
import MoveBindings.Proofs.Emission.IndexNames
import MoveBindings.Proofs.Emission.LoadCalls
import MoveBindings.Proofs.Emission.AliasNames
import MoveBindings.Proofs.Project.BindingFiles
import MoveBindings.Proofs.Lists
import MoveBindings.Proofs.FirstFailure
import MoveBindings.Proofs.Manifest
import MoveBindings.Proofs.Emission.AliasFaults
import MoveBindings.Proofs.Emission.RunFaults
import MoveBindings.Proofs.TypeScript.Layouts
import MoveBindings.Proofs.Project.FirstFault
import MoveBindings.Proofs.Project.AliasFiles
import MoveBindings.Proofs.Emission.ClassFiles
import MoveBindings.Proofs.Emission.Children
import MoveBindings.Proofs.Emission.Findings
import MoveBindings.Proofs.Project.Wiring
import MoveBindings.Proofs.Emission.Alike
import MoveBindings.Proofs.Emission.KnownModules
import MoveBindings.Proofs.Emission.ProjectLines
import MoveBindings.Proofs.Emission.PackageOrder
import MoveBindings.Proofs.Project.PackageOrder
import MoveBindings.Proofs.Declaration.Additions
import MoveBindings.Proofs.Declaration.ManifestFailures
import MoveBindings.Proofs.Declaration.Calls
import MoveBindings.Proofs.Declaration.Schema
import MoveBindings.Proofs.Emission.ModuleNamespaces
import MoveBindings.Proofs.Project.ModuleNamespaces
import MoveBindings.Proofs.Path.Sources
import MoveBindings.Proofs.Tag.Stuck
import MoveBindings.Proofs.Tag.Refused
import MoveBindings.Proofs.Tag.ErrorPosition
import MoveBindings.Proofs.Text.Words
import MoveBindings.Proofs.TypeScript.AnyTypes
import MoveBindings.Proofs.Emission.UntypedNotes
import MoveBindings.Proofs.FileTree.Places
import MoveBindings.Proofs.FileTree.Writes
import MoveBindings.Proofs.CommandLine.Deliveries
import MoveBindings.Proofs.CommandLine.Runs
import MoveBindings.Proofs.Emission.AliasImports
import MoveBindings.Proofs.TypeScript.Rows
import MoveBindings.Proofs.Text.Balanced
import MoveBindings.Proofs.TypeScript.Nesting
import MoveBindings.Proofs.TypeScript.Counter
import MoveBindings.Proofs.TypeScript.Spacing
import MoveBindings.Proofs.TypeScript.Reuse
import MoveBindings.Proofs.TypeScript.Composition
import MoveBindings.Proofs.Emission.IndexWiring
import MoveBindings.Proofs.ContainerShape
import MoveBindings.Proofs.LookupValue
import MoveBindings.Proofs.Json.Members
import MoveBindings.Proofs.Settings.Entries
import MoveBindings.Proofs.StandardIdentifier
import MoveBindings.Proofs.Diagnostic.Reports
import MoveBindings.Proofs.TypeScript.Conversion
import MoveBindings.Proofs.Tag.Trace
import MoveBindings.Proofs.Tag.Progress
