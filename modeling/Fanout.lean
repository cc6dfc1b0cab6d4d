import Fanout.Artifact.Coordinate
import Fanout.Artifact.Dependency
import Fanout.BuildOptions
import Fanout.Capability.Basic
import Fanout.Capability.Selection
import Fanout.Catalog
import Fanout.CommandLine.Arguments
import Fanout.CommandLine.Files
import Fanout.CommandLine.Folder
import Fanout.CommandLine.Report
import Fanout.CommandLine.Session
import Fanout.Configuration.Basic
import Fanout.Configuration.Flat
import Fanout.Configuration.Properties
import Fanout.Configuration.Setting
import Fanout.Configuration.Tree
import Fanout.Decimal.Shortest
import Fanout.EntryPoint
import Fanout.Fault
import Fanout.Generation.Apply
import Fanout.Generation.Basic
import Fanout.Generation.Contribution
import Fanout.Generation.Output
import Fanout.Generation.Summary
import Fanout.Json
import Fanout.Main
import Fanout.Manifest
import Fanout.Partition
import Fanout.Pattern.Basic
import Fanout.Pattern.Brackets
import Fanout.Pattern.CharSet
import Fanout.Pattern.Expression
import Fanout.Plugin.Basic
import Fanout.Plugin.Document
import Fanout.Plugin.Propagation
import Fanout.Plugin.Registry
import Fanout.Plugin.Sets
import Fanout.Project
import Fanout.SortedMap
import Fanout.Store.BuildProperties
import Fanout.Store.Overlays
import Fanout.Store.Scoped
import Fanout.Target
import Fanout.Template.Basic
import Fanout.Template.Index
import Fanout.Template.Revisions
import Fanout.Template.Routing
import Fanout.Text
import Fanout.Text.Invisible
import Fanout.Text.Quoted
import Fanout.Toml.Decode
import Fanout.Toml.Document
import Fanout.Toml.Item
import Fanout.Toml.Mark
import Fanout.Toml.Printer
import Fanout.Toml.Quoted
import Fanout.Toml.Reader
import Fanout.Toml.Scalar
import Fanout.Proofs.Properties.Reader
import Fanout.Proofs.Properties.Spelling
import Fanout.Proofs.Properties.RoundTrip
import Fanout.Proofs.Capability.FeatureSet
import Fanout.Proofs.Capability.Selection
import Fanout.Proofs.Fault
import Fanout.Proofs.Partition.Pass
import Fanout.Proofs.Partition.Membership
import Fanout.Proofs.Generation.Coverage
import Fanout.Proofs.Template.Index
import Fanout.Proofs.Generation.Reachable
import Fanout.Proofs.Template.Routing
import Fanout.Proofs.Generation.Templates
import Fanout.Proofs.Capability.Order
import Fanout.Proofs.Generation.Calls
import Fanout.Proofs.Template.Paths
import Fanout.Proofs.Plugin.Sets
import Fanout.Proofs.Generation.Isolation
import Fanout.Proofs.Partition.Gates
import Fanout.Proofs.Partition.Conflicts
import Fanout.Proofs.Configuration.Place
import Fanout.Proofs.Generation.Labels
import Fanout.Proofs.Generation.Batch
import Fanout.Proofs.Generation.Configurations
import Fanout.Proofs.Template.Suppression
import Fanout.Proofs.Generation.Layout
import Fanout.Proofs.Text.Ends
import Fanout.Proofs.Project
import Fanout.Proofs.Generation.Opening
import Fanout.Proofs.Configuration.Leaves
import Fanout.Proofs.Configuration.Dotted
import Fanout.Proofs.Configuration.Paths
import Fanout.Proofs.Plugin.Union
import Fanout.Proofs.Generation.Faultless
import Fanout.Proofs.Catalog
import Fanout.Proofs.CommandLine.Session
import Fanout.Proofs.Configuration.Keys
import Fanout.Proofs.Properties.Lines
import Fanout.Proofs.Generation.Refusal
import Fanout.Proofs.Partition.Rivals
import Fanout.Proofs.Template.Revisions
import Fanout.Proofs.Template.Registration
import Fanout.Proofs.Artifact.Additions
import Fanout.Proofs.Plugin.Registry
import Fanout.Proofs.Plugin.Coordinates
import Fanout.Proofs.Artifact.Coordinate
import Fanout.Proofs.Generation.Files
import Fanout.Proofs.Plugin.Propagation
import Fanout.Proofs.Plugin.Releases
import Fanout.Proofs.Toml.Excerpt
import Fanout.Proofs.Capability.Offers
import Fanout.Proofs.Store.FirstUse
import Fanout.Proofs.Store.BuildProperties
import Fanout.Proofs.Text.Words
import Fanout.Proofs.Project.Identifiers
