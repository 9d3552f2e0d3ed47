import TreeSearch.Main
import TreeSearch.Proofs.Command.Outcome
import TreeSearch.Proofs.Grammar.Tables
import TreeSearch.Proofs.Json.Appending
import TreeSearch.Proofs.Json.Integers
import TreeSearch.Proofs.Json.Ordering
import TreeSearch.Proofs.Json.Reading
import TreeSearch.Proofs.Json.RoundTrip
import TreeSearch.Proofs.Json.Strings
import TreeSearch.Proofs.Json.Values
import TreeSearch.Proofs.Node.Canonical
import TreeSearch.Proofs.Node.Equality
import TreeSearch.Proofs.Node.Loading
import TreeSearch.Proofs.Node.Lossless
import TreeSearch.Proofs.Node.Nodes
import TreeSearch.Proofs.Path.Rendering
import TreeSearch.Proofs.Query.ExactPaths
import TreeSearch.Proofs.Query.TypeNames
import TreeSearch.Proofs.Report.Sessions
import TreeSearch.Proofs.Text.ByteOrder
import TreeSearch.Proofs.Walk.AddressOrder
import TreeSearch.Proofs.Walk.Addresses
import TreeSearch.Proofs.Walk.Annotation
import TreeSearch.Proofs.Walk.Composition
import TreeSearch.Proofs.Walk.Conformance
import TreeSearch.Proofs.Walk.DeclaredSlots
import TreeSearch.Proofs.Walk.DepthLimit
import TreeSearch.Proofs.Walk.Descent
import TreeSearch.Proofs.Walk.Events
import TreeSearch.Proofs.Walk.KeyedSlots
import TreeSearch.Proofs.Walk.Layout
import TreeSearch.Proofs.Walk.Lineage
import TreeSearch.Proofs.Walk.OpenChain
import TreeSearch.Proofs.Walk.RenderedAncestors
import TreeSearch.Proofs.Walk.Resolution
import TreeSearch.Proofs.Walk.Schedule
import TreeSearch.Proofs.Walk.Simulation
import TreeSearch.Proofs.Walk.Skipping
import TreeSearch.Proofs.Walk.VisitTree
import TreeSearch.Walk.Log
