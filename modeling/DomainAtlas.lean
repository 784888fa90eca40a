import DomainAtlas.Diagram.Drawing
import DomainAtlas.Model.Services
import DomainAtlas.Model.Shown
import DomainAtlas.Registry
import DomainAtlas.Schema
import DomainAtlas.Proofs.Classification
import DomainAtlas.Proofs.Coherence
import DomainAtlas.Proofs.Containment
import DomainAtlas.Proofs.DocumentText
import DomainAtlas.Proofs.Supertypes
import DomainAtlas.Proofs.Messages
import DomainAtlas.Proofs.VisibleParts
import DomainAtlas.Proofs.Building
import DomainAtlas.Proofs.DiagramEdges
import DomainAtlas.Proofs.CatalogText
import DomainAtlas.Model.Changes
import DomainAtlas.Proofs.Changes
import DomainAtlas.Proofs.RegistryRuns
import DomainAtlas.Proofs.Locality
import DomainAtlas.Proofs.Boundaries
import DomainAtlas.Proofs.WalkOrder
import DomainAtlas.Proofs.Overriding
import DomainAtlas.Proofs.OverrideMarks
import DomainAtlas.Proofs.TypeText
import DomainAtlas.Proofs.Overloads
import DomainAtlas.Proofs.FieldShadowing
import DomainAtlas.Proofs.ElementTypes
import DomainAtlas.Proofs.IdentityFields
import DomainAtlas.Proofs.VersionFields
import DomainAtlas.Proofs.CommandMatching
import DomainAtlas.Proofs.ContainerKinds
import DomainAtlas.Proofs.Accessors
import DomainAtlas.Proofs.Navigation
import DomainAtlas.Proofs.References
import DomainAtlas.Proofs.Contexts
import DomainAtlas.Proofs.PackageMembers
import DomainAtlas.Proofs.DiagramRelations
import DomainAtlas.Proofs.DiagramContainment
import DomainAtlas.Proofs.DiagramLayout
import DomainAtlas.Proofs.CatalogBuilding
import DomainAtlas.Proofs.LookupPaths
import DomainAtlas.Proofs.InheritedInterfaces
import DomainAtlas.Proofs.DiagramNames
