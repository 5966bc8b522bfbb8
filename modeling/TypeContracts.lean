import TypeContracts.Main
import TypeContracts.Mapping.Recorder
import TypeContracts.Proofs.Declaration.Unambiguous
import TypeContracts.Proofs.Emission.Merge
import TypeContracts.Proofs.Generation.Files
import TypeContracts.Proofs.Generation.MarkerLine
import TypeContracts.Proofs.Generation.RootOrder
import TypeContracts.Proofs.Graph.Nullability
import TypeContracts.Proofs.Source.Instantiation
import TypeContracts.Proofs.Source.Evaluation
import TypeContracts.Watching.Scene
import TypeContracts.Proofs.Source.Bases
import TypeContracts.Proofs.Source.Definition
import TypeContracts.Proofs.Source.Identity
import TypeContracts.Proofs.Generation.Placement
import TypeContracts.Proofs.Graph.Work
import TypeContracts.Proofs.Mapping.Refusal
import TypeContracts.Proofs.Source.Mappable
import TypeContracts.Proofs.Source.Binding
import TypeContracts.Proofs.Source.Exact
import TypeContracts.Proofs.Source.Hint
import TypeContracts.Proofs.Source.Inheritance
import TypeContracts.Proofs.Graph.Numbering
import TypeContracts.Proofs.Declaration.Names
import TypeContracts.Proofs.Emission.Rewriting
import TypeContracts.Proofs.Watching.Firing
import TypeContracts.Proofs.UnitPath.Specifier
import TypeContracts.Proofs.Declaration.Token
import TypeContracts.Proofs.Mapping.Enumeration
import TypeContracts.Proofs.OutputUnit
import TypeContracts.Proofs.Emission.FirstMarker
import TypeContracts.Proofs.UnitPath.Settled
import TypeContracts.Proofs.Layout.Dotted
import TypeContracts.Proofs.Listing
import TypeContracts.Proofs.Layout.Apart
import TypeContracts.Proofs.Mapping.Selection
