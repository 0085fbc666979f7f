import StructuralProducts.Pattern.Lowering
import StructuralProducts.Pattern.Projection
import StructuralProducts.Session
import StructuralProducts.Proofs.Descriptor.Native
import StructuralProducts.Proofs.RegisteredContracts
import StructuralProducts.Proofs.Pattern.WellFormed
import StructuralProducts.Proofs.Pattern.LoweringSteps
import StructuralProducts.Proofs.Pattern.Acceptance
import StructuralProducts.Proofs.Pattern.Typing
import StructuralProducts.Proofs.Pattern.Progress
import StructuralProducts.Proofs.Pattern.Bindings
import StructuralProducts.Proofs.Pattern.BoundNames
import StructuralProducts.Proofs.Pattern.BindingPaths
import StructuralProducts.Proofs.Pattern.Interpretation
import StructuralProducts.Proofs.StableNames
import StructuralProducts.Proofs.IssuedNames
import StructuralProducts.Proofs.Reflection.Discovery
import StructuralProducts.Proofs.Reflection.Instances
import StructuralProducts.Proofs.SoleTypes
import StructuralProducts.Proofs.Reflection.FieldOrder
import StructuralProducts.Proofs.Reflection.Twins
import StructuralProducts.Proofs.Reflection.RoundTrip
import StructuralProducts.Proofs.Caching.Memoization
import StructuralProducts.Proofs.Caching.Isolation
import StructuralProducts.Proofs.Caching.SingleFlight
import StructuralProducts.Proofs.Pattern.ChosenAlternatives
import StructuralProducts.Proofs.Pattern.BindingTypes
import StructuralProducts.Proofs.Pattern.ContractOrder
import StructuralProducts.Proofs.Pattern.ContractReferences
import StructuralProducts.Proofs.Pattern.SiteIndependence
import StructuralProducts.Proofs.InterningRuns
import StructuralProducts.Proofs.NameResolution
import StructuralProducts.Proofs.Reflection.Replacement
import StructuralProducts.Proofs.Pattern.ErrorLimit
import StructuralProducts.Proofs.Reflection.Construction
import StructuralProducts.Proofs.Reflection.Interleaving
import StructuralProducts.Proofs.Reflection.Versions
import StructuralProducts.Proofs.Diagnostic.Histories
import StructuralProducts.Proofs.Pattern.InternalErrors
import StructuralProducts.Proofs.Pattern.Recovery
import StructuralProducts.Proofs.Pattern.RaisedNodes
import StructuralProducts.Proofs.Pattern.Blame
import StructuralProducts.Proofs.Pattern.RepeatedErrors
import StructuralProducts.Proofs.Diagnostic.Flushing
import StructuralProducts.Proofs.Pattern.SingleCalls
import StructuralProducts.Proofs.Reflection.SeparateClasses
import StructuralProducts.Proofs.Descriptor.Validation
