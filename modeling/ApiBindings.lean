import ApiBindings.CommandLine.Commands
import ApiBindings.CommandLine.Files
import ApiBindings.Main
import ApiBindings.Proofs.AttachedTypes
import ApiBindings.Proofs.Checking
import ApiBindings.Proofs.ClaimedNames
import ApiBindings.Proofs.ClassLiterals
import ApiBindings.Proofs.CoherentTypes
import ApiBindings.Proofs.DerivedKeys
import ApiBindings.Proofs.DistinctKeys
import ApiBindings.Proofs.Erasure
import ApiBindings.Proofs.EscapedTexts
import ApiBindings.Proofs.FileChanges
import ApiBindings.Proofs.Growth
import ApiBindings.Proofs.Headers
import ApiBindings.Proofs.LeadingSegments
import ApiBindings.Proofs.Locality
import ApiBindings.Proofs.Locations
import ApiBindings.Proofs.MergedRequirements
import ApiBindings.Proofs.MethodNames
import ApiBindings.Proofs.ParameterNames
import ApiBindings.Proofs.ParameterTypes
import ApiBindings.Proofs.PathReading
import ApiBindings.Proofs.References
import ApiBindings.Proofs.Repetitions
import ApiBindings.Proofs.Rereading
import ApiBindings.Proofs.Returns
import ApiBindings.Proofs.SchemesInUse
import ApiBindings.Proofs.SecuredViews
import ApiBindings.Proofs.SharedNames
import ApiBindings.Proofs.Signatures
import ApiBindings.Proofs.StatusKeys
import ApiBindings.Proofs.TagGroups
import ApiBindings.Proofs.TagSignatures
import ApiBindings.Proofs.TypeFidelity
