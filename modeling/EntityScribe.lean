import EntityScribe.Expression
import EntityScribe.Main
import EntityScribe.Plugin.Script
import EntityScribe.Template.Store
import EntityScribe.Proofs.ArtifactNames
import EntityScribe.Proofs.Batches
import EntityScribe.Proofs.BlueprintTexts
import EntityScribe.Proofs.Cleaning
import EntityScribe.Proofs.Completion
import EntityScribe.Proofs.Containment
import EntityScribe.Proofs.Declarations
import EntityScribe.Proofs.Dispatch
import EntityScribe.Proofs.ExitCodes
import EntityScribe.Proofs.ExtensionTexts
import EntityScribe.Proofs.Footprint
import EntityScribe.Proofs.Growth
import EntityScribe.Proofs.History
import EntityScribe.Proofs.Identifiers
import EntityScribe.Proofs.LineEnds
import EntityScribe.Proofs.Locality
import EntityScribe.Proofs.LogLevels
import EntityScribe.Proofs.References
import EntityScribe.Proofs.Success
import EntityScribe.Proofs.Sweeping
import EntityScribe.Proofs.Variables
