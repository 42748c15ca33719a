import Labeling.CommandLine.Run
import Labeling.Main
import Labeling.Proofs.Annotating.Recording
import Labeling.Proofs.Entries
import Labeling.Proofs.History.Zipper
import Labeling.Proofs.History.Bounds
import Labeling.Proofs.Annotating.WellFormed
import Labeling.Proofs.Json.Reading
import Labeling.Proofs.Wire
import Labeling.Proofs.Wire.RoundTrip
import Labeling.Proofs.Shape.Fields
import Labeling.Proofs.Shape.Rereading
import Labeling.Proofs.Catalogue
import Labeling.Proofs.Annotating.Loaded
import Labeling.Proofs.Annotating.Rebuilding
import Labeling.Proofs.Annotating.Reloading
import Labeling.Proofs.Annotating.Stability
import Labeling.Proofs.Repair.Idempotence
import Labeling.Proofs.Annotating.RelationEnds
import Labeling.Proofs.Annotating.Attached
import Labeling.Proofs.Annotating.Undoing
import Labeling.Proofs.Annotating.AcceptingAll
import Labeling.Proofs.Annotating.AcceptingOne
import Labeling.Proofs.Annotating.SuggestedNesting
import Labeling.Proofs.Annotating.KeptGeometry
import Labeling.Proofs.Annotating.PromotedOffsets
import Labeling.Proofs.Annotating.WrittenPayloads
import Labeling.Proofs.Annotating.Reshaping
import Labeling.Proofs.Annotating.SingleClassifications
import Labeling.Proofs.Annotating.FlatClassifications
import Labeling.Proofs.Annotating.ControlValues
import Labeling.Proofs.Annotating.FailedLoads
import Labeling.Proofs.Annotating.SelectionTold
import Labeling.Proofs.Annotating.Autosaving
import Labeling.Proofs.Annotating.RelatedPairs
import Labeling.Proofs.Config.FreshNames
import Labeling.Proofs.Config.Repeaters
import Labeling.Proofs.Config.Building
import Labeling.Proofs.Config.Targets
import Labeling.Proofs.Config.Placeholders
import Labeling.Proofs.Annotating.Regions.DisplayOrder
import Labeling.Proofs.Annotating.Regions.Forest
import Labeling.Proofs.Annotating.Regions.Labels
import Labeling.Proofs.Repair.Usable
import Labeling.Proofs.Repair.Unchanged
import Labeling.Proofs.Shape.Lossless
import Labeling.Proofs.Shape.Merging
import Labeling.Proofs.Annotating.Sweeping
import Labeling.Proofs.Annotating.UnseenSuggestions
import Labeling.Proofs.Annotating.SwitchedDrafts
import Labeling.Proofs.Annotating.InPlace
import Labeling.Proofs.Binding.Indices
import Labeling.Proofs.Binding.RepeatedOptions
import Labeling.Proofs.Reference.Paths
import Labeling.Proofs.Reference.Substituting
import Labeling.Proofs.Store.InPlace
