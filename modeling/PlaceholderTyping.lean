import PlaceholderTyping.Catalog.Loading
import PlaceholderTyping.Edit.Application
import PlaceholderTyping.Tree.Equality
import PlaceholderTyping.Typing.Resolution
import PlaceholderTyping.Proofs.Occurrence.FirstByOrdinal
import PlaceholderTyping.Proofs.Occurrence.Surroundings
import PlaceholderTyping.Proofs.Occurrence.FirstAppearance
import PlaceholderTyping.Proofs.Occurrence.FindPlaceholders
import PlaceholderTyping.Proofs.Normalization.OutermostMarkers
import PlaceholderTyping.Proofs.Normalization.Numbering
import PlaceholderTyping.Proofs.Normalization.MarkerReading
import PlaceholderTyping.Proofs.Typing.Completeness
import PlaceholderTyping.Proofs.Edit.Rewriting
import PlaceholderTyping.Proofs.Normalization.EditedSource
import PlaceholderTyping.Proofs.Normalization.Substitution
import PlaceholderTyping.Proofs.Catalog.Columns
import PlaceholderTyping.Proofs.Normalization.Origins
import PlaceholderTyping.Proofs.Typing.Declaration
import PlaceholderTyping.Proofs.Normalization.Frame
import PlaceholderTyping.Proofs.Normalization.Alignment
import PlaceholderTyping.Proofs.Catalog.History
import PlaceholderTyping.Proofs.TypeName.RoundTrip
import PlaceholderTyping.Proofs.TypeName.Grammar
import PlaceholderTyping.Proofs.Catalog.Documents
import PlaceholderTyping.Proofs.Typing.Assignment
import PlaceholderTyping.Proofs.Typing.Names
import PlaceholderTyping.Proofs.Typing.Independence
import PlaceholderTyping.Proofs.Typing.UntypedContexts
import PlaceholderTyping.Proofs.Typing.Shifting
import PlaceholderTyping.Proofs.Typing.Qualification
import PlaceholderTyping.Proofs.Typing.Consultation
import PlaceholderTyping.Proofs.Normalization.Respelling
import PlaceholderTyping.Proofs.Catalog.FunctionHistory
import PlaceholderTyping.Proofs.Edit.Acceptance
import PlaceholderTyping.Proofs.Normalization.CastChains
import PlaceholderTyping.Proofs.Catalog.DirectLookup
import PlaceholderTyping.Proofs.Typing.Comparison
import PlaceholderTyping.Proofs.Typing.Argument
import PlaceholderTyping.Proofs.Typing.Renaming
import PlaceholderTyping.Proofs.Edit.Refusal
import PlaceholderTyping.Proofs.Edit.Overflow
import PlaceholderTyping.Proofs.Tree.Traversal
import PlaceholderTyping.Proofs.Tree.PreOrder
import PlaceholderTyping.Proofs.Normalization.Unmarked
import PlaceholderTyping.Proofs.Normalization.SourceSpelling
