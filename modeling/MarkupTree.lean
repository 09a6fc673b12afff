import MarkupTree.Main
import MarkupTree.Node.Equality
import MarkupTree.Proofs.Bindings.Edits
import MarkupTree.Proofs.Concurrent.Immediate
import MarkupTree.Proofs.Concurrent.Iteration
import MarkupTree.Proofs.Concurrent.MissingUtilities
import MarkupTree.Proofs.Concurrent.Resolution
import MarkupTree.Proofs.Documents.Calls
import MarkupTree.Proofs.Documents.HeldTrees
import MarkupTree.Proofs.Documents.Trees
import MarkupTree.Proofs.Extensions.Classes
import MarkupTree.Proofs.Extensions.Order
import MarkupTree.Proofs.Extensions.Visibility
import MarkupTree.Proofs.Markup.Attributes
import MarkupTree.Proofs.Markup.StaticTrees
import MarkupTree.Proofs.Rendering.CallExpressions
import MarkupTree.Proofs.Rendering.Configured
import MarkupTree.Proofs.Rendering.DepthLimit
import MarkupTree.Proofs.Rendering.Faults
import MarkupTree.Proofs.Rendering.History
import MarkupTree.Proofs.Rendering.MemberAccess
import MarkupTree.Proofs.Rendering.NamedProps
import MarkupTree.Proofs.Rendering.Respelling
import MarkupTree.Proofs.Rendering.Sealed
import MarkupTree.Proofs.Site.Components
import MarkupTree.Proofs.Site.Independence
import MarkupTree.Proofs.Syntax.Bookkeeping
import MarkupTree.Proofs.Syntax.Height
import MarkupTree.Proofs.Syntax.Misplacement
import MarkupTree.Proofs.Syntax.Quotation
import MarkupTree.Proofs.Values.EqualityOperators
