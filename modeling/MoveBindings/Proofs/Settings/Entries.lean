import Mathlib
import MoveBindings.Proofs.Json.Members
import MoveBindings.Proofs.Outcomes
import MoveBindings.Settings.Reader

/-!
# What the entries of a configuration do

An entry is accepted when its key is known and its value has the right type, and
only accepted entries matter: each gives its value to the setting of its key, and
the other settings stay as they are. So entries do not interact, and neither
their order nor the entries that are not accepted make a difference. The naming
rules are replaced together, but a rule without an entry is replaced by its
default.
-/

namespace MoveBindings

namespace SettingType

end SettingType

namespace Overrides

variable {entries others : List (String × Json)}

end Overrides

namespace Settings

/-- The settings whose value is a text, by their keys. -/
def texts (s : Settings) : Dictionary String String where
  entries :=
    [("keywordSuffix", s.naming.keywordSuffix), ("tempMarker", s.naming.tempMarker),
      ("tempPrefix", s.naming.tempPrefix), ("shadowSeparator", s.naming.shadowSeparator),
      ("shadowReplacement", s.naming.shadowReplacement), ("runtimeModule", s.runtimeModule),
      ("clientModule", s.clientModule), ("stdPackage", s.stdPackage), ("tableName", s.tableName),
      ("iterableTableName", s.iterableTableName)]

variable {entries : List (String × Json)} {base s : Settings}

end Settings

namespace Overrides

end Overrides

end MoveBindings
