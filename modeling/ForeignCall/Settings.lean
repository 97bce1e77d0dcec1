import ForeignCall.Text.Blank
import ForeignCall.Text.Lowercase

/-! The environment variables that steer loading and decoding. -/

namespace ForeignCall

structure Settings where
  library : Option String
  directory : Option String
  wire : Option String

namespace Settings

def unset : Settings := ⟨none, none, none⟩

/-- A variable without white space around it; unset and blank are the same. -/
def present (raw : Option String) : Option String :=
  let value := Text.trimmed (raw.getD "")
  if value.isEmpty then none else some value

def preferredWire (settings : Settings) : Option String :=
  (present settings.wire).map Text.lowercased

end Settings

end ForeignCall
