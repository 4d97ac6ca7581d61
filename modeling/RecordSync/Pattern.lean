set_option autoImplicit false

namespace RecordSync

-- What compiling leaves of a text pattern. How it matches and replaces is the compiler's business.
structure Pattern where
  text : String
  accepts : String → Bool
  -- The replacement comes first, then the text whose matches are replaced.
  replaceAll : String → String → String

namespace Pattern

-- A text that does not compile is answered with a message.
abbrev Compiler := String → Except String Pattern

-- The compiler that knows these patterns by their texts, and no others.
def among (known : List Pattern) : Compiler := fun text =>
  match known.find? fun p => p.text = text with
  | some p => .ok p
  | none => .error "unknown pattern"

end Pattern

end RecordSync
