/-!
# Unreadable texts

What a text was to be read as when it could not be read, with the text as it was given.
-/

namespace PackageVerification

inductive Unreadable
  | answer (text : String)
  | role (text : String)
  | identifier (text : String)
  | logFormat (text : String)
  deriving DecidableEq, Repr

/-- The message quotes the text unchanged, whatever was trimmed or lowered to read it. -/
def Unreadable.message : Unreadable → String
  | .answer text => "invalid response code: " ++ text
  | .role text => "invalid verifier role: " ++ text
  | .identifier text => "invalid identifier: " ++ text
  | .logFormat text => "unknown log format: " ++ text ++ " (expected \"human\" or \"json\")"

end PackageVerification
