/-
What can be wrong with a pattern.

Offsets count UTF-8 bytes from the start of the pattern.
-/

namespace HttpRouting

inductive Defect where
  | missingLeadingSlash
  | emptySegment (offset : Nat)
  | invalidCharacter (offset : Nat) (found : Char)
  /-- The pattern ends inside braces. -/
  | unclosedField
  /-- A brace opens inside braces. -/
  | nestedField (offset : Nat)
  /-- The text after a brace is not a dotted list of identifiers. -/
  | invalidFieldPath (path : String)
  | deepWildcardNotLast
  | emptyVerb
  deriving DecidableEq, Repr, Inhabited

structure ParseError where
  pattern : String
  defect : Defect
  deriving DecidableEq, Repr, Inhabited

def Defect.message : Defect → String
  | .missingLeadingSlash => "must start with '/'"
  | .emptySegment offset => "empty segment at offset " ++ toString offset
  | .invalidCharacter offset found =>
      "unexpected character '" ++ found.toString ++ "' at offset " ++
        toString offset
  | .unclosedField => "expected '\x7d' before end of input"
  | .nestedField offset => "nested variable at offset " ++ toString offset
  | .invalidFieldPath path => "bad field path '" ++ path ++ "'"
  | .deepWildcardNotLast => "'**' must be the last segment"
  | .emptyVerb => "empty verb after ':'"

def ParseError.message (error : ParseError) : String :=
  "invalid template '" ++ error.pattern ++ "': " ++ error.defect.message

end HttpRouting
