/-
Request methods.

A method is a token and keeps its case.  Routes exist for eight methods, whose
names a configuration may write in any case.
-/

namespace HttpRouting

structure Method where
  token : String
  deriving DecidableEq, Repr, Inhabited

namespace Method

def isTokenCharacter (character : Char) : Bool :=
  character.isAlphanum ||
    "!#$%&'*+-.^_\x60|~".toList.contains character

def ofToken? (token : String) : Option Method :=
  if token = "" || !token.toList.all isTokenCharacter then none
  else some { token := token }

def supported : List Method :=
  [{ token := "GET" }, { token := "POST" }, { token := "PUT" },
    { token := "DELETE" }, { token := "PATCH" }, { token := "OPTIONS" },
    { token := "HEAD" }, { token := "TRACE" }]

def ofName? (name : String) : Option Method :=
  supported.find? (fun method => name.map Char.toUpper == method.token)

end Method

end HttpRouting
