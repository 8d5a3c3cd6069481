/-
JSON values.

Numbers keep the text they were written with, since a reader of documents has
to tell `1` from `1.0`.  The escapes of a JSON string may name half of a
surrogate pair; such a string is well-formed JSON but spells no text.
-/

namespace HttpRouting

inductive Json where
  | null
  | bool (value : Bool)
  | number (text : String)
  /-- A string; `none` when its escapes spell no text. -/
  | string (text : Option String)
  | array (elements : List Json)
  /-- Members in the order of the document, repeated keys included. -/
  | object (members : List (Option String × Json))
  deriving Repr, Inhabited

namespace Json

def text (value : String) : Json :=
  .string (some value)

def natural (value : Nat) : Json :=
  .number (toString value)

def integer (value : Int) : Json :=
  .number (toString value)

def textArray (values : List String) : Json :=
  .array (values.map text)

def record (members : List (String × Json)) : Json :=
  .object (members.map (fun member => (some member.1, member.2)))

/-- The members without those whose key comes again. -/
def lastMembers (members : List (Option String × Json)) :
    List (Option String × Json) :=
  match members with
  | [] => []
  | (key, value) :: rest =>
      let kept := lastMembers rest
      if kept.any (fun member => member.1 == key) then kept
      else (key, value) :: kept

mutual

/-- Every object keeps the last member of each key only. -/
def distinct : Json → Json
  | .array elements => .array (distinctEach elements)
  | .object members => .object (lastMembers (distinctMembers members))
  | value => value

def distinctEach : List Json → List Json
  | [] => []
  | value :: rest => value.distinct :: distinctEach rest

def distinctMembers :
    List (Option String × Json) → List (Option String × Json)
  | [] => []
  | (key, value) :: rest => (key, value.distinct) :: distinctMembers rest

end

def member? (key : String) : Json → Option Json
  | .object members =>
      (members.find? (fun member => member.1 == some key)).map Prod.snd
  | _ => none

/-- The value of a key that comes at most once. -/
def uniqueMember? (key : String) (members : List (Option String × Json)) :
    Option (Option Json) :=
  match members.filter (fun member => member.1 == some key) with
  | [] => some none
  | [member] => some (some member.2)
  | _ => none

def keysSpelled (members : List (Option String × Json)) : Bool :=
  members.all (fun member => member.1.isSome)

def text? : Json → Option String
  | .string spelled => spelled
  | _ => none

def requiredText? (key : String) (members : List (Option String × Json)) :
    Option String := do
  let value ← ← uniqueMember? key members
  value.text?

def elements? : Json → Option (List Json)
  | .array elements => some elements
  | _ => none

def textArray? (value : Json) : Option (List String) :=
  value.elements?.bind (fun elements => elements.mapM text?)

/-- The whole number that a number without fraction and exponent spells. -/
def integer? : Json → Option Int
  | .number spelled =>
      match spelled.toList with
      | '-' :: digits => (naturalOfDigits? digits).map (fun n => -(n : Int))
      | digits => (naturalOfDigits? digits).map (fun n => (n : Int))
  | _ => none
where
  naturalOfDigits? (digits : List Char) : Option Nat :=
    if digits.isEmpty || !digits.all Char.isDigit then none
    else
      some (digits.foldl
        (fun value digit => value * 10 + (digit.toNat - '0'.toNat)) 0)

end Json

end HttpRouting
