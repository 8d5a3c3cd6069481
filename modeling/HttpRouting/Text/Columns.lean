/-
Texts set in columns of a fixed width.

A text that is wider than its column is written in full.
-/

namespace HttpRouting

def blanks (count : Nat) : String :=
  String.ofList (List.replicate count ' ')

def alignLeft (width : Nat) (text : String) : String :=
  text ++ blanks (width - text.length)

def alignRight (width : Nat) (text : String) : String :=
  blanks (width - text.length) ++ text

/-- With an odd number of blanks the larger part stands on the right. -/
def alignCentre (width : Nat) (text : String) : String :=
  let missing := width - text.length
  blanks (missing / 2) ++ text ++ blanks (missing - missing / 2)

def truncate (width : Nat) (text : String) : String :=
  String.ofList (text.toList.take width)

def zeroPadded (width number : Nat) : String :=
  let digits := toString number
  String.ofList (List.replicate (width - digits.length) '0') ++ digits

end HttpRouting
