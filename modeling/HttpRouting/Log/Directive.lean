/-
Log filters.

A directive sets the level of a target, or of everything when it names none.
A filter holds one directive for each target, in the order in which it is
printed: longer targets first, equally long ones in descending order, and the
directive without target last.
-/

namespace HttpRouting

namespace Log

/-! ### Levels -/

inductive Level where
  | off
  | error
  | warn
  | info
  | debug
  | trace
  deriving DecidableEq, Repr, Inhabited

namespace Level

def all : List Level :=
  [.off, .error, .warn, .info, .debug, .trace]

def name : Level → String
  | .off => "off"
  | .error => "error"
  | .warn => "warn"
  | .info => "info"
  | .debug => "debug"
  | .trace => "trace"

def ofName? (name : String) : Option Level :=
  all.find? (fun level => level.name == name.map Char.toLower)

/-- The level that a number counts, from nothing at zero to all at five. -/
def ofNumber? (text : String) : Option Level :=
  let digits :=
    match text.toList with
    | '+' :: rest => rest
    | characters => characters
  if digits.isEmpty || !digits.all Char.isDigit then none
  else
    all[digits.foldl
      (fun value digit => value * 10 + (digit.toNat - '0'.toNat)) 0]?

def parse? (text : String) : Option Level :=
  (ofNumber? text).or (ofName? text)

end Level

/-! ### Directives -/

structure Directive where
  target : Option String
  level : Level
  deriving DecidableEq, Repr, Inhabited

def isSpace (character : Char) : Bool :=
  let code := character.toNat
  (0x09 ≤ code && code ≤ 0x0D) || code == 0x20 || code == 0x85 ||
    code == 0xA0 || code == 0x1680 || (0x2000 ≤ code && code ≤ 0x200A) ||
    code == 0x2028 || code == 0x2029 || code == 0x202F || code == 0x205F ||
    code == 0x3000

def trim (text : List Char) : List Char :=
  ((text.dropWhile isSpace).reverse.dropWhile isSpace).reverse

/-- A character that may begin a directive.  Beyond ASCII all are taken for
letters. -/
def isDirectiveStart (character : Char) : Bool :=
  character.isAlphanum || "-:_".toList.contains character ||
    0x80 ≤ character.toNat

namespace Directive

/-- A level alone, or a target alone, which is then shown in full. -/
def ofWord (word : String) : Directive :=
  match Level.parse? word with
  | some level =>
      { target := none
        level := level }
  | none =>
      { target := some word
        level := .trace }

def ofPair? (target level : String) : Option Directive :=
  let read := if level = "" then some Level.trace else Level.parse? level
  read.map
    (fun level =>
      { target := some target
        level := level })

def parse? (text : List Char) : Option Directive :=
  match trim text with
  | [] => none
  | first :: rest =>
      let directive := first :: rest
      if !isDirectiveStart first || directive.contains '[' then none
      else
        let target := directive.takeWhile (fun c => c != '=')
        match directive.dropWhile (fun c => c != '=') with
        | [] => some (ofWord (String.ofList target))
        | _ :: level =>
            ofPair? (String.ofList target) (String.ofList level)

def render (directive : Directive) : String :=
  match directive.target with
  | none => directive.level.name
  | some target => target ++ "=" ++ directive.level.name

def comesBefore (first second : Directive) : Bool :=
  match first.target, second.target with
  | none, _ => false
  | some _, none => true
  | some left, some right =>
      right.utf8ByteSize < left.utf8ByteSize ||
        (left.utf8ByteSize == right.utf8ByteSize && right < left)

end Directive

/-! ### Filters -/

abbrev Filter :=
  List Directive

def addDirective (directive : Directive) : Filter → Filter
  | [] => [directive]
  | first :: rest =>
      if first.target = directive.target then directive :: rest
      else if directive.comesBefore first then directive :: first :: rest
      else first :: addDirective directive rest

def filterOf (directives : List Directive) : Filter :=
  directives.foldl (fun filter directive => addDirective directive filter) []

def filterParts (text : String) : List (List Char) :=
  (text.toList.splitOn ',').filter (fun part => part != [])

def parseFilter? (text : String) : Option Filter :=
  ((filterParts text).mapM Directive.parse?).map filterOf

def addDirectives (text : String) (filter : Filter) : Filter :=
  ((filterParts text).filterMap Directive.parse?).foldl
    (fun filter directive => addDirective directive filter) filter

def renderFilter (filter : Filter) : String :=
  ",".intercalate (filter.map Directive.render)

end Log

end HttpRouting
