/-
TOML tables.

A table remembers how it came to be, since that decides what may still be
added to it.  Values other than strings, arrays and tables keep their text.
-/

namespace HttpRouting

namespace Toml

inductive Origin where
  /-- Under a header of its own, or as the root. -/
  | header
  /-- Named in the middle of a header. -/
  | implied
  /-- Named in the middle of a dotted key. -/
  | dotted
  /-- Written in braces; nothing can be added. -/
  | inlined
  deriving DecidableEq, Repr, Inhabited

inductive Value where
  | text (value : String)
  /-- A boolean, number, date or time as written. -/
  | unquoted (written : String)
  | array (elements : List Value)
  | table (origin : Origin) (entries : List (String × Value))
  /-- The tables under the double headers of one name. -/
  | tables (elements : List Value)
  deriving Repr, Inhabited

abbrev Entries :=
  List (String × Value)

def replaceEntry (key : String) (value : Value) : Entries → Entries
  | [] => []
  | entry :: rest =>
      if entry.1 = key then (key, value) :: rest
      else entry :: replaceEntry key value rest

/-- Nothing can be added to such a table through a dotted key. -/
def Origin.isClosed (dotted : Bool) : Origin → Bool
  | .inlined => true
  | .header => dotted
  | .implied => false
  | .dotted => false

/-- Changes the table that a path leads to.  Tables that are missing on the
way are made; a list of tables stands for its last one. -/
def changeAt (dotted : Bool)
    (change : Origin → Entries → Option Entries) :
    List String → Origin → Entries → Option Entries
  | [], origin, entries => change origin entries
  | key :: path, _, entries =>
      match entries.lookup key with
      | none =>
          let origin := if dotted then Origin.dotted else .implied
          (changeAt dotted change path origin []).map
            (fun inner => entries ++ [(key, .table origin inner)])
      | some (.table origin inner) =>
          if origin.isClosed dotted then none
          else
            (changeAt dotted change path origin inner).map
              (fun inner => replaceEntry key (.table origin inner) entries)
      | some (.tables elements) =>
          match elements.getLast? with
          | some (.table origin inner) =>
              (changeAt dotted change path origin inner).map
                (fun inner =>
                  replaceEntry key
                    (.tables (elements.dropLast ++ [.table origin inner]))
                    entries)
          | _ => none
      | some _ => none

/-- A new entry behind a dotted path.  The table it goes to has to come from a
dotted key exactly if there is such a path. -/
def addEntry (path : List String) (key : String) (value : Value) :
    Origin → Entries → Option Entries :=
  changeAt true
    (fun origin entries =>
      if (origin == .dotted) == path.isEmpty then none
      else if (entries.lookup key).isSome then none
      else some (entries ++ [(key, value)]))
    path

/-- The table of a header; one that was only implied so far is kept. -/
def openTable (key : String) (_ : Origin) (entries : Entries) :
    Option Entries :=
  match entries.lookup key with
  | none => some (entries ++ [(key, .table .header [])])
  | some (.table .implied inner) =>
      some (replaceEntry key (.table .header inner) entries)
  | some _ => none

def openListedTable (key : String) (_ : Origin) (entries : Entries) :
    Option Entries :=
  match entries.lookup key with
  | none => some (entries ++ [(key, .tables [.table .header []])])
  | some (.tables elements) =>
      some
        (replaceEntry key (.tables (elements ++ [.table .header []])) entries)
  | some _ => none

structure Document where
  root : Entries := []
  header : List String := []
  deriving Inhabited

namespace Document

def addEntry (path : List String) (key : String) (value : Value)
    (document : Document) : Option Document :=
  (changeAt false (Toml.addEntry path key value) document.header .header
    document.root).map
    (fun root => { document with root := root })

def openHeader (listed : Bool) (path : List String) (key : String)
    (document : Document) : Option Document :=
  (changeAt false (if listed then openListedTable key else openTable key)
    path .header document.root).map
    (fun root =>
      { root := root
        header := path ++ [key] })

end Document

end Toml

end HttpRouting
