import Rulebook.Toml.Basic

/-!
# TOML documents under construction

The statements of a document fill one table. What has been declared or written in one piece limits
what later statements may add: a table is declared once, a name gets one value, a list or table
that is written in one piece stays as it is, and dotted names do not reach into a table that has
been declared.
-/

namespace Rulebook.Toml

/-- Gives a name a value: in its place if it is there, at the end if it is new. -/
def setEntry (name : String) (value : Toml) : Table → Table
  | [] => [(name, value)]
  | (other, old) :: rest =>
      if other = name then (name, value) :: rest else (other, old) :: setEntry name value rest

/-- Changes the table behind a key; tables that are missing on the way are made. With `intoLists`
the last item of a list stands for the list. Nothing is returned where a value is in the way. -/
def alterTable (intoLists : Bool) (change : Table → Option Table) : Key → Table → Option Table
  | [], entries => change entries
  | name :: names, entries =>
      match entries.lookup name with
      | none =>
          (alterTable intoLists change names []).map fun inner =>
            setEntry name (table inner) entries
      | some (table inner) =>
          (alterTable intoLists change names inner).map fun inner =>
            setEntry name (table inner) entries
      | some (arr items) =>
          match intoLists, items.getLast? with
          | true, some (table inner) =>
              (alterTable intoLists change names inner).map fun inner =>
                setEntry name (arr (items.dropLast ++ [table inner])) entries
          | _, _ => none
      | some _ => none

/-- A document as far as it has been read. -/
structure Document where
  /-- The values so far. -/
  entries : Table
  /-- The keys of tables with a declaration of their own. -/
  declared : List Key
  /-- The keys of values that were written in one piece. -/
  frozen : List Key
  /-- The keys of tables that dotted names made; they count as declared from the next declaration
  on. -/
  dotted : List Key
  /-- The key of the table to which statements belong. -/
  header : Key
deriving Inhabited

namespace Document

/-- The document before its first statement. -/
def empty : Document := ⟨[], [], [], [], []⟩

/-- The key is that of a value written in one piece, or lies inside one. -/
def isFrozen (document : Document) (key : Key) : Bool :=
  document.frozen.any (·.isPrefixOf key)

/-- The document before a declaration: what dotted names made counts as declared. -/
def settled (document : Document) : Document :=
  { document with declared := document.dotted ++ document.declared, dotted := [] }

/-- Begins a table of its own under a key. -/
def declareTable (document : Document) (key : Key) : Except FaultCause Document :=
  if document.declared.contains key || document.isFrozen key then .error (.declaredTwice key)
  else match alterTable true some key document.entries with
    | none => .error .overwritten
    | some entries => .ok { document with entries := entries
                                          declared := key :: document.declared
                                          header := key }

/-- Adds an empty table to the list under a name. -/
def appendItem (name : String) (entries : Table) : Option Table :=
  match entries.lookup name with
  | none => some (setEntry name (arr [table []]) entries)
  | some (arr items) => some (setEntry name (arr (items ++ [table []])) entries)
  | some _ => none

/-- Declares the next item of a list of tables, inside which nothing has been declared yet. -/
def declareItem (document : Document) (key : Key) : Except FaultCause Document :=
  if document.isFrozen key then .error (.frozen key)
  else
    let outside (other : Key) : Bool := !key.isPrefixOf other
    match alterTable true (appendItem (key.getLast?.getD "")) key.dropLast document.entries with
    | none => .error .overwritten
    | some entries => .ok { document with entries := entries
                                          declared := key :: document.declared.filter outside
                                          frozen := document.frozen.filter outside
                                          header := key }

/-- The keys of the tables through which a dotted name leads. -/
def passed (header key : Key) : List Key :=
  (List.range (key.length - 1)).map fun count => header ++ key.take (count + 1)

/-- Gives a value to a name that has none. -/
def addEntry (name : String) (value : Toml) (entries : Table) : Option Table :=
  match entries.lookup name with
  | none => some (setEntry name value entries)
  | some _ => none

/-- Gives a key a value in the table to which statements belong. -/
def assign (document : Document) (key : Key) (value : Toml) : Except FaultCause Document :=
  let between := passed document.header key
  let parent := document.header ++ key.dropLast
  match between.find? document.declared.contains with
  | some other => .error (.redefined other)
  | none =>
      if document.isFrozen parent then .error (.frozen parent)
      else match alterTable true (addEntry (key.getLast?.getD "") value) parent
          document.entries with
        | none => .error .overwritten
        | some entries => .ok { document with
            entries := entries
            frozen := if value.isNested then (document.header ++ key) :: document.frozen
              else document.frozen
            dotted := between ++ document.dotted }

end Document

end Rulebook.Toml
