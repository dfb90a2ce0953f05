/-!
# Nested settings

Settings come from several places, each of which may give some of them. A source is a tree of named
values; `Tree.merge` lays one tree over another, and the lower one shows through wherever the upper
one says nothing. `Tree.find?` looks up what a tree has at the end of a path of names.
-/

namespace Rulebook

/-- A value or a branch of named trees. -/
inductive Tree (α : Type)
  | leaf (value : α)
  | branch (entries : List (String × Tree α))
deriving Repr, Inhabited

namespace Tree

variable {α : Type}

/-- Named trees. -/
abbrev Entries (α : Type) := List (String × Tree α)

/-- The entries of the second tree whose names the first one does not have. -/
def newEntries (base override : List (String × Tree α)) : List (String × Tree α) :=
  override.filter fun (name, _) => (base.lookup name).isNone

mutual

/-- Lays a tree over another: branches are merged name by name, and anything else is replaced. -/
def merge : (base override : Tree α) → Tree α
  | branch base, branch override => branch (mergeShared base override ++ newEntries base override)
  | _, override => override
termination_by structural base => base

/-- The entries of the base, each merged with the override's entry of that name. -/
def mergeShared : (base override : List (String × Tree α)) → List (String × Tree α)
  | [], _ => []
  | (name, value) :: rest, override =>
      (name, match override.lookup name with
        | some upper => value.merge upper
        | none => value) :: mergeShared rest override
termination_by structural base => base

end

/-- Lays named trees over named trees. -/
def mergeEntries (base override : Entries α) : Entries α :=
  mergeShared base override ++ newEntries base override

/-- What a tree has at the end of a path. -/
def find? : Tree α → List String → Option (Tree α)
  | tree, [] => some tree
  | leaf _, _ :: _ => none
  | branch entries, name :: path =>
      match entries.lookup name with
      | some tree => tree.find? path
      | none => none
termination_by structural _ path => path

/-- Gives a name a tree: in its place if it is there, at the end if it is new. -/
def setEntry (name : String) (tree : Tree α) : Entries α → Entries α
  | [] => [(name, tree)]
  | (other, old) :: rest =>
      if other = name then (name, tree) :: rest else (other, old) :: setEntry name tree rest

/-- Puts a value at the end of a path, making branches on the way. A value in the way hides what
lies below it. -/
def insertAt (value : α) (name : String) : (path : List String) → Entries α → Entries α
  | [], entries => setEntry name (leaf value) entries
  | first :: path, entries =>
      match entries.lookup first with
      | none => setEntry first (branch (insertAt value name path [])) entries
      | some (branch inner) => setEntry first (branch (insertAt value name path inner)) entries
      | some (leaf _) => entries

end Tree

end Rulebook
