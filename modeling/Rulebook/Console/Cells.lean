import Rulebook.Text.WidthTable

/-!
# Cells

A terminal shows a text in cells. Most characters take one; some take none or two. A joiner draws
the character behind it into the one before, and a selector makes a narrow sign as wide as an emoji,
so the width of a text is more than the widths of its characters. A cluster is what the terminal
draws in one piece.
-/

namespace Rulebook.Console

/-- The character that joins its neighbours. -/
def joiner : Char := '\u200d'

/-- The character that asks for an emoji in the place of a sign. -/
def selector : Char := '\ufe0f'

/-- The number of cells that a character takes by itself. -/
def cells (character : Char) : Nat :=
  let code := character.toNat
  match Text.cellRanges.find? fun (first, last, _) => first ≤ code && code ≤ last with
  | some (_, _, width) => width
  | none => 1

/-- Whether a following variation mark makes the character two cells wide. -/
def isWidened (character : Char) : Bool :=
  Text.widenedRanges.any fun (first, last) =>
    first ≤ character.toNat && character.toNat ≤ last

/-- The number of cells that a text takes, given the last character before it that has a width. -/
def widthAfter : (last : Option Char) → List Char → Nat
  | _, [] => 0
  | last, character :: rest =>
      if character = joiner then
        match rest with
        | [] => 0
        | _ :: later => widthAfter last later
      else if character = selector then
        (if last.any isWidened then 1 else 0) + widthAfter none rest
      else if cells character = 0 then widthAfter last rest
      else cells character + widthAfter (some character) rest

/-- The number of cells that a line takes. -/
def lineWidth (line : List Char) : Nat :=
  widthAfter none line

/-- What a terminal draws in one piece. -/
structure Cluster where
  text : List Char
  /-- The number of cells. -/
  width : Nat
deriving DecidableEq, Repr, Inhabited

namespace Cluster

/-- A character drawn into the last of some clusters, which are given from the last one on. -/
def extend (character : Char) (wider : Nat) : List Cluster → List Cluster
  | [] => [⟨[character], 0⟩]
  | last :: before => ⟨last.text ++ [character], last.width + wider⟩ :: before

/-- The clusters of a text after those before it, from the last one on; `last` is the last character
that has a width, and `joined` says that the next character belongs to the last cluster. -/
def collect (before : List Cluster) (last : Option Char) (joined : Bool) :
    List Char → List Cluster
  | [] => before
  | character :: rest =>
      if joined then collect (extend character 0 before) last false rest
      else if character = joiner then
        collect (extend character 0 before) last (!before.isEmpty) rest
      else if character = selector then
        if last.any isWidened && !before.isEmpty then
          collect (extend character 1 before) none false rest
        else collect (extend character 0 before) last false rest
      else if cells character = 0 then collect (extend character 0 before) last false rest
      else collect (⟨[character], cells character⟩ :: before) (some character) false rest

/-- The clusters of a text, in their order. -/
def ofText (text : List Char) : List Cluster :=
  (collect [] none false text).reverse

/-- The clusters as far as they fit into a width; a blank takes the half of a wide cluster that does
not fit. -/
def fit : (width : Nat) → List Cluster → List Char
  | _, [] => []
  | width, cluster :: rest =>
      if cluster.width ≤ width then
        if width = 0 then [] else cluster.text ++ fit (width - cluster.width) rest
      else if width = 0 then [] else [' ']

/-- The clusters in lines of at most a width, given the line that has been begun and its width. -/
def chop (width : Nat) : (line : List Char) → (used : Nat) → List Cluster → List (List Char)
  | line, used, [] => if used = 0 then [] else [line]
  | line, used, cluster :: rest =>
      if width < used + cluster.width then line :: chop width cluster.text cluster.width rest
      else chop width (line ++ cluster.text) (used + cluster.width) rest

end Cluster

/-- As much of the text as fits into the width, filled up where half a cluster would remain. -/
def cutToWidth (width : Nat) (text : List Char) : List Char :=
  if lineWidth text ≤ width then text else Cluster.fit width (Cluster.ofText text)

end Rulebook.Console
