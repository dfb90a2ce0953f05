import Rulebook.Console.Wrap

/-!
# Tables

A table has a title over its middle, a head with the names of its columns, and rows of cells. Every
column is as wide as its widest line, with a space on either side, as long as the table fits on the
console; otherwise the widest columns become narrower until it does, and their cells are broken into
more lines.
-/

namespace Rulebook.Console

/-- A table. Its cells may hold tags. -/
structure Table where
  /-- What stands above the table. -/
  title : String
  columns : List String
  rows : List (List (List Char))

/-- What each of the cells shows, once its markup is taken out. -/
def plainCells : List (List Char) → Except Failure (List (List Char))
  | [] => .ok []
  | text :: rest =>
      match plainText text with
      | .error failure => .error failure
      | .ok plain => (plainCells rest).map (plain :: ·)

/-- The texts of the cells of columns as they appear, or the first failure. -/
def plainColumns : List (List (List Char)) → Except Failure (List (List (List Char)))
  | [] => .ok []
  | column :: rest =>
      match plainCells column with
      | .error failure => .error failure
      | .ok cells => (plainColumns rest).map (cells :: ·)

/-- The cells of each column, given those of each row, or the other way round. -/
def transposed (count : Nat) (rows : List (List (List Char))) : List (List (List Char)) :=
  (List.range count).map fun index => rows.map fun row => (row[index]?).getD []

/-- The largest of the numbers. -/
def largest (numbers : List Nat) : Nat :=
  numbers.foldl max 0

/-- The sum of the numbers. -/
def total (numbers : List Nat) : Nat :=
  numbers.foldl (· + ·) 0

/-- The width of the longest line of a text. -/
def textWidth (text : List Char) : Nat :=
  largest ((Text.lines text).map lineWidth)

/-! ## Columns -/

/-- The width of a column, spaces included, if it is no wider than a limit. -/
def columnWidth (limit : Nat) (column : List (List Char)) : Nat :=
  min limit (largest (column.map textWidth) + 2)

/-- A quotient rounded to the nearest number, and to the even one of two. -/
def nearestQuotient (dividend divisor : Nat) : Nat :=
  let quotient := dividend / divisor
  let rest := 2 * (dividend % divisor)
  if rest < divisor then quotient
  else if divisor < rest then quotient + 1
  else quotient + quotient % 2

/-- Takes an excess from the `count` columns that are as wide as the widest, evenly, and at most
`bound` from each. -/
def narrowWidest (widest bound : Nat) : (excess count : Nat) → List Nat → List Nat
  | _, _, [] => []
  | excess, count, width :: rest =>
      if width = widest then
        let cut := min bound (nearestQuotient excess count)
        (width - cut) :: narrowWidest widest bound (excess - cut) (count - 1) rest
      else width :: narrowWidest widest bound excess count rest

/-- Makes the widest columns as narrow as the next ones until the widths fit into a limit, in at
most `rounds` rounds. -/
def fitColumns (limit : Nat) : (rounds : Nat) → List Nat → List Nat
  | 0, widths => widths
  | rounds + 1, widths =>
      let excess := total widths - limit
      if excess = 0 then widths
      else
        let widest := largest widths
        let difference := widest - largest (widths.filter (· != widest))
        fitColumns limit rounds
          (narrowWidest widest (min excess difference) excess (widths.count widest) widths)

/-! ## Lines -/

/-- The line filled up with blanks to the width. -/
def padTo (width : Nat) (line : List Char) : List Char :=
  line ++ List.replicate (width - lineWidth line) ' '

/-- A line in the middle of a width; an odd space goes to the right. -/
def centered (width : Nat) (line : List Char) : List Char :=
  let free := width - lineWidth line
  List.replicate (free / 2) ' ' ++ line ++ List.replicate (free - free / 2) ' '

/-- A line across a table: its left end, what it is made of, the crossings, and its right end. -/
def rule (left stroke crossing right : Char) (widths : List Nat) : List Char :=
  left :: Text.join [crossing] (widths.map fun width => List.replicate width stroke) ++
    [right, '\n']

/-- A row of cells between borders, as high as its highest cell. -/
def rowText (border : Char) (widths : List Nat) (row : List (List Char)) : List Char :=
  let cells := (widths.zip row).map fun (width, text) => (width, wrap (width - 2) .ellipsis text)
  let height := largest (cells.map fun (_, lines) => lines.length)
  (List.range height).flatMap fun index =>
    border :: cells.flatMap (fun (width, lines) =>
      ' ' :: padTo (width - 2) ((lines[index]?).getD []) ++ [' ', border]) ++ ['\n']

/-- The lines of a table, its title above it. -/
def Table.render (table : Table) : Except Failure (List Char) :=
  let count := table.columns.length
  let head := table.columns.map String.toList
  (plainColumns (transposed count (head :: table.rows))).map fun columns =>
    let limit := consoleWidth - (count + 1)
    let natural := columns.map (columnWidth limit)
    let widths := fitColumns limit (total natural) natural
    let rows := transposed table.rows.length (columns.map (·.drop 1))
    centered (total widths + count + 1) table.title.toList ++ ['\n'] ++
      rule '┏' '━' '┳' '┓' widths ++
      rowText '┃' widths head ++ rule '┡' '━' '╇' '┩' widths ++
      rows.flatMap (rowText '│' widths) ++ rule '└' '─' '┴' '┘' widths

end Rulebook.Console
