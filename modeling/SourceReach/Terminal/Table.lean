import SourceReach.Number.Binary64
import SourceReach.Terminal.Basic
import SourceReach.Terminal.Wrap

/-!
# Tables in boxes

A table is drawn with box characters under its title. A column is as wide as the widest line of its
cells, with a blank on each side, and a row is as high as its highest cell. Where the screen is too
narrow for that, the widest columns are made narrower.
-/

namespace SourceReach

namespace BoxTable

def cellWidth (cell : Text) : Nat := ((Text.lines cell).map Text.width).foldl max 0

/-- The widths of the cells, or else of the columns so far, where these are wider. -/
def widen (widths : List Nat) (row : List Text) : List Nat :=
  List.zipWith (fun n cell => max n (cellWidth cell)) widths row

/-- The widths of the columns, without the blanks, that their cells ask for. -/
def askedWidths (t : BoxTable) : List Nat := t.rows.foldl widen (t.header.map cellWidth)

/-- Takes `excess` off the `share` widths that are the greatest, as evenly as can be and at most
`most` off each. -/
def narrowed (greatest most : Nat) : Nat → Nat → List Nat → List Nat
  | _, _, [] => []
  | excess, share, n :: ns =>
    if n = greatest then
      let off := min most (Binary64.nearestQuotient excess share)
      (n - off) :: narrowed greatest most (excess - off) (share - 1) ns
    else n :: narrowed greatest most excess share ns

/-- Makes the widest columns narrower until all columns fit in a width. Each time, at most the
difference to the next narrower column goes; `fuel` is how often at most. -/
def collapsed (limit : Nat) : Nat → List Nat → List Nat
  | 0, ns => ns
  | fuel + 1, ns =>
    let excess := total ns - limit
    if excess = 0 then ns
    else
      let greatest := ns.foldl max 0
      let next := (ns.filter (· ≠ greatest)).foldl max 0
      collapsed limit fuel (narrowed greatest (min excess (greatest - next)) excess
        (ns.count greatest) ns)

def padding : Nat := 2

/-- The widths of the columns, without the blanks, on a screen. There is a bar at each end and
between columns. -/
def widths (screen : Nat) (t : BoxTable) : List Nat :=
  let limit := screen - (t.header.length + 1)
  let asked := t.askedWidths.map fun n => min limit (n + padding)
  (collapsed limit (total asked - limit) asked).map (· - padding)

/-- The lines of a cell in a column of a width, with a blank on each side. -/
def cellLines (n : Nat) (cell : Text) : List Text :=
  (Text.wrapped .ellipsis n cell).map fun line =>
    [' '] ++ Text.padded n (Text.shortened .ellipsis n line) ++ [' ']

/-- A line of parts with corners and crossings. -/
def ruled (left cross right : Char) (parts : List Text) : Text :=
  [left] ++ Text.joined [cross] parts ++ [right]

def rowLines (bar : Char) (widths : List Nat) (row : List Text) : List Text :=
  let cells := List.zipWith cellLines widths row
  let height := (cells.map List.length).foldl max 0
  (List.range height).map fun i =>
    ruled bar bar bar
      (List.zipWith (fun n lines => lines[i]?.getD (List.replicate (n + padding) ' ')) widths cells)

def rule (left line cross right : Char) (widths : List Nat) : Text :=
  ruled left cross right (widths.map fun n => List.replicate (n + padding) line)

def titleLines (limit : Nat) (title : Text) : List Text :=
  (Text.wrapped .fold limit title).map fun line =>
    Text.centred limit (Text.shortened .fold limit (Text.dropEnd isBlank line))

def lines (screen : Nat) (t : BoxTable) : List Text :=
  let ws := t.widths screen
  let top := rule '┏' '━' '┳' '┓' ws
  titleLines (Text.width top) t.title ++ [top] ++ rowLines '┃' ws t.header ++
    [rule '┡' '━' '╇' '┩' ws] ++
    t.rows.flatMap (rowLines '│' ws) ++ [rule '└' '─' '┴' '┘' ws]

end BoxTable

end SourceReach
