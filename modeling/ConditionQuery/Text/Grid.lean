import ConditionQuery.Text.Basic
import ConditionQuery.Text.Width

/-! Tables in boxes with round corners. A cell holds one or more lines of text. -/
namespace ConditionQuery.Text

abbrev Cell := List (List Char)

def Cell.ofString (s : String) : Cell := split (· == '\n') s.toList

def Cell.width (cell : Cell) : Nat := (cell.map Text.width).foldl max 0

/-- A rule of a box: its ends, and what stands where columns meet. -/
structure Rule where
  left : Char
  middle : Char
  right : Char

namespace Grid

def top : Rule := ⟨'╭', '┬', '╮'⟩

def underHeader : Rule := ⟨'├', '┼', '┤'⟩

def bottom : Rule := ⟨'╰', '┴', '╯'⟩

def columnWidths : List (List Cell) → List Nat
  | [] => []
  | [row] => row.map Cell.width
  | row :: rest => List.zipWith max (row.map Cell.width) (columnWidths rest)

def ruleText (rule : Rule) (widths : List Nat) : List Char :=
  let bars := widths.map fun w => List.replicate (w + 2) '─'
  rule.left :: [rule.middle].intercalate bars ++ [rule.right]

/-- A line of a cell in a column of the given width. -/
def padded (width : Nat) (line : List Char) : List Char :=
  ' ' :: line ++ List.replicate (width - Text.width line + 1) ' '

/-- The lines of a row, which is as high as its highest cell. -/
def rowLines (widths : List Nat) (row : List Cell) : List (List Char) :=
  let height := (row.map List.length).foldl max 0
  (List.range height).map fun n =>
    let cells := List.zipWith (fun w cell => padded w (cell[n]?.getD [])) widths row
    '│' :: ['│'].intercalate cells ++ ['│']

/-- The box around a header and rows. -/
def lines (header : List Cell) (rows : List (List Cell)) : List (List Char) :=
  let widths := columnWidths (header :: rows)
  [ruleText top widths] ++ rowLines widths header ++ [ruleText underHeader widths] ++
    rows.flatMap (rowLines widths) ++ [ruleText bottom widths]

end Grid

def grid (header : List String) (rows : List (List String)) : String :=
  let cells := List.map Cell.ofString
  String.ofList ((Grid.lines (cells header) (rows.map cells)).flatMap (· ++ ['\n']))

end ConditionQuery.Text
