import ScriptDoc.Console.Markup
import ScriptDoc.Json.Writer

/-!
# Tables

A table has headers, rows and perhaps a title.  It is written as a list of objects, as lines of cells
with tabs between them, or in a box.  In a box, markup is taken out of all texts, and a cell may have
several lines.
-/

namespace ScriptDoc

/-- A table of texts. -/
structure Table where
  headers : List String
  rows : List (List String)
  title : Option String := none
  deriving DecidableEq, Repr

namespace Table

/-- A row as an object: each header with its cell, as far as both go. -/
def rowObject (headers row : List String) : Value :=
  .map ((headers.zip row).foldl (fun m e => Value.insert (.text e.1) (.text e.2) m) [])

/-- The rows as objects. -/
def objects (t : Table) : Value := .list (t.rows.map (rowObject t.headers))

/-- Headers and rows as lines, with tabs between cells. -/
def tabbed (t : Table) : List String := (t.headers :: t.rows).map ("\t".intercalate ·)

/-- The number of columns. -/
def width (t : Table) : Nat := (t.headers :: t.rows).foldl (fun n row => max n row.length) 0

/-- The cells of a row, with empty ones up to the number of columns. -/
def padRow (n : Nat) (row : List String) : List String := row ++ List.replicate (n - row.length) ""

/-- A table without the markup in its texts. -/
def withoutMarkup (t : Table) : Except Console.Markup.Error Table := do
  let headers ← t.headers.mapM Console.Markup.plain
  let rows ← t.rows.mapM (·.mapM Console.Markup.plain)
  return { headers, rows, title := ← t.title.mapM Console.Markup.plain }

/-- The lines of a cell. -/
def cellLines (cell : String) : List String := cell.splitOn "\n"

/-- The longest line of a cell. -/
def cellWidth (cell : String) : Nat := ((cellLines cell).map (·.length)).foldl max 0

/-- The widest cell of each column. -/
def columnWidths (t : Table) : List Nat :=
  (t.headers :: t.rows).foldl
    (fun ws row => (ws.zip (padRow t.width row)).map fun e => max e.1 (cellWidth e.2))
    (List.replicate t.width 0)

/-- A horizontal rule of a box. -/
def rule (first between last line : String) (widths : List Nat) : String :=
  first ++ between.intercalate (widths.map fun w => String.join (List.replicate (w + 2) line)) ++ last

/-- A line of a row: each text with a blank on both sides and filled up to its width. -/
def boxedLine (edge : String) (widths : List Nat) (texts : List String) : String :=
  let cell (e : Nat × String) : String := " " ++ String.ofList (e.2.toList.rightpad e.1 ' ') ++ " "
  edge ++ edge.intercalate ((widths.zip texts).map cell) ++ edge

/-- The lines of a row, as many as its highest cell has. -/
def boxedRow (edge : String) (widths : List Nat) (row : List String) : List String :=
  let cells := (padRow widths.length row).map cellLines
  let height := (cells.map (·.length)).foldl max 0
  (List.range height).map fun n => boxedLine edge widths (cells.map (·.getD n ""))

/-- A text in the middle of a line, without blanks at its end; of the blanks around it the smaller half
stands on the left. -/
def centred (lineWidth : Nat) (text : String) : String :=
  let s := String.ofList (Text.trimRight Text.isBlank text.toList)
  let blanks := lineWidth - s.length
  let left := blanks / 2
  String.join (List.replicate left " ") ++ s ++ String.join (List.replicate (blanks - left) " ")

/-- The lines of a box. -/
def box (t : Table) : List String :=
  let widths := t.columnWidths
  let top := rule "┏" "┳" "┓" "━" widths
  let title := t.title.toList.flatMap fun s => (cellLines s).map (centred top.length)
  title ++ [top] ++ boxedRow "┃" widths t.headers ++ [rule "┡" "╇" "┩" "━" widths]
    ++ t.rows.flatMap (boxedRow "│" widths) ++ [rule "└" "┴" "┘" "─" widths]

/-- The lines of a table in a box, with the title above it, unless that is empty. A table without columns
is an empty line. -/
def boxed (t : Table) : Except Console.Markup.Error (List String) :=
  if t.width == 0 then .ok [""]
  else ({ t with title := t.title.filter (!·.isEmpty) }).withoutMarkup.map box

end Table

end ScriptDoc
