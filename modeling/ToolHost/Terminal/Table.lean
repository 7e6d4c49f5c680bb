import ToolHost.Terminal.Wrap

/-!
# Tables

A table of two columns under a title, between rules. A column is as wide as its widest line; a tab
counts nothing there, so that a cell with tabs may have to be broken.
-/
namespace ToolHost.Terminal

/-- The width that a cell asks for. -/
def cellWidth (cell : List Char) : Nat :=
  (Text.lines cell).foldl (fun w line => max w (Text.cellsOf line)) 0

def columnWidth (cells : List (List Char)) : Nat :=
  cells.foldl (fun w cell => max w (cellWidth cell)) 0

/-- A horizontal rule over a column. -/
def bar (c : Char) (width : Nat) : String := String.ofList (List.replicate (width + 2) c)

/-- The lines of a row of two cells, between the given rules. -/
def rowLines (rule : String) (w₁ w₂ : Nat) (row : List Char × List Char) : List String :=
  let left := wrapped w₁ row.1
  let right := wrapped w₂ row.2
  (List.range (max left.length right.length)).map fun i =>
    rule ++ " " ++ String.ofList (left.getD i (padded w₁ [])) ++ " " ++ rule ++ " " ++
      String.ofList (right.getD i (padded w₂ [])) ++ " " ++ rule

/-- A title in the middle of a width. -/
def centred (width : Nat) (title : List Char) : String :=
  let left := (width - Text.cellsOf title) / 2
  String.ofList (padded width (List.replicate left ' ' ++ title))

/-- A table of two columns under a title, line by line. -/
def table (title : String) (header : String × String) (rows : List (List Char × List Char)) :
    List String :=
  let header := (header.1.toList, header.2.toList)
  let w₁ := columnWidth (header.1 :: rows.map (·.1))
  let w₂ := columnWidth (header.2 :: rows.map (·.2))
  [centred (w₁ + w₂ + 7) title.toList, "┏" ++ bar '━' w₁ ++ "┳" ++ bar '━' w₂ ++ "┓"] ++
    rowLines "┃" w₁ w₂ header ++
    ["┡" ++ bar '━' w₁ ++ "╇" ++ bar '━' w₂ ++ "┩"] ++
    rows.flatMap (rowLines "│" w₁ w₂) ++
    ["└" ++ bar '─' w₁ ++ "┴" ++ bar '─' w₂ ++ "┘"]

end ToolHost.Terminal
