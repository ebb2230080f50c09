import MiniExpr.Console.Table
/-!
# Panels and grids

Help screens are made of three kinds of blocks, each filling the console's width:

* a *text block*: lines wrapped one column in from either edge and padded with blanks to the
  full width;
* a *panel*: a border with rounded corners and a title set in its top edge, around lines that
  keep one blank from the border on either side;
* a *grid*: rows of cells in columns, with no lines drawn.  A cell holds paragraphs, each starting
  on a line of its own.  Columns are separated by two blanks: one blank of padding on each side of
  a cell, except at the grid's outer edges.  Every column but the last is as wide as its widest
  paragraph with its padding, and the last takes the width that is left, wrapping its paragraphs
  to fit.

Every character counts as one column, as in `Console.wrap`.
-/

namespace MiniExpr.Console

/-- A line padded with blanks, or cut, to `width` columns. -/
def padTo (width : Nat) (line : String) : String :=
  String.ofList (Align.left.place width line.toList)

/-- The lines of a text block in `width` columns: each line wrapped one column in from both
edges, then padded to the full width. -/
def textBlock (width : Nat) (lines : List String) : List String :=
  lines.flatMap fun l => (wrap (width - 2) l).map fun w => " " ++ padTo (width - 2) w ++ " "

/-- A blank line of `width` columns. -/
def blankLine (width : Nat) : String := String.ofList (spaces width)

/-- The lines of a panel `width` columns wide with `title` in its top edge around `body`. -/
def panel (width : Nat) (title : String) (body : List String) : List String :=
  let heading := (" " ++ title ++ " ").toList.take (width - 4)
  let top := "╭─" ++ String.ofList heading
    ++ String.ofList (List.replicate (width - 4 - heading.length) '─') ++ "─╮"
  let bottom := "╰" ++ String.ofList (List.replicate (width - 2) '─') ++ "╯"
  top :: body.map (fun l => "│ " ++ padTo (width - 4) l ++ " │") ++ [bottom]

/-- A cell of a grid: paragraphs, each starting on a line of its own. -/
abbrev Cell := List String

/-- The padding a column has on its left and on its right: none at the grid's outer edges. -/
def edgePadding (count i : Nat) : Nat × Nat :=
  (if i = 0 then 0 else 1, if i + 1 = count then 0 else 1)

/-- The width of column `i` of a grid: its widest paragraph with its padding. -/
def naturalWidth (rows : List (List Cell)) (count i : Nat) : Nat :=
  let (l, r) := edgePadding count i
  let widest := rows.foldl (fun m row =>
    (row.getD i []).foldl (fun m p => max m (columns p.toList)) m) 0
  widest + l + r

/-- The widths of a grid's columns in `width` columns: the last takes what the others leave. -/
def gridWidths (width : Nat) (rows : List (List Cell)) : List Nat :=
  let count := rows.foldl (fun m row => max m row.length) 0
  let front := (List.range (count - 1)).map (naturalWidth rows count)
  front ++ [width - addUp front]

/-- The lines of one row of a grid whose columns have the given widths. -/
def gridRow (widths : List Nat) (row : List Cell) : List String :=
  let count := widths.length
  let laid := widths.zipIdx.map fun (w, i) =>
    let (l, r) := edgePadding count i
    let inner := w - l - r
    ((l, inner, r), (row.getD i []).flatMap (wrap inner))
  let height := laid.foldl (fun h (_, ls) => max h ls.length) 1
  (List.range height).map fun k =>
    String.join (laid.map fun ((l, inner, r), ls) =>
      String.ofList (spaces l) ++ padTo inner (ls.getD k "") ++ String.ofList (spaces r))

/-- The lines of a grid in `width` columns. -/
def grid (width : Nat) (rows : List (List Cell)) : List String :=
  let widths := gridWidths width rows
  rows.flatMap (gridRow widths)

end MiniExpr.Console
