import MiniExpr.Console.Wrap
/-!
# Tables

A table of text cells drawn with box-drawing characters: an optional title centred over it, a
header row, the body rows, and a border around and between the columns.  Each cell has one blank
of padding on either side.

A column is as wide as its widest cell, padding included.  When the columns do not fit the
console, the widest are narrowed first, each round cutting the widest columns down towards the
next widest, until the table fits; should that not be enough, all columns give up width evenly.
Shares of a cut are rounded to the nearest whole column, a half to the even one.  Cells wrap like
console lines within their column.
-/

namespace MiniExpr.Console

/-- How a line of text sits in a wider space. -/
inductive Align where
  | left
  | right
  | center
  deriving DecidableEq

/-- Spaces, `n` of them. -/
def spaces (n : Nat) : List Char := List.replicate n ' '

/-- A line placed in `width` columns: cut to the width, then padded as the alignment says.  A line
aligned right or centred loses its blanks at the end first. -/
def Align.place (a : Align) (width : Nat) (line : List Char) : List Char :=
  match a with
  | .left =>
    let l := fit width line
    l ++ spaces (width - columns l)
  | .right =>
    let l := fit width (stripEnd line)
    spaces (width - columns l) ++ l
  | .center =>
    let l := fit width (stripEnd line)
    let before := (width - columns l) / 2
    spaces before ++ l ++ spaces (width - columns l - before)

/-- A column: its header and how its cells are aligned. -/
structure Column where
  header : String
  align : Align := .left

/-- A border line of a box: its left end, the fill, the joint between columns, its right end. -/
structure Border where
  left : Char
  fill : Char
  joint : Char
  right : Char

/-- The border line over columns of the given widths. -/
def Border.draw (b : Border) (widths : List Nat) : String :=
  String.ofList
    (b.left :: ((widths.map fun w => List.replicate w b.fill).intersperse [b.joint]).flatten
      ++ [b.right])

/-- The characters a table is drawn with. -/
structure Box where
  top : Border
  /-- The walls beside the header cells; only the ends and joints are used. -/
  head : Border
  headBottom : Border
  /-- The walls beside the body cells; only the ends and joints are used. -/
  body : Border
  bottom : Border

/-- Heavy lines around the header, light lines around the body. -/
def Box.heavyHead : Box where
  top := ⟨'┏', '━', '┳', '┓'⟩
  head := ⟨'┃', ' ', '┃', '┃'⟩
  headBottom := ⟨'┡', '━', '╇', '┩'⟩
  body := ⟨'│', ' ', '│', '│'⟩
  bottom := ⟨'└', '─', '┴', '┘'⟩

/-- A table: a title, columns and rows of cell texts. -/
structure Table where
  title : Option String := none
  columns : List Column
  rows : List (List String)
  box : Box := .heavyHead

/-- Some widths added up.  Written as a fold rather than `List.sum`, so that it is the same term
whatever `Zero Nat` instances are in scope where it is read. -/
def addUp (ws : List Nat) : Nat := ws.foldr (· + ·) 0

/-- The nearest whole number to `a / b`, a half going to the even neighbour. -/
def roundHalfEven (a b : Nat) : Nat :=
  let q := a / b
  let r := a % b
  if 2 * r < b then q
  else if 2 * r > b then q + 1
  else if q % 2 = 0 then q else q + 1

/-- Takes `total` away from `values`, shared by `ratios`; no value loses more than its maximum.  The
shares go left to right, each rounded from what is still to share. -/
def ratioReduce (total : Nat) (ratios maximums values : List Nat) : List Nat :=
  let ratios := (ratios.zip maximums).map fun (r, m) => if m = 0 then 0 else r
  go total (addUp ratios) (ratios.zip (maximums.zip values))
where
  /-- Shares out `remaining` over columns whose ratios add up to `ratioSum`. -/
  go (remaining ratioSum : Nat) : List (Nat × Nat × Nat) → List Nat
    | [] => []
    | (ratio, maximum, value) :: rest =>
      if ratio > 0 && ratioSum > 0 then
        let cut := min maximum (roundHalfEven (ratio * remaining) ratioSum)
        (value - cut) :: go (remaining - cut) (ratioSum - ratio) rest
      else value :: go remaining ratioSum rest

/-- The widths narrowed to `limit` in all, the widest columns first; `fuel` bounds the rounds. -/
def narrow (limit : Nat) : Nat → List Nat → List Nat
  | 0, widths => widths
  | fuel + 1, widths =>
    let excess := addUp widths - limit
    if excess = 0 then widths
    else
      let widest := widths.foldl max 0
      let next := (widths.filter (· != widest)).foldl max 0
      let gap := widest - next
      if gap = 0 then widths
      else
        let ratios := widths.map fun w => if w = widest then 1 else 0
        let cut := min excess gap
        narrow limit fuel (ratioReduce excess ratios (widths.map fun _ => cut) widths)

/-- The widths of columns whose natural widths are `natural`, in `limit` columns in all. -/
def fitWidths (limit : Nat) (natural : List Nat) : List Nat :=
  if addUp natural ≤ limit then natural
  else
    let narrowed := narrow limit (addUp natural + 1) natural
    let fitted :=
      if addUp narrowed > limit then
        ratioReduce (addUp narrowed - limit) (narrowed.map fun _ => 1) narrowed narrowed
      else narrowed
    (fitted.zip natural).map fun (w, n) => min w n

/-- The lines of a cell in a column of `width`, padding included. -/
def cellLines (width : Nat) (a : Align) (text : String) : List String :=
  let inner := width - 2
  (wrap inner text).map fun l => String.ofList (' ' :: a.place inner l.toList ++ [' '])

namespace Table

/-- The natural width of each column: its widest cell or header, with padding. -/
def naturalWidths (t : Table) : List Nat :=
  t.columns.zipIdx.map fun (c, i) =>
    let cells := c.header :: t.rows.map fun r => r.getD i ""
    cells.foldl (fun m s => max m (Console.columns s.toList + 2)) 0

/-- The lines of one row drawn between the walls of `walls`. -/
def rowLines (t : Table) (walls : Border) (widths : List Nat) (cells : List String) : List String :=
  let laid := (t.columns.zip widths).zipIdx.map fun ((c, w), i) =>
    (w, cellLines w c.align (cells.getD i ""))
  let height := laid.foldl (fun h (_, ls) => max h ls.length) 0
  (List.range height).map fun k =>
    let parts := laid.map fun (w, ls) => ls.getD k (String.ofList (spaces w))
    String.ofList [walls.left] ++ String.intercalate (String.ofList [walls.joint]) parts
      ++ String.ofList [walls.right]

/-- The lines of the table drawn in a console `width` columns wide. -/
def render (t : Table) (width : Nat) : List String :=
  let frame := 2 + (t.columns.length - 1)
  let widths := fitWidths (width - frame) t.naturalWidths
  let total := addUp widths + frame
  let title := match t.title with
    | some s => (wrap total s).map fun l => String.ofList (Align.center.place total l.toList)
    | none => []
  title ++ [t.box.top.draw widths]
    ++ t.rowLines t.box.head widths (t.columns.map (·.header))
    ++ [t.box.headBottom.draw widths]
    ++ (t.rows.map (t.rowLines t.box.body widths)).flatten
    ++ [t.box.bottom.draw widths]

end Table

end MiniExpr.Console
