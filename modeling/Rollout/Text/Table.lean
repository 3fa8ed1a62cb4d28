import Rollout.Text.Blank
import Rollout.Text.Width

namespace Rollout.Text.Table

abbrev Row := List String

def cellLines (cell : String) : List String := (splitChar '\n' cell.toList).map String.ofList

def cellWidth (cell : String) : Nat := ((cellLines cell).map width).foldl max 0

def widths (rows : List Row) : List Nat :=
  rows.foldl (fun acc row => acc.zipWith max (row.map cellWidth))
    ((rows.head?.getD []).map fun _ => 0)

def repeated (n : Nat) (c : Char) : String := String.ofList (List.replicate n c)

def rule (ws : List Nat) : String :=
  "+" ++ String.join (ws.map fun w => repeated (w + 2) '-' ++ "+")

def padRight (w : Nat) (s : String) : String := s ++ repeated (w - width s) ' '

def line (ws : List Nat) (cells : List String) : String :=
  "|" ++ String.join (ws.zipWith (fun w cell => " " ++ padRight w cell ++ " |") cells)

def rowLines (ws : List Nat) (row : Row) : List String :=
  let cells := row.map cellLines
  let height := (cells.map List.length).foldl max 1
  (List.range height).map fun i => line ws (cells.map fun ls => (ls[i]?).getD "")

def render (rows : List Row) : String :=
  let ws := widths rows
  let bar := rule ws
  "\n".intercalate (bar :: rows.flatMap fun row => rowLines ws row ++ [bar])

end Rollout.Text.Table
