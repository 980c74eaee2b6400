import Mustache.Text.Width
/-!
# Tables in a terminal

A table is drawn with rounded corners and a line below its head. Every column is as wide as its
widest cell, whose text starts at the left; a space stands on either side of it.
-/

namespace Mustache.Text

/-- The widths of the columns that rows take; a row that is too short counts as if it ended in empty
cells. -/
def columnWidths (rows : List (List String)) : List Nat :=
  rows.foldl (fun widths row =>
    (List.range (max widths.length row.length)).map fun i =>
      max (widths.getD i 0) ((row.map width).getD i 0)) []

/-- A horizontal line of a table with the given joints at its left end, between columns and at its
right end. -/
def ruleLine (left joint right : String) (widths : List Nat) : String :=
  let line (n : Nat) := String.ofList (List.replicate (n + 2) '─')
  left ++ joint.intercalate (widths.map line) ++ right

/-- The text with spaces behind it, up to a width. -/
def padRight (s : String) (n : Nat) : String :=
  s ++ String.ofList (List.replicate (n - width s) ' ')

/-- The line of a row. -/
def rowLine (widths : List Nat) (row : List String) : String :=
  let cell (s : String) (n : Nat) := s!" {padRight s n} "
  "│" ++ "│".intercalate (List.zipWith cell row widths) ++ "│"

/-- The lines of a table. -/
def tableLines (head : List String) (rows : List (List String)) : List String :=
  let widths := columnWidths (head :: rows)
  [ruleLine "╭" "┬" "╮" widths, rowLine widths head, ruleLine "├" "┼" "┤" widths] ++
    rows.map (rowLine widths) ++ [ruleLine "╰" "┴" "╯" widths]

/-- A table with a head. -/
def table (head : List String) (rows : List (List String)) : String :=
  "\n".intercalate (tableLines head rows)

example : tableLines ["n", "text"] [["1", "日本語"]] =
    ["╭───┬────────╮",
      "│ n │ text   │",
      "├───┼────────┤",
      "│ 1 │ 日本語 │",
      "╰───┴────────╯"] := by decide +kernel

end Mustache.Text
