/-! # Lines

A line ends at a line feed, and one carriage return right before that line feed belongs to the line
end. A last piece without a line feed is a line if it is not empty, and keeps what it holds. The
same rule serves characters and bytes, so the two end-of-line symbols are parameters. -/

namespace Calculator.Text

variable {α : Type} [DecidableEq α]

/-- A line without the one `cr` that may end it; the line is given last symbol first. -/
def dropReturn (cr : α) : List α → List α
  | [] => []
  | last :: rest => if last = cr then rest else last :: rest

/-- The lines of the text, where `seen` holds what the open line has so far, last symbol first. -/
def linesFrom (lf cr : α) (seen : List α) : List α → List (List α)
  | [] => if seen = [] then [] else [seen.reverse]
  | x :: rest =>
    if x = lf then (dropReturn cr seen).reverse :: linesFrom lf cr [] rest
    else linesFrom lf cr (x :: seen) rest

/-- The lines of a text. -/
def lines (lf cr : α) (text : List α) : List (List α) := linesFrom lf cr [] text

/-- The lines of a text of characters. -/
def charLines (text : List Char) : List (List Char) := lines '\n' '\r' text

/-- The lines of a text of bytes. -/
def byteLines (text : List UInt8) : List (List UInt8) := lines 10 13 text

end Calculator.Text
