/-!
# Lines

A text is cut at every line end that Unicode knows, and a carriage return with a line feed after it
is one line end. Text files are read with all their carriage returns turned into line feeds.
-/

namespace EntityScribe.Text

/-- Line feed, vertical tab, form feed, carriage return, the three information separators,
next line, and the line and paragraph separators. -/
def isLineEnd (c : Char) : Bool :=
  let n := c.toNat
  (0x0A ≤ n && n ≤ 0x0D) || (0x1C ≤ n && n ≤ 0x1E) || n == 0x85 || n == 0x2028 || n == 0x2029

/-- The lines without their ends; nothing follows the last line end. -/
def lineChars : List Char → List (List Char)
  | [] => []
  | '\r' :: '\n' :: rest => [] :: lineChars rest
  | c :: rest =>
      if isLineEnd c then [] :: lineChars rest
      else
        match lineChars rest with
        | [] => [[c]]
        | line :: more => (c :: line) :: more

def splitLines (s : String) : List String :=
  (lineChars s.toList).map String.ofList

/-- Each line with a line feed after it. -/
def unlines (lines : List String) : String :=
  lines.foldr (fun line rest => line ++ "\n" ++ rest) ""

theorem unlines_cons (line : String) (lines : List String) :
    unlines (line :: lines) = line ++ "\n" ++ unlines lines := rfl

/-- Carriage returns, alone or before a line feed, become line feeds. -/
def unifyLineEnds : List Char → List Char
  | [] => []
  | '\r' :: '\n' :: rest => '\n' :: unifyLineEnds rest
  | c :: rest => (if c = '\r' then '\n' else c) :: unifyLineEnds rest

end EntityScribe.Text
