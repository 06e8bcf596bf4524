/-!
# Lines of code

Generated code is a list of lines; the body of a block is indented by four blanks, its empty lines
excepted.
-/

namespace EntityScribe.Code

/-- A line one level further in. -/
def indented (line : String) : String :=
  if line = "" then "" else "    " ++ line

/-- A block between braces. -/
def block (head : String) (body : List String) : List String :=
  (head ++ " \x7b") :: body.map indented ++ ["\x7d"]

/-- A choice between two blocks. -/
def choice (condition : String) (whenTrue whenFalse : List String) : List String :=
  ("if (" ++ condition ++ ") \x7b") :: whenTrue.map indented ++
    "\x7d else \x7b" :: whenFalse.map indented ++ ["\x7d"]

/-- A block on one line. -/
def inlineBlock (head body : String) : String :=
  head ++ " \x7b " ++ body ++ " \x7d"

end EntityScribe.Code
