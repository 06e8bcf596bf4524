/-!
# Replacement

Every occurrence of one text in another is replaced, from left to right and without overlap.
-/

namespace EntityScribe.Text

/-- Replaces occurrences of `target`; the first argument counts the characters still to be skipped
because an occurrence has just been replaced. -/
def replaceChars (target replacement : List Char) : Nat → List Char → List Char
  | _, [] => []
  | skip + 1, _ :: rest => replaceChars target replacement skip rest
  | 0, c :: rest =>
      if target.isPrefixOf (c :: rest) then
        replacement ++ replaceChars target replacement (target.length - 1) rest
      else c :: replaceChars target replacement 0 rest

/-- Meant for a `target` that is not empty. -/
def replaceAll (s target replacement : String) : String :=
  String.ofList (replaceChars target.toList replacement.toList 0 s.toList)

end EntityScribe.Text
