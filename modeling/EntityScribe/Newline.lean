import EntityScribe.Text.Replace

/-!
# Line ends of a platform

Generated text is written with the line ends of the platform. It is brought to line feeds first, so
that line ends already in the platform's form are not doubled.
-/

namespace EntityScribe.Newline

/-- Carriage returns before line feeds are dropped, and the platform's line ends become line
feeds. -/
def toUnix (lineEnd s : String) : String :=
  Text.replaceAll (Text.replaceAll s "\r\n" "\n") lineEnd "\n"

def toPlatform (lineEnd s : String) : String :=
  Text.replaceAll (toUnix lineEnd s) "\n" lineEnd

end EntityScribe.Newline
