import TapeCompiler.Text.Basic

/-!
# Line breaks

Files may end their lines with a carriage return and a line feed, with either of them alone, or with
a mixture. In a text that was read every line ends with a line feed.
-/

namespace TapeCompiler.Text

/-- A text with a line feed in the place of every line break. -/
def unifyLineBreaks : Text → Text
  | [] => []
  | '\r' :: '\n' :: rest => '\n' :: unifyLineBreaks rest
  | c :: rest => (if c = '\r' then '\n' else c) :: unifyLineBreaks rest

end TapeCompiler.Text
