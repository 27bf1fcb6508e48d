/-!
# Occurrences of a text in another
-/

namespace Midrange.Text

/-- Whether a text occurs in another as a contiguous part. -/
def occursIn (needle : List Char) : List Char → Bool
  | [] => needle.isEmpty
  | c :: rest => needle.isPrefixOf (c :: rest) || occursIn needle rest

end Midrange.Text
