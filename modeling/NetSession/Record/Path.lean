/-!
# Shortened paths

A record keeps at most the last two directories of a source file's path and its name. Both slashes
separate.
-/

namespace NetSession.Path

/-- Whether a character separates the parts of a path. -/
def isSeparator (c : Char) : Bool := c == '/' || c == '\\'

/-- Walks back through a path, given in reverse, with `tail` behind the walk: what follows the
separator before which `skip` others were met, if there is one. -/
def afterSeparatorFromEnd : Nat → List Char → List Char → Option (List Char)
  | _, [], _ => none
  | skip, c :: before, tail =>
    if isSeparator c then
      match skip with
      | 0 => some tail
      | skip + 1 => afterSeparatorFromEnd skip before (c :: tail)
    else afterSeparatorFromEnd skip before (c :: tail)

/-- What follows the third separator from the end; with fewer, the path without the separators at
its front. -/
def shorten (path : List Char) : List Char :=
  (afterSeparatorFromEnd 2 path.reverse []).getD (path.dropWhile isSeparator)

end NetSession.Path
