/-
  Slash separated paths.

  A path's slashes at the end do not count.  Of what remains, the base is what follows the last
  slash and the parent is what precedes it; without a slash the whole is the base and the parent
  is empty.
-/
import DaemonWatch.Text.Blank

namespace DaemonWatch.Path

open Text

/-- The path without the slashes at its end. -/
def withoutEndSlashes (p : List Char) : List Char := dropEnd (· == '/') p

/-- The last component of the path. -/
def baseChars (p : List Char) : List Char :=
  ((withoutEndSlashes p).reverse.takeWhile (· != '/')).reverse

/-- Everything before the slash that precedes the last component. -/
def parentChars (p : List Char) : List Char :=
  (((withoutEndSlashes p).reverse.dropWhile (· != '/')).drop 1).reverse

/-- `baseChars` on strings. -/
def base (p : String) : String := String.ofList (baseChars p.toList)

/-- `parentChars` on strings. -/
def parent (p : String) : String := String.ofList (parentChars p.toList)

end DaemonWatch.Path
