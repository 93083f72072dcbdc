/-
  Addresses of the daemon.

  An address is an absolute URL of the scheme `http` or `https`.  The characters up to U+0020
  around it do not count, nor do tabs and line ends within it, and a backslash is as good as a
  slash.  A user in front of the host is no part of the address that requests are sent to.
-/
import DaemonWatch.Address.Host
import DaemonWatch.Text.Blank

namespace DaemonWatch

open Text

/-- An address.  The port is absent if it is the usual one, and the path begins with a slash. -/
structure Address where
  secure : Bool
  host : Address.Host
  port : Option Nat
  path : List Char
  query : Option (List Char)
  fragment : Option (List Char)
deriving Repr, DecidableEq

namespace Address

/-! ## Scheme, host and port -/

/-- The text without what does not count. -/
def cleaned (s : List Char) : List Char :=
  let bare := dropEnd (fun c => c.toNat ≤ 0x20) (s.dropWhile fun c => c.toNat ≤ 0x20)
  bare.filter fun c => !(c = '\t' || c = '\n' || c = '\r')

/-- The scheme in lower case and what follows its colon. -/
def splitScheme? (s : List Char) : Option (List Char × List Char) :=
  match s with
  | c :: _ =>
    if c.isAlpha then
      let name := s.takeWhile fun c => c.isAlphanum || c = '+' || c = '-' || c = '.'
      match s.drop name.length with
      | ':' :: rest => some (name.map Char.toLower, rest)
      | _ => none
    else none
  | [] => none

/-- Whether requests to an address with this scheme are secure, for the schemes there are. -/
def secure? (scheme : List Char) : Option Bool :=
  if scheme = "https".toList then some true
  else if scheme = "http".toList then some false
  else none

/-- The port that need not be written. -/
def usualPort (secure : Bool) : Nat := if secure then 443 else 80

/-- Whether a character is a slash or as good as one. -/
def isSlash (c : Char) : Bool := c = '/' || c = '\\'

/-- Whether a character ends the user, host and port. -/
def endsAuthority (c : Char) : Bool := isSlash c || c = '?' || c = '#'

/-- The host of an authority and, behind a colon outside of brackets, the port. -/
def splitPort (inBrackets : Bool) : List Char → List Char × List Char
  | [] => ([], [])
  | c :: rest =>
    if c = ':' && !inBrackets then ([], rest)
    else
      let (host, port) := splitPort (c = '[' || (inBrackets && c ≠ ']')) rest
      (c :: host, port)

/-- The number of a port; a port may be empty, and then it is the usual one. -/
def port? (usual : Nat) (s : List Char) : Option Nat :=
  if s = [] then some usual
  else if s.all Char.isDigit then (digits? 10 s).filter (· ≤ 65535)
  else none

/-! ## Path, query and fragment -/

/-- Whether a character is no visible ASCII character. -/
def isInvisible (c : Char) : Bool := c.toNat ≤ 0x20 || 0x7F ≤ c.toNat

/-- Whether a character is escaped in a path. -/
def escapedInPath (c : Char) : Bool :=
  isInvisible c || "\"#<>?\x60\x7b\x7d".toList.contains c

/-- Whether a character is escaped in a query. -/
def escapedInQuery (c : Char) : Bool := isInvisible c || "\"#<>'".toList.contains c

/-- Whether a character is escaped in a fragment. -/
def escapedInFragment (c : Char) : Bool := isInvisible c || "\"<>\x60".toList.contains c

/-- A segment with dots for those that are written with a percent sign. -/
def undotted : List Char → List Char
  | '%' :: '2' :: c :: rest =>
    if c = 'e' || c = 'E' then '.' :: undotted rest else '%' :: '2' :: undotted (c :: rest)
  | c :: rest => c :: undotted rest
  | [] => []

/-- Whether a segment of a path names the place it is at. -/
def isHere (segment : List Char) : Bool := undotted segment = ['.']

/-- Whether a segment of a path names the place above. -/
def isAbove (segment : List Char) : Bool := undotted segment = ['.', '.']

/-- The segments of a path behind those in `passed`, given backwards, without dots.  A path that
ends in dots ends in a slash. -/
def resolvedBehind (passed : List (List Char)) : List (List Char) → List (List Char)
  | [] => passed.reverse
  | segment :: rest =>
    let kept :=
      if isAbove segment then passed.drop 1
      else if isHere segment then passed
      else segment :: passed
    let closed := rest = [] && (isAbove segment || isHere segment)
    resolvedBehind (if closed then [] :: kept else kept) rest

/-- The path that a text behind the host names. -/
def pathOf (s : List Char) : List Char :=
  let written := if s.head?.any isSlash then s.drop 1 else s
  let segments := resolvedBehind [] (splitWhere isSlash written)
  '/' :: ['/'].intercalate (segments.map (Percent.encode escapedInPath))

/-- What a text is without its first character, if that is `mark`. -/
def behind? (mark : Char) (s : List Char) : Option (List Char) :=
  match s with
  | c :: rest => if c = mark then some rest else none
  | [] => none

/-! ## Addresses -/

/-- The address that a text is. -/
def ofText? (s : List Char) : Option Address :=
  match splitScheme? (cleaned s) with
  | none => none
  | some (scheme, rest) =>
    let bare := rest.dropWhile isSlash
    let (hostText, portText) :=
      splitPort false (cutLast '@' (bare.takeWhile (!endsAuthority ·))).2
    let tail := bare.dropWhile (!endsAuthority ·)
    let path := tail.takeWhile fun c => c ≠ '?' && c ≠ '#'
    let further := tail.drop path.length
    let query := behind? '?' (further.takeWhile (· ≠ '#'))
    let fragment := behind? '#' (further.dropWhile (· ≠ '#'))
    match secure? scheme, Host.ofText? hostText with
    | some secure, some host =>
      (port? (usualPort secure) portText).map fun port =>
        { secure := secure
          host := host
          port := if port = usualPort secure then none else some port
          path := pathOf path
          query := query.map (Percent.encode escapedInQuery)
          fragment := fragment.map (Percent.encode escapedInFragment) }
    | _, _ => none

end Address

end DaemonWatch
