/-
  The text of an address, and which addresses can be used.

  What is sent to the daemon names the address by its text.  A few characters that a host can
  have cannot be sent, nor can a text that is too long.
-/
import DaemonWatch.Address.Basic

namespace DaemonWatch.Address

/-- A text behind a mark, if there is one. -/
def withMark (mark : Char) (s : Option (List Char)) : List Char :=
  match s with
  | some text => mark :: text
  | none => []

/-- The text of an address. -/
def text (a : Address) : List Char :=
  (if a.secure then "https://" else "http://").toList ++ a.host.text
    ++ withMark ':' (a.port.map (Nat.toDigits 10)) ++ a.path ++ withMark '?' a.query
    ++ withMark '#' a.fragment

/-- Whether a character of a host cannot be sent. -/
def isUnsendable (c : Char) : Bool := "\"\x60\x7b\x7d".toList.contains c

/-- The greatest length of a text that can be sent. -/
def maxTextLength : Nat := 65534

/-- Whether requests can be sent to an address. -/
def isSendable (a : Address) : Bool :=
  !a.host.text.any isUnsendable && a.text.length ≤ maxTextLength

/-- Whether a text is an address that requests can be sent to. -/
def isUsable (address : String) : Bool := (ofText? address.toList).any isSendable

end DaemonWatch.Address
