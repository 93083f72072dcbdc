/-
  The hosts of addresses.

  A host is an IPv6 address in brackets, or a name.  In a name percent signs can stand for bytes,
  and a name whose written form ends in a number is an IPv4 address.
-/
import DaemonWatch.Address.Ipv4
import DaemonWatch.Address.Ipv6
import DaemonWatch.Domain.Name
import DaemonWatch.Text.Percent

namespace DaemonWatch.Address

open Text

/-- A host: a name in its written form, or the number or the groups of an address. -/
inductive Host where
  | name (text : List Char)
  | ipv4 (value : Nat)
  | ipv6 (groups : List Nat)
deriving Repr, DecidableEq

namespace Host

/-- The host of a name in its written form. -/
def ofName? (name : List Char) : Option Host :=
  if name = [] then none
  else if Ipv4.endsInNumber name then (Ipv4.value? name).map .ipv4
  else some (.name name)

/-- The host that a text names. -/
def ofText? (s : List Char) : Option Host :=
  match s with
  | [] => none
  | '[' :: rest =>
    if rest.getLast? = some ']' then (Ipv6.ofText? rest.dropLast).map .ipv6 else none
  | _ => ((Percent.decode? s).bind Domain.written?).bind ofName?

/-- The text of a host. -/
def text : Host → List Char
  | name text => text
  | ipv4 value => Ipv4.text value
  | ipv6 groups => '[' :: Ipv6.text groups ++ [']']

end Host

end DaemonWatch.Address
