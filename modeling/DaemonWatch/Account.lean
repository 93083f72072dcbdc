/-
  Accounts, and finding the account of a domain.

  An account is valid when it has a server and a user.  Of several accounts with one domain id the
  first one listed counts, valid or not.
-/

namespace DaemonWatch

/-- An account on a server, known to the daemon by its domain id. -/
structure Account where
  domainId : String
  serverUrl : String := ""
  username : String := ""
  deriving Repr, DecidableEq

/-- Whether the account has a server and a user. -/
def Account.isValid (a : Account) : Bool := !a.serverUrl.isEmpty && !a.username.isEmpty

/-- What finding an account yields when the first one listed is not valid: nothing, or that account
as it is listed. -/
inductive LookupRule
  | validOnly
  | asListed
  deriving Repr, DecidableEq

/-- The accounts listed, and the rule by which they are found. -/
structure AccountBook where
  rule : LookupRule
  accounts : List Account
  deriving Repr, DecidableEq

namespace AccountBook

/-- The account of a domain. -/
def find? (book : AccountBook) (domainId : String) : Option Account :=
  let first := book.accounts.find? fun a => a.domainId = domainId
  match book.rule with
  | .validOnly => first.filter Account.isValid
  | .asListed => first

end AccountBook

end DaemonWatch
