/-
  Messages for the tray.  A message may be tied to a library, and to two commits of it; an empty
  id ties it to nothing.
-/

namespace DaemonWatch

/-- How urgent a message is. -/
inductive Severity
  | information
  | warning
  deriving Repr, DecidableEq

/-- A message for the tray. -/
structure TrayMessage where
  title : String
  body : String
  repoId : Option String := none
  commitId : Option String := none
  parentCommitId : Option String := none
  severity : Severity := .information
  deriving Repr, DecidableEq

namespace TrayMessage

/-- A text unless it is empty. -/
def nonEmpty? (s : String) : Option String := if s.isEmpty then none else some s

/-- The message tied to a library. -/
def withRepo (m : TrayMessage) (repoId : String) : TrayMessage :=
  { m with repoId := nonEmpty? repoId }

/-- The message tied to a commit and its parent. -/
def withCommit (m : TrayMessage) (commitId parentCommitId : String) : TrayMessage :=
  { m with commitId := nonEmpty? commitId, parentCommitId := nonEmpty? parentCommitId }

end TrayMessage

end DaemonWatch
