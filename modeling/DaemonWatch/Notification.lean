/-
  Sync notifications.

  1. **Notifications** (`Notification`): one variant for each sort, with the fields of that sort and
     no others.

  2. **Types on the wire** (`Notification.kind`).  Moves have a family of types, one for each stage;
     so have the actions of the file manager.

  3. **Reading** (`Notification.ofPayload`).  The type decides which fields are read, and every
     payload is a notification: one whose type is not known keeps the type and the commit fields,
     except that an unknown stage of a move keeps the type alone.
-/
import DaemonWatch.ErrorCode
import DaemonWatch.Payload

namespace DaemonWatch

/-! ## Parts -/

/-- The commit that a notification is about. -/
structure Commit where
  repoId : String := ""
  repoName : String := ""
  commitId : String := ""
  parentCommitId : String := ""
  description : String := ""
  deriving Repr, DecidableEq

/-- The stage of a move between libraries. -/
inductive MoveStage
  | start
  | done
  | failed
  deriving Repr, DecidableEq

/-- What the file manager asks for. -/
inductive Action
  | shareLink
  | internalLink
  | uploadLink
  | fileHistory
  deriving Repr, DecidableEq

/-- A request of the file manager, about a path in a library of the account with a domain id. -/
structure ActionRequest where
  action : Action
  repoId : String
  path : String
  domainId : String
  isDir : Bool
  deriving Repr, DecidableEq

/-- A notification.  A sync error carries its code, its path and the code's description; a deletion
to confirm carries the summary of the files concerned. -/
inductive Notification
  | syncDone (commit : Commit)
  | syncError (commit : Commit) (errorId : Int) (path : String) (description : String)
  | multipartUpload (commit : Commit)
  | filesystemLoaded (commit : Commit)
  | move (stage : MoveStage) (source : String) (destination : String)
  | deleteFiles (confirmationId : String) (repoName : String) (summary : String)
  | deleteRepo (confirmationId : String) (repoName : String)
  | action (request : ActionRequest)
  | unknown (kind : String) (commit : Commit)
  deriving Repr, DecidableEq

/-! ## Types on the wire -/

namespace MoveStage

/-- What the type of every move begins with. -/
def family : String := "cross-repo-move."

/-- The stage that a type names behind `family`. -/
def ofText? (s : List Char) : Option MoveStage :=
  if s = "start".toList then some .start
  else if s = "done".toList then some .done
  else if s = "error".toList then some .failed
  else none

/-- The type of a move in the stage. -/
def kind : MoveStage → String
  | .start => "cross-repo-move.start"
  | .done => "cross-repo-move.done"
  | .failed => "cross-repo-move.error"

end MoveStage

namespace Action

/-- The type that asks for the action. -/
def kind : Action → String
  | .shareLink => "action.get_share_link"
  | .internalLink => "action.get_internal_link"
  | .uploadLink => "action.get_upload_link"
  | .fileHistory => "action.view_file_history"

/-- The action that a type asks for. -/
def ofKind? (kind : String) : Option Action :=
  [shareLink, internalLink, uploadLink, fileHistory].find? fun a => a.kind = kind

end Action

namespace Notification

/-- The type of a notification. -/
def kind : Notification → String
  | syncDone _ => "sync.done"
  | syncError .. => "sync.error"
  | multipartUpload _ => "sync.multipart_upload"
  | filesystemLoaded _ => "fs-loaded"
  | move stage _ _ => stage.kind
  | deleteFiles .. => "del_confirmation"
  | deleteRepo .. => "del_repo_confirmation"
  | action request => request.action.kind
  | unknown kind _ => kind

/-- Whether a type is that of sync errors. -/
def isSyncErrorKind (kind : String) : Bool := kind = "sync.error"

/-! ## Reading -/

/-- The commit fields of a payload. -/
def commitOf (payload : Json) : Commit :=
  { repoId := Payload.text payload "repo_id"
    repoName := Payload.text payload "repo_name"
    commitId := Payload.text payload "commit_id"
    parentCommitId := Payload.text payload "parent_commit_id"
    description := Payload.text payload "commit_desc" }

/-- The move of a payload whose type names `stage` behind the family name. -/
def moveOf (kind : String) (stage : List Char) (payload : Json) : Notification :=
  match MoveStage.ofText? stage with
  | some stage => .move stage (Payload.text payload "srcpath") (Payload.text payload "dstpath")
  | none => .unknown kind {}

/-- The notification of a payload about a commit. -/
def aboutCommit (kind : String) (payload : Json) : Notification :=
  let commit := commitOf payload
  if isSyncErrorKind kind then
    let errorId := Payload.integer payload "err_id"
    let path := Payload.text payload "path"
    .syncError commit errorId path (ErrorCode.describe errorId path)
  else if kind = "sync.done" then .syncDone commit
  else if kind = "sync.multipart_upload" then .multipartUpload commit
  else if kind = "fs-loaded" then .filesystemLoaded commit
  else .unknown kind commit

/-- The notification of a payload. -/
def ofPayload (payload : Json) : Notification :=
  let kind := Payload.text payload "type"
  match MoveStage.family.toList.isPrefixOf? kind.toList with
  | some stage => moveOf kind stage payload
  | none =>
    if kind = "del_confirmation" then
      .deleteFiles (Payload.text payload "confirmation_id") (Payload.text payload "repo_name")
        (Payload.text payload "delete_files")
    else if kind = "del_repo_confirmation" then
      .deleteRepo (Payload.text payload "confirmation_id") (Payload.text payload "repo_name")
    else
      match Action.ofKind? kind with
      | some a =>
        .action
          { action := a
            repoId := Payload.text payload "repo_id"
            path := Payload.text payload "repo_path"
            domainId := Payload.text payload "domain_id"
            isDir := Payload.flag payload "is_dir" }
      | none => aboutCommit kind payload

end Notification

end DaemonWatch
