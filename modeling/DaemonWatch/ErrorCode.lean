/-
  The error codes of the sync daemon.

  The codes are numbered from 0 without a gap.  A code that names a problem with one file or
  folder is described together with the base of the path concerned.
-/
import DaemonWatch.Text.Path

namespace DaemonWatch

/-- What the daemon reports as the reason of a sync error. -/
inductive ErrorCode
  | fileLockedByApp
  | folderLockedByApp
  | fileLocked
  | invalidPath
  | indexError
  | accessDenied
  | quotaFull
  | network
  | resolveProxy
  | resolveHost
  | connect
  | ssl
  | tx
  | txTimeout
  | unhandledRedirect
  | server
  | localDataCorrupt
  | writeLocalData
  | serverRepoDeleted
  | serverRepoCorrupt
  | notEnoughMemory
  | conflict
  | generalError
  | noError
  | removeUncommittedFolder
  | invalidPathOnWindows
  | libraryTooLarge
  deriving Repr, DecidableEq

namespace ErrorCode

/-- All codes, in the order of their numbers. -/
def all : List ErrorCode :=
  [fileLockedByApp, folderLockedByApp, fileLocked, invalidPath, indexError, accessDenied,
   quotaFull, network, resolveProxy, resolveHost, connect, ssl, tx, txTimeout, unhandledRedirect,
   server, localDataCorrupt, writeLocalData, serverRepoDeleted, serverRepoCorrupt,
   notEnoughMemory, conflict, generalError, noError, removeUncommittedFolder,
   invalidPathOnWindows, libraryTooLarge]

/-! ## Numbers and names -/

/-- The number of a code. -/
def number (e : ErrorCode) : Nat := all.idxOf e

/-- The code of a number. -/
def ofNumber? (n : Int) : Option ErrorCode := if n < 0 then none else all[n.toNat]?

/-- The name of a code. -/
def name : ErrorCode → String
  | fileLockedByApp => "file_locked_by_app"
  | folderLockedByApp => "folder_locked_by_app"
  | fileLocked => "file_locked"
  | invalidPath => "invalid_path"
  | indexError => "index_error"
  | accessDenied => "access_denied"
  | quotaFull => "quota_full"
  | network => "network"
  | resolveProxy => "resolve_proxy"
  | resolveHost => "resolve_host"
  | connect => "connect"
  | ssl => "ssl"
  | tx => "tx"
  | txTimeout => "tx_timeout"
  | unhandledRedirect => "unhandled_redirect"
  | server => "server"
  | localDataCorrupt => "local_data_corrupt"
  | writeLocalData => "write_local_data"
  | serverRepoDeleted => "server_repo_deleted"
  | serverRepoCorrupt => "server_repo_corrupt"
  | notEnoughMemory => "not_enough_memory"
  | conflict => "conflict"
  | generalError => "general_error"
  | noError => "no_error"
  | removeUncommittedFolder => "remove_uncommitted_folder"
  | invalidPathOnWindows => "invalid_path_on_windows"
  | libraryTooLarge => "library_too_large"

/-! ## Descriptions -/

/-- What the user is told about a code. -/
def description : ErrorCode → String
  | fileLockedByApp => "File is locked by another application"
  | folderLockedByApp => "Folder is locked by another application"
  | fileLocked => "File is locked by another user"
  | invalidPath => "Path is invalid"
  | indexError => "Error when indexing"
  | accessDenied => "You don't have enough permission"
  | quotaFull => "The storage quota of the library owner is used up"
  | network => "Network error"
  | resolveProxy => "Failed to resolve the proxy address"
  | resolveHost => "Failed to resolve the server address"
  | connect => "Failed to connect to the server"
  | ssl => "Failed to establish a secure connection. Please check the server SSL certificate"
  | tx => "Data transfer was interrupted. Please check the network or firewall"
  | txTimeout => "Data transfer timed out. Please check the network or firewall"
  | unhandledRedirect =>
    "Unhandled HTTP redirect from the server. Please check the server configuration"
  | server => "Server error"
  | localDataCorrupt => "Internal data is corrupted"
  | writeLocalData =>
    "Failed to write data on the client. Please check the disk space or folder permissions"
  | serverRepoDeleted => "The library was deleted on the server"
  | serverRepoCorrupt => "The library is damaged on the server"
  | notEnoughMemory => "Not enough memory"
  | conflict => "Concurrent updates to the file. The file is saved as a conflict file"
  | generalError => "Unknown error"
  | noError => ""
  | removeUncommittedFolder => "The folder has unsynced changes and was moved to the cache"
  | invalidPathOnWindows => "The path contains symbols that are not supported on Windows"
  | libraryTooLarge => "The library is too large to sync"

/-- Whether the description names the file or folder concerned. -/
def namesPath (e : ErrorCode) : Bool :=
  e = fileLockedByApp || e = folderLockedByApp || e = fileLocked || e = invalidPath
    || e = invalidPathOnWindows

/-- The description of a number that the daemon reports for a path.  An unknown number is described
as the general error, and a path without a base is not named. -/
def describe (number : Int) (path : String) : String :=
  match ofNumber? number with
  | none => generalError.description
  | some e =>
    let base := Path.base path
    if e.namesPath && !base.isEmpty then e.description ++ ": \"" ++ base ++ "\""
    else e.description

end ErrorCode

end DaemonWatch
