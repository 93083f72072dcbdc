/-
  The configuration and the file it is read from.

  1. **Reading and writing** (`Config.ofTree?`, `Config.toJson`).  The fields have names in a fixed
     order, and all of them have defaults; of an account the domain id has to be given.

  2. **The file** (`Config.ofFile`).  A file that is missing gives the defaults.  A file that cannot
     be read, or that does not spell a configuration, is an error where the file is asked for by its
     path; the program itself then starts with the defaults as a whole (`Config.load`), not with
     what could be read.
-/
import DaemonWatch.Account
import DaemonWatch.Failure
import DaemonWatch.Json.Printer
import DaemonWatch.Json.Record
import DaemonWatch.Reaction
import DaemonWatch.Text.Utf8

namespace DaemonWatch

/-- The configuration. -/
structure Config where
  rpcUrl : String := "http://127.0.0.1:13419/rpc"
  pollIntervalMs : Nat := 1000
  requestTimeoutMs : Nat := 800
  notify : Bool := true
  hideWindowsPaths : Bool := false
  accounts : List Account := []
  deriving Repr, DecidableEq

/-! ## Reading and writing -/

namespace Account

/-- The names of an account's fields, in order. -/
def fieldNames : List String := ["domain_id", "server_url", "username"]

/-- The account that a tree spells; the domain id has to be there. -/
def ofTree? (t : Json.Tree) : Option Account := do
  let fields ← Json.Record.present? fieldNames t
  return {
    domainId := ← Json.Record.field? fields "domain_id" none Json.Tree.string?
    serverUrl := ← Json.Record.field? fields "server_url" (some "") Json.Tree.string?
    username := ← Json.Record.field? fields "username" (some "") Json.Tree.string? }

/-- The account as a value, its fields in order. -/
def toJson (a : Account) : Json :=
  .object
    [("domain_id", .text a.domainId), ("server_url", .text a.serverUrl),
     ("username", .text a.username)]

end Account

namespace Config

/-- The names of the configuration's fields, in order. -/
def fieldNames : List String :=
  ["rpc_url", "poll_interval_ms", "request_timeout_ms", "notify",
   "hide_windows_incompatible_path_msg", "accounts"]

/-- The configuration that a tree spells; every field has a default. -/
def ofTree? (t : Json.Tree) : Option Config := do
  let fields ← Json.Record.present? fieldNames t
  let default : Config := {}
  return {
    rpcUrl := ← Json.Record.field? fields "rpc_url" (some default.rpcUrl) Json.Tree.string?
    pollIntervalMs :=
      ← Json.Record.field? fields "poll_interval_ms" (some default.pollIntervalMs)
        Json.Tree.uint64?
    requestTimeoutMs :=
      ← Json.Record.field? fields "request_timeout_ms" (some default.requestTimeoutMs)
        Json.Tree.uint64?
    notify := ← Json.Record.field? fields "notify" (some default.notify) Json.Tree.bool?
    hideWindowsPaths :=
      ← Json.Record.field? fields "hide_windows_incompatible_path_msg"
        (some default.hideWindowsPaths) Json.Tree.bool?
    accounts :=
      ← Json.Record.field? fields "accounts" (some default.accounts)
        (Json.Tree.list? Account.ofTree?) }

/-- The configuration that a text spells. -/
def ofText? (s : Text.Gapped) : Option Config := do ofTree? (← Json.Tree.ofText? s)

/-- The configuration as a value, its fields in order. -/
def toJson (c : Config) : Json :=
  .object
    [("rpc_url", .text c.rpcUrl), ("poll_interval_ms", .ofInt c.pollIntervalMs),
     ("request_timeout_ms", .ofInt c.requestTimeoutMs), ("notify", .bool c.notify),
     ("hide_windows_incompatible_path_msg", .bool c.hideWindowsPaths),
     ("accounts", .array (c.accounts.map Account.toJson))]

/-- The text of a configuration. -/
def text (c : Config) : String := c.toJson.print

/-! ## What it says -/

/-- The time between two ticks, at least 1 ms. -/
def pollInterval (c : Config) : Nat := max 1 c.pollIntervalMs

/-- The time that a request may take, at least 1 ms. -/
def requestTimeout (c : Config) : Nat := max 1 c.requestTimeoutMs

/-- The settings. -/
def preferences (c : Config) : Preferences := ⟨c.notify, c.hideWindowsPaths⟩

/-- The accounts, of which only valid ones are found. -/
def book (c : Config) : AccountBook := ⟨.validOnly, c.accounts⟩

end Config

/-! ## The file -/

/-- What a path leads to. -/
inductive FileContent
  | missing
  | directory
  | bytes (content : List UInt8)
  deriving Repr, DecidableEq

namespace Config

/-- The text of a file; a directory has none, nor have bytes that are not UTF-8. -/
def textOf? : FileContent → Except Failure (Option (List Char))
  | .missing => .ok none
  | .directory => .error (.file "is a directory")
  | .bytes content =>
    match Text.whole? (Text.Utf8.decode content) with
    | some s => .ok (some s)
    | none => .error (.file "stream did not contain valid UTF-8")

/-- The configuration of a file.  When the text spells none, only the beginning of the error is
given here: what follows it, where and why the reader of JSON has stopped, is left out. -/
def ofFile (f : FileContent) : Except Failure Config :=
  match textOf? f with
  | .error e => .error e
  | .ok none => .ok {}
  | .ok (some s) =>
    match ofText? (s.map some) with
    | some c => .ok c
    | none => .error (.config "Failed to parse config.json")

/-- Where the configuration is: at the path that the user sets, unless it is blank, and else in the
folder of the application. -/
def path (custom : Option String) (applicationFolder : String) : String :=
  let chosen := Text.trimString (custom.getD "")
  if chosen.isEmpty then applicationFolder ++ "/config.json" else chosen

/-- The configuration that the program starts with, given what paths lead to. -/
def load (disk : String → FileContent) (custom : Option String) (applicationFolder : String) :
    Config :=
  match ofFile (disk (path custom applicationFolder)) with
  | .ok c => c
  | .error _ => {}

end Config

end DaemonWatch
