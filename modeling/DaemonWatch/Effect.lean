/-
  What the program does to the outside.

  An `Effect` is a call of something outside: the daemon, the tray, the user, or a link
  command (`LinkCall`).  An `Output` is an effect, a notice for the log, or the signal that the
  libraries are loaded.
-/
import DaemonWatch.Account
import DaemonWatch.Notice

namespace DaemonWatch

/-- A call of something outside. -/
inductive Effect
  | query (q : Query)
  | message (m : TrayMessage)
  | warning (title body : String)
  | rotate (active : Bool)
  | rate (sent received : Nat)
  | errors (es : List SyncError)
  | prompt (text question : String)
  | confirmation (id : String) (cancelled : Bool)
  | link (request : ActionRequest) (account : Account)
  deriving Repr, DecidableEq

/-! ## Link commands -/

/-- A call of a link command: which one, with the account, the library, the path, and for an
internal link whether the path is a folder. -/
inductive LinkCall
  | shareLink (account : Account) (repoId path : String)
  | internalLink (account : Account) (repoId path : String) (isDir : Bool)
  | uploadLink (account : Account) (repoId path : String)
  | fileHistory (account : Account) (repoId path : String)
  deriving Repr, DecidableEq

/-- The command that a request calls with an account. -/
def ActionRequest.call (r : ActionRequest) (a : Account) : LinkCall :=
  match r.action with
  | .shareLink => .shareLink a r.repoId r.path
  | .internalLink => .internalLink a r.repoId r.path r.isDir
  | .uploadLink => .uploadLink a r.repoId r.path
  | .fileHistory => .fileHistory a r.repoId r.path

/-- The link command that is called, if the effect is one. -/
def Effect.linkCall? : Effect → Option LinkCall
  | link request account => some (request.call account)
  | _ => none

/-! ## Outputs -/

/-- What a run gives off, in order. -/
inductive Output
  | effect (e : Effect)
  | notice (n : Notice)
  | filesystemLoaded
  deriving Repr, DecidableEq

namespace Output

/-- The effect, if it is one. -/
def effect? : Output → Option Effect
  | effect e => some e
  | _ => none

/-- The notice, if it is one. -/
def notice? : Output → Option Notice
  | notice n => some n
  | _ => none

/-- The effects among outputs. -/
def effects (outputs : List Output) : List Effect := outputs.filterMap effect?

/-- The notices among outputs. -/
def notices (outputs : List Output) : List Notice := outputs.filterMap notice?

/-- The number of signals among outputs. -/
def signalCount (outputs : List Output) : Nat := outputs.countP (· = filesystemLoaded)

@[simp] theorem effects_append (o o' : List Output) : effects (o ++ o') = effects o ++ effects o' :=
  List.filterMap_append

@[simp] theorem effects_notices (ns : List Notice) : effects (ns.map notice) = [] := by
  simp [effects, effect?, Function.comp_def]

@[simp] theorem effects_effects (es : List Effect) : effects (es.map effect) = es := by
  simp [effects, effect?, Function.comp_def]

end Output

end DaemonWatch
