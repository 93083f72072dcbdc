/-
  What can go wrong between the program and what it works with, and the wording of it.

  A failure of the transport means that the daemon was not reached or did not answer in time; it
  is what makes the daemon count as disconnected.
-/

namespace DaemonWatch

/-- What can go wrong in an exchange over HTTP. -/
inductive Fault
  | refused
  | closed
  | timedOut
  | unusableAddress
  | bodyLost
  | bodyUnreadable
  deriving Repr, DecidableEq

namespace Fault

/-- Whether there was no connection. -/
def isConnect : Fault → Bool
  | refused => true
  | _ => false

/-- Whether the time ran out. -/
def isTimeout : Fault → Bool
  | timedOut => true
  | _ => false

/-- Whether the request was begun and no reply to it began. -/
def isRequest : Fault → Bool
  | refused | closed => true
  | _ => false

/-- Whether the daemon was tried and no answer began, or the time ran out. -/
def isTransport (f : Fault) : Bool := f.isConnect || f.isTimeout || f.isRequest

/-- What is said about a fault.  It is the HTTP library that words its errors, and the wording is no
part of this program: these texts stand for those of the library, one for each fault, and nothing
but what is logged and printed depends on them. -/
def text : Fault → String
  | refused => "connection refused"
  | closed => "connection closed before the reply"
  | timedOut => "operation timed out"
  | unusableAddress => "unusable address"
  | bodyLost => "connection lost within the reply"
  | bodyUnreadable => "unreadable reply"

end Fault

/-- Why a call, a command or the preparation of the program failed. -/
inductive Failure
  | http (fault : Fault)
  | rpc (method : String) (code : Int) (text : String)
  | emptyReply (method : String)
  | config (text : String)
  | file (text : String)
  | command (text : String)
  deriving Repr, DecidableEq

namespace Failure

/-- What is said about a failure. -/
def message : Failure → String
  | http fault => "HTTP error: " ++ fault.text
  | rpc method code text =>
    "RPC call " ++ method ++ " failed (" ++ Int.repr code ++ "): " ++ text
  | emptyReply method => "RPC call " ++ method ++ " returned nothing"
  | config text => "Configuration error: " ++ text
  | file text => "I/O error: " ++ text
  | command text => "Command failed: " ++ text

/-- Whether a failure is one of the transport itself. -/
def isTransport : Failure → Bool
  | http fault => fault.isTransport
  | file _ => true
  | _ => false

end Failure

end DaemonWatch
