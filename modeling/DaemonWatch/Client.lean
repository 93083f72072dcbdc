/-
  The channel to the daemon over HTTP.

  1. **Exchanges** (`Exchange`): what can come of a request, and the result that each of these is
     for the call.  A whole reply is read as an envelope, whatever is in it.

  2. **The client** (`Client`).  A call sends one request and takes what comes of it as a result.
     When the transport fails, the daemon counts as disconnected from the end of the call for two
     seconds; any other end of a call makes it count as connected at once.  The loss of the
     connection is logged at the first failure of a row of them (`Client.note`).

  3. **The network** is given as what will come of the requests, one after the other; when nothing
     is left, connections are closed.  The requests that were received are kept, in order, as they
     were sent.
-/
import DaemonWatch.Channel
import DaemonWatch.Envelope
import DaemonWatch.HttpStatus

namespace DaemonWatch

/-! ## Exchanges -/

/-- What comes of a request: no connection, no reply, none in time, a reply cut off within its body,
or a whole reply.  A call is one exchange: a status that redirects is a status like any other, and
the request is not put to another address.  A transport that follows redirects by itself does so
within the exchange, and what counts is the reply that it ends with. -/
inductive Exchange
  | refused
  | closed
  | timedOut
  | cut (status : Nat)
  | answered (status : Nat) (body : List UInt8)
  deriving Repr, DecidableEq

namespace Exchange

/-- The failure of a call that is answered with a status other than success. -/
def statusFailure (method : String) (status : Nat) : Failure :=
  .rpc method status (method ++ " returned " ++ HttpStatus.text status)

/-- The result of a call of a method. -/
def result (method : String) : Exchange → Except Failure Json
  | refused => .error (.http .refused)
  | closed => .error (.http .closed)
  | timedOut => .error (.http .timedOut)
  | cut status =>
    if HttpStatus.isSuccess status then .error (.http .bodyLost)
    else .error (statusFailure method status)
  | answered status body =>
    if HttpStatus.isSuccess status then
      match Envelope.ofBytes? body with
      | some e => e.result method
      | none => .error (.http .bodyUnreadable)
    else .error (statusFailure method status)

/-- Whether the request reached anyone. -/
def isReceived : Exchange → Bool
  | refused => false
  | _ => true

end Exchange

/-! ## The client -/

/-- The client: whether its address can be used, when the last call failed in transport if it did,
what will come of requests, and the requests that were received. -/
structure Client where
  usable : Bool := true
  lostAt : Option Nat := none
  network : List (Timed Exchange) := []
  received : List String := []
  deriving Repr

namespace Client

/-- How long the daemon counts as disconnected, in milliseconds. -/
def reconnectDelay : Nat := 2000

/-- Whether the daemon counts as connected. -/
def isConnected (c : Client) (now : Nat) : Bool :=
  match c.lostAt with
  | none => true
  | some since => reconnectDelay ≤ now - since

/-- What comes of a request, and how long it takes.  The request is sent once: neither a failure nor
a redirect makes the client send it again. -/
def send (c : Client) (r : Request) : Timed (Except Failure Json) × Client :=
  if c.usable then
    let (exchange, rest) : Timed Exchange × List (Timed Exchange) :=
      match c.network with
      | [] => (⟨.closed, 0⟩, [])
      | e :: rest => (e, rest)
    let received := if exchange.value.isReceived then c.received ++ [r.text] else c.received
    (⟨exchange.value.result r.method, exchange.delay⟩,
     { c with network := rest, received := received })
  else (⟨.error (.http .unusableAddress), 0⟩, c)

/-- Notes how a call ended at the time `now`; the notices tell of a connection just lost. -/
def note {α : Type} (c : Client) (method : String) (now : Nat) (result : Except Failure α) :
    List Notice × Client :=
  match result with
  | .error f =>
    if f.isTransport then
      (if c.lostAt.isNone then [.connectionLost method f] else [], { c with lostAt := some now })
    else ([], { c with lostAt := none })
  | .ok _ => ([], { c with lostAt := none })

/-- Makes a call that begins at the time `now`. -/
def call (c : Client) (r : Request) (now : Nat) : Reply Json × Client :=
  let (outcome, c) := c.send r
  let (notices, c) := c.note r.method (now + outcome.delay) outcome.value
  ({ result := outcome.value, delay := outcome.delay, notices := notices }, c)

/-- A report succeeds also when the reply is empty. -/
def reportResult : Except Failure Json → Except Failure Unit
  | .ok _ => .ok ()
  | .error (.emptyReply _) => .ok ()
  | .error f => .error f

instance : Channel Client where
  connected now c := (c.isConnected now, c)
  query q now c := c.call ⟨q.method, []⟩ now
  confirm id cancelled now c :=
    let (reply, c) := c.call (Request.report id cancelled) now
    ({ result := reportResult reply.result, delay := reply.delay, notices := reply.notices }, c)

end Client

end DaemonWatch
