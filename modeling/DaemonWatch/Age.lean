/-
  How long ago something happened, in the coarsest unit that fits.

  Ages are whole seconds since the event.  Anything younger than a minute, the future included,
  has just happened; after that the age is told in minutes, hours or days, rounded down.
-/

namespace DaemonWatch

/-- An age as it is told. -/
inductive Age
  | justNow
  | minutes (n : Nat)
  | hours (n : Nat)
  | days (n : Nat)
  deriving Repr, DecidableEq

namespace Age

/-- The age of something that happened `seconds` ago. -/
def ofSeconds (seconds : Int) : Age :=
  if seconds < 60 then .justNow
  else
    let n := seconds.toNat
    if n / 60 < 60 then .minutes (n / 60)
    else if n / 3600 < 24 then .hours (n / 3600)
    else .days (n / 86400)

/-- The text of an age. -/
def text : Age → String
  | .justNow => "just now"
  | .minutes n => Nat.repr n ++ " min ago"
  | .hours n => Nat.repr n ++ " h ago"
  | .days n => Nat.repr n ++ " d ago"

/-- The first second that a date can be made of: the start of the year -262143. -/
def firstSecond : Int := -8334601228800

/-- The last second that a date can be made of: the end of the year 262142. -/
def lastSecond : Int := 8210266876799

/-- Whether a number of seconds since 1970 can be made a date. -/
def isDate (timestamp : Int) : Bool := firstSecond ≤ timestamp && timestamp ≤ lastSecond

/-- The label of a timestamp, empty when it is no date. -/
def label (now timestamp : Int) : String :=
  if isDate timestamp then (ofSeconds (now - timestamp)).text else ""

end Age

end DaemonWatch
