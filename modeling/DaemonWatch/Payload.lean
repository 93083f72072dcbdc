/-
  Fields of the daemon's payloads.

  The daemon is loose about types, so reading a field never fails: a field that is missing, or
  that holds something else, reads as the empty text, as zero or as false.  Integers are read as
  signed 64-bit integers, out of range ones as the nearest bound, and a truth value counts as 0
  or 1.
-/
import DaemonWatch.Json.Basic

namespace DaemonWatch.Payload

/-- A text field. -/
def text (payload : Json) (key : String) : String :=
  match payload.get? key with
  | some (.text s) => s
  | _ => ""

/-- An integer field. -/
def integer (payload : Json) (key : String) : Int :=
  match payload.get? key with
  | some (.number x) => x.toInt64
  | some (.bool b) => if b then 1 else 0
  | _ => 0

/-- A flag: an integer field other than zero. -/
def flag (payload : Json) (key : String) : Bool := integer payload key != 0

/-- A number of bytes: an integer field, negative ones as zero. -/
def byteCount (payload : Json) (key : String) : Nat := (integer payload key).toNat

/-! ## Fields that hold what they should -/

variable {payload : Json} {key : String}

/-- A text is read as it is. -/
theorem text_of_text {s : String} (found : payload.get? key = some (.text s)) :
    text payload key = s := by
  rw [text, found]

/-- A number is cut toward zero and moved into the range. -/
theorem integer_of_number {x : Json.Number} (found : payload.get? key = some (.number x)) :
    integer payload key = max Json.minInt64 (min Json.maxInt64 x.truncate) := by
  rw [integer, found]
  exact x.toInt64_eq

/-- A number is a flag that is set unless it is cut to zero. -/
theorem flag_of_number {x : Json.Number} (found : payload.get? key = some (.number x)) :
    flag payload key = true ↔ x.truncate ≠ 0 := by
  have least := Json.minInt64_neg
  have greatest := Json.maxInt64_pos
  rw [flag, bne_iff_ne, integer_of_number found]
  omega

/-- A truth value counts as 0 or 1. -/
theorem integer_of_bool {b : Bool} (found : payload.get? key = some (.bool b)) :
    integer payload key = if b then 1 else 0 := by
  rw [integer, found]

/-- A truth value is a flag as it is. -/
theorem flag_of_bool {b : Bool} (found : payload.get? key = some (.bool b)) :
    flag payload key = b := by
  rw [flag, integer_of_bool found]
  cases b <;> rfl

end DaemonWatch.Payload
