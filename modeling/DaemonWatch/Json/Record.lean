/-
  Reading records from JSON text.

  A record's fields have names in a fixed order.

  1. **As an object**: members with other names are skipped unseen, and no field may come twice.

  2. **As an array**: its items are the fields in their order, the last of which may be left out.

  `Record.present?` yields the fields that are spelled, either way, and `Record.field?` reads one of
  them, with a default if it may be missing.  How a field is read is a matter of its type:
  `Tree.string?`, `Tree.uint64?`, `Tree.list?` and the like read one value and fail on any other.
-/
import DaemonWatch.Json.Tree

namespace DaemonWatch.Json

/-! ## Single values -/

namespace Tree

/-- A string. -/
def string? : Tree → Option String
  | .text s => Piece.string? s
  | _ => none

/-- A truth value. -/
def bool? : Tree → Option Bool
  | .bool b => some b
  | _ => none

/-- A signed integer of 64 bits, spelled as one. -/
def int64? : Tree → Option Int
  | .number l => l.int?.filter fun n => n ≤ maxInt64
  | _ => none

/-- An unsigned integer of 64 bits, spelled as one. -/
def uint64? : Tree → Option Nat
  | .number l => (l.int?.filter fun n => 0 ≤ n).map Int.toNat
  | _ => none

/-- An array of values. -/
def list? {α : Type} (read : Tree → Option α) : Tree → Option (List α)
  | .array items => items.mapM read
  | _ => none

/-- A value, or `null` for none. -/
def nullable? {α : Type} (read : Tree → Option α) : Tree → Option (Option α)
  | .null => some none
  | t => (read t).map some

end Tree

/-! ## Fields -/

namespace Record

/-- The fields that a tree spells, given the names of all fields. -/
def present? (names : List String) : Tree → Option (List (String × Tree))
  | .object members => do
    let keyed ← members.mapM fun m => (Piece.string? m.1).map (·, m.2)
    let known := keyed.filter fun m => names.contains m.1
    if (known.map (·.1)).Nodup then some known else none
  | .array items => if items.length ≤ names.length then some (names.zip items) else none
  | _ => none

/-- The value of a field: read when it is present, and else `default`, if there is one. -/
def field? {α : Type} (fields : List (String × Tree)) (name : String) (default : Option α)
    (read : Tree → Option α) : Option α :=
  match fields.lookup name with
  | some t => read t
  | none => default

end Record

end DaemonWatch.Json
