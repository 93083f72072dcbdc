/-
  Which fields of its payload a notification has.

  1. **What a field counts as** (`Payload.counted`): what it holds, if that is of the type that the
     field should have, and else zero.  The accessors read nothing but this (`Payload.counted_text`,
     `Payload.integer_eq`), so a field that is missing and one that is unfit (`Payload.IsUnfit`) are
     the same to them.

  2. **Which fields count** (`Notification.schema`), by the type.  Payloads in which these fields
     count as the same are alike (`Payload.Alike`).

  3. **The crux (`Notification.Reads.of_alike`)** is that nothing else counts, by case on what the
     one payload reads as: every field that the case names is in the schema of the type, so the
     other payload reads as the same notification.  What a payload reads as is what it is decoded
     to, so the two are decoded alike (`Notification.ofPayload_alike`).

  4. **Result** (`decoded_by_type`): this beside the table of types, and beside what each accessor
     makes of a text, a number and a truth value.
-/
import DaemonWatch.Proofs.NotificationKinds

namespace DaemonWatch

/-! ## Fields -/

namespace Payload

/-- What a field should hold: a text, or an integer, as which flags are read too. -/
inductive FieldType
  | text
  | integer
  deriving Repr, DecidableEq

namespace FieldType

/-- Whether a value is of the type.  A truth value is as good as an integer. -/
def admits : FieldType → Json → Bool
  | text, .text _ => true
  | integer, .number _ | integer, .bool _ => true
  | _, _ => false

/-- The value that stands for a missing one. -/
def zero : FieldType → Json
  | text => .text ""
  | integer => .ofInt 0

end FieldType

/-- A field: its key and what it should hold. -/
abbrev Field := String × FieldType

/-- What a field counts as: what it holds, if that is of its type, and zero otherwise. -/
def counted (payload : Json) (f : Field) : Json :=
  ((payload.get? f.1).filter f.2.admits).getD f.2.zero

/-- Payloads that hold the same in a field have it count as the same. -/
theorem counted_congr {payload other : Json} {f : Field}
    (same : other.get? f.1 = payload.get? f.1) : counted payload f = counted other f := by
  rw [counted, counted, same]

/-- A text field is read as the text that it counts as. -/
theorem counted_text (payload : Json) (key : String) :
    counted payload (key, .text) = .text (text payload key) := by
  unfold counted text
  cases payload.get? key with
  | none => rfl
  | some v => cases v <;> rfl

/-- An integer field is read as the integer that it counts as. -/
theorem integer_eq (payload : Json) (key : String) :
    integer payload key =
      match counted payload (key, .integer) with
      | .number x => x.toInt64
      | .bool b => if b then 1 else 0
      | _ => 0 := by
  unfold counted integer
  cases payload.get? key with
  | none => rfl
  | some v => cases v <;> rfl

/-- That a field is missing or holds something of another type than it should. -/
def IsUnfit (payload : Json) (f : Field) : Prop :=
  ∀ v, payload.get? f.1 = some v → f.2.admits v = false

/-! ### Unfit fields -/

/-- An unfit field counts as zero. -/
theorem IsUnfit.counted_eq {payload : Json} {f : Field} (unfit : IsUnfit payload f) :
    counted payload f = f.2.zero := by
  have none : (payload.get? f.1).filter f.2.admits = none := by
    rw [Option.filter_eq_none_iff]
    intro v held
    rw [unfit v held]
    exact Bool.false_ne_true
  rw [counted, none]
  rfl

/-- A field that holds zero counts as zero. -/
theorem counted_of_zero {payload : Json} {f : Field} (zero : payload.get? f.1 = some f.2.zero) :
    counted payload f = f.2.zero := by
  have admitted : f.2.admits f.2.zero = true := by cases f.2 <;> rfl
  rw [counted, zero, Option.filter_some, if_pos admitted]
  rfl

theorem IsUnfit.text_eq {payload : Json} {key : String} (unfit : IsUnfit payload (key, .text)) :
    text payload key = "" := by
  have counted := unfit.counted_eq
  rw [counted_text] at counted
  exact Json.text.inj counted

theorem IsUnfit.integer_eq {payload : Json} {key : String}
    (unfit : IsUnfit payload (key, .integer)) : integer payload key = 0 := by
  rw [Payload.integer_eq, unfit.counted_eq]
  rfl

theorem IsUnfit.flag_eq {payload : Json} {key : String}
    (unfit : IsUnfit payload (key, .integer)) : flag payload key = false := by
  rw [flag, unfit.integer_eq]
  rfl

/-! ### Payloads with like fields -/

/-- That some fields count as the same in two payloads.  They need not hold the same: one of them
may be missing where the other holds zero. -/
def Alike (payload other : Json) (fields : List Field) : Prop :=
  ∀ f ∈ fields, counted payload f = counted other f

namespace Alike

variable {payload other : Json} {fields : List Field}

theorem mono {fewer : List Field} (alike : Alike payload other fields) (among : fewer ⊆ fields) :
    Alike payload other fewer :=
  fun f mem => alike f (among mem)

theorem text (alike : Alike payload other fields) (key : String)
    (mem : (key, .text) ∈ fields) :
    Payload.text payload key = Payload.text other key := by
  have same := alike _ mem
  rw [counted_text, counted_text, Json.text.injEq] at same
  exact same

theorem integer (alike : Alike payload other fields) (key : String)
    (mem : (key, .integer) ∈ fields) :
    Payload.integer payload key = Payload.integer other key := by
  rw [integer_eq, integer_eq, alike _ mem]

theorem flag (alike : Alike payload other fields) (key : String)
    (mem : (key, .integer) ∈ fields) :
    Payload.flag payload key = Payload.flag other key := by
  unfold Payload.flag
  rw [alike.integer key mem]

end Alike

end Payload

/-! ## What the type decides -/

namespace Notification

open Payload

/-- Text fields. -/
def texts (keys : List String) : List Field := keys.map (·, .text)

/-- The fields of a commit. -/
def commitFields : List Field :=
  texts ["repo_id", "repo_name", "commit_id", "parent_commit_id", "commit_desc"]

/-- The fields that count besides the type. -/
def schema (kind : String) : List Field :=
  if kind ∈ ["cross-repo-move.start", "cross-repo-move.done", "cross-repo-move.error"] then
    texts ["srcpath", "dstpath"]
  else if MoveStage.family.toList <+: kind.toList then []
  else if kind = "del_confirmation" then texts ["confirmation_id", "repo_name", "delete_files"]
  else if kind = "del_repo_confirmation" then texts ["confirmation_id", "repo_name"]
  else if kind ∈ ["action.get_share_link", "action.get_internal_link", "action.get_upload_link",
      "action.view_file_history"] then
    texts ["repo_id", "repo_path", "domain_id"] ++ [("is_dir", .integer)]
  else if kind = "sync.error" then commitFields ++ [("err_id", .integer), ("path", .text)]
  else commitFields

theorem schema_move (stage : MoveStage) : schema stage.kind = texts ["srcpath", "dstpath"] := by
  cases stage <;> rfl

theorem schema_action (a : Action) :
    schema a.kind = texts ["repo_id", "repo_path", "domain_id"] ++ [("is_dir", .integer)] := by
  cases a <;> rfl

/-- An unknown type that is not that of a move has the fields of a commit. -/
theorem schema_unknown {kind : String} (other : kind ∉ knownKinds)
    (noMove : ¬MoveStage.family.toList <+: kind.toList) : schema kind = commitFields := by
  have differs : ∀ k ∈ knownKinds, kind ≠ k := fun k known same => other (same ▸ known)
  have outside : ∀ {ks : List String}, ks ⊆ knownKinds → kind ∉ ks := fun among mem =>
    other (among mem)
  rw [schema, if_neg (outside (by decide)), if_neg noMove, if_neg (differs _ (by decide)),
    if_neg (differs _ (by decide)), if_neg (outside (by decide)), if_neg (differs _ (by decide))]

/-! ## What a payload reads as -/

theorem commitOf_alike {payload other : Json} (alike : Alike payload other commitFields) :
    commitOf payload = commitOf other := by
  simp only [commitOf, alike.text "repo_id" (by decide), alike.text "repo_name" (by decide),
    alike.text "commit_id" (by decide), alike.text "parent_commit_id" (by decide),
    alike.text "commit_desc" (by decide)]

namespace Reads

variable {payload other : Json} {n : Notification}

/-- A payload of the same type in which the fields of that type count as the same reads as the same
notification. -/
theorem of_alike (reads : Reads payload n)
    (type : Payload.text payload "type" = Payload.text other "type")
    (alike : Alike payload other (schema (Payload.text payload "type"))) : Reads other n := by
  -- The schema is that of the type, which is known in each case but the last two.
  cases reads with
  | syncDone kind | multipartUpload kind | filesystemLoaded kind =>
    have commit := commitOf_alike (alike.mono (by rw [kind]; decide))
    rw [commit]
    constructor
    rw [← type, kind]
  | syncError kind =>
    rw [kind] at alike
    have commit := commitOf_alike (alike.mono (by decide))
    have errorId := alike.integer "err_id" (by decide)
    have path := alike.text "path" (by decide)
    rw [commit, errorId, path]
    exact .syncError (type ▸ kind)
  | move stage kind =>
    rw [kind, schema_move] at alike
    rw [alike.text "srcpath" (by decide), alike.text "dstpath" (by decide)]
    exact .move stage (type ▸ kind)
  | deleteFiles kind =>
    rw [kind] at alike
    rw [alike.text "confirmation_id" (by decide),
      alike.text "repo_name" (by decide), alike.text "delete_files" (by decide)]
    exact .deleteFiles (type ▸ kind)
  | deleteRepo kind =>
    rw [kind] at alike
    rw [alike.text "confirmation_id" (by decide),
      alike.text "repo_name" (by decide)]
    exact .deleteRepo (type ▸ kind)
  | action a kind =>
    rw [kind, schema_action] at alike
    rw [alike.text "repo_id" (by decide), alike.text "repo_path" (by decide),
      alike.text "domain_id" (by decide), alike.flag "is_dir" (by decide)]
    exact .action a (type ▸ kind)
  | unknownStage unknown move =>
    rw [type] at unknown move ⊢
    exact .unknownStage unknown move
  | unknown unknown noMove =>
    rw [schema_unknown unknown noMove] at alike
    rw [commitOf_alike alike]
    rw [type] at unknown noMove ⊢
    exact .unknown unknown noMove

end Reads

/-- **Only the fields of its type count.**  Payloads in which the type and the fields of that type
count as the same read as the same notification. -/
theorem ofPayload_alike {payload other : Json}
    (alike : Alike payload other (("type", .text) :: schema (Payload.text payload "type"))) :
    ofPayload other = ofPayload payload := by
  have type := alike.text "type" List.mem_cons_self
  have fields := alike.mono (List.subset_cons_self _ _)
  exact ((reads_ofPayload payload).of_alike type fields).eq

end Notification

/-! ## Decoding -/

/-- **A notification is decoded by its type.**  It keeps the type of the payload, the empty text
when there is none.  It is unknown exactly when the type is none of the thirteen known ones, and is
the variant of the type otherwise, with each field read under its own key (`Notification.Reads`).
It is the same for every payload that has the type and the fields of that type in common, whatever
else the payloads hold.  A field that holds a text is read as that text; one that holds a number is
read as that number, cut toward zero and moved into the range of 64 signed bits, and one that holds
a truth value as 0 or 1.  A field that is missing, or that holds something of another type, is read
as the empty text, as zero or as false, and leaves the other fields as they are: a payload that
holds zero there reads as the same notification. -/
theorem decoded_by_type (payload : Json) :
    let kind := Payload.text payload "type"
    let n := Notification.ofPayload payload
    n.kind = kind ∧
    ((∃ k c, n = .unknown k c) ↔ kind ∉ Notification.knownKinds) ∧
    n.variant = (Notification.variants.lookup kind).getD .unknown ∧
    Notification.Reads payload n ∧
    (∀ other : Json,
      (∀ key ∈ "type" :: (Notification.schema kind).map (·.1),
        other.get? key = payload.get? key) →
      Notification.ofPayload other = n) ∧
    (∀ key,
      (∀ s, payload.get? key = some (.text s) → Payload.text payload key = s) ∧
      (∀ x, payload.get? key = some (.number x) →
        Payload.integer payload key = max Json.minInt64 (min Json.maxInt64 x.truncate) ∧
          (Payload.flag payload key = true ↔ x.truncate ≠ 0)) ∧
      (∀ b, payload.get? key = some (.bool b) →
        Payload.integer payload key = (if b then 1 else 0) ∧ Payload.flag payload key = b) ∧
      (Payload.IsUnfit payload (key, .text) → Payload.text payload key = "") ∧
      (Payload.IsUnfit payload (key, .integer) →
        Payload.integer payload key = 0 ∧ Payload.flag payload key = false)) ∧
    ∀ other : Json,
      (∀ f ∈ ("type", .text) :: Notification.schema kind,
        other.get? f.1 = payload.get? f.1 ∨
          Payload.IsUnfit payload f ∧ other.get? f.1 = some f.2.zero) →
      Notification.ofPayload other = n := by
  intro kind n
  have reads := Notification.reads_ofPayload payload
  have type : n.kind = kind := reads.kind_eq
  refine ⟨type, ?_, reads.variant_eq, reads, ?_, ?_, ?_⟩
  · rw [reads.unknown_iff]
    constructor
    · rintro ⟨k, c, unknown⟩
      rw [unknown] at type
      exact ⟨c, unknown.trans (congrArg (Notification.unknown · c) type)⟩
    · rintro ⟨c, unknown⟩
      exact ⟨kind, c, unknown⟩
  · intro other same
    refine Notification.ofPayload_alike fun f mem => ?_
    have here := same f.1 (List.mem_map_of_mem (f := (·.1)) mem)
    exact Payload.counted_congr here
  · intro key
    exact ⟨fun s => Payload.text_of_text,
      fun x found => ⟨Payload.integer_of_number found, Payload.flag_of_number found⟩,
      fun b found => ⟨Payload.integer_of_bool found, Payload.flag_of_bool found⟩,
      Payload.IsUnfit.text_eq, fun unfit => ⟨unfit.integer_eq, unfit.flag_eq⟩⟩
  · intro other same
    refine Notification.ofPayload_alike fun f mem => ?_
    rcases same f mem with here | ⟨unfit, zero⟩
    · exact Payload.counted_congr here
    · rw [unfit.counted_eq, Payload.counted_of_zero zero]

/-- An id that is no text and a deletion's summary that is missing leave the library's name as it
is, and a key of another type's fields does not count. -/
example :
    Notification.ofPayload (.object
      [("confirmation_id", .ofInt 7), ("path", .text "/a"), ("repo_name", .text "Docs"),
       ("type", .text "del_confirmation")]) = .deleteFiles "" "Docs" "" := by
  decide

end DaemonWatch
