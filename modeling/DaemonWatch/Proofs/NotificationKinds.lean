/-
  What its type makes of a notification's payload.

  1. **Specification** (`Notification.Reads`): thirteen types are known.  A payload of a known type
     reads as the notification of that type, with the fields of that type, whatever else the payload
     holds; a payload of any other type reads as unknown and keeps its type.  The types of moves are
     read in two steps, the family and then the stage, so a type that begins like a move and names
     no stage is unknown in its own way.

  2. **The crux (`Notification.reads_ofPayload`)**: every payload is decoded to what it reads as.
     The decoder asks one question after the other; the lemmas before it say where each answer leads
     (`reads_moveOf`, `reads_aboutCommit`).  Conversely a payload reads as nothing else
     (`Reads.eq`), so `Reads` is the decoder, written as a table.

  3. **Variants** (`Notification.variants`) are that table without the fields.  A payload reads as a
     known variant exactly when the table lists its type with it (`Reads.variant_eq_iff`).

  4. **Bridge to events** (`Event.variant?_of_decode`): a decoded event is a notification of a known
     variant exactly when its payload answers the query for notifications and has a type of that
     variant.  Which payloads put a question to the user and which report loaded libraries is looked
     up here, without taking cases again.
-/
import DaemonWatch.Event
import Mathlib.Data.List.Basic

namespace DaemonWatch

/-! ## Stages of a move -/

namespace MoveStage

/-- The type of a stage, as it is written. -/
theorem toList_kind (stage : MoveStage) :
    stage.kind.toList = family.toList ++
      match stage with
      | start => "start".toList
      | done => "done".toList
      | failed => "error".toList := by
  cases stage <;> decide

/-- What names a stage behind the family name makes up the type of the stage, and
nothing else does. -/
theorem ofText?_eq_some_iff {rest : List Char} {stage : MoveStage} :
    ofText? rest = some stage ↔ family.toList ++ rest = stage.kind.toList := by
  rw [toList_kind, List.append_cancel_left_eq]
  constructor
  · intro named
    unfold ofText? at named
    split at named
    next same => cases named; exact same
    next =>
      split at named
      next same => cases named; exact same
      next =>
        split at named
        next same => cases named; exact same
        next => cases named
  · rintro rfl
    cases stage <;> decide

end MoveStage

/-! ## Known types -/

/-- The variants of notifications. -/
inductive Notification.Variant
  | syncDone
  | syncError
  | multipartUpload
  | filesystemLoaded
  | move (stage : MoveStage)
  | deleteFiles
  | deleteRepo
  | action (a : Action)
  | unknown
  deriving Repr, DecidableEq

namespace Notification

/-- The variant of a notification. -/
def variant : Notification → Variant
  | syncDone _ => .syncDone
  | syncError .. => .syncError
  | multipartUpload _ => .multipartUpload
  | filesystemLoaded _ => .filesystemLoaded
  | move stage _ _ => .move stage
  | deleteFiles .. => .deleteFiles
  | deleteRepo .. => .deleteRepo
  | action request => .action request.action
  | unknown .. => .unknown

/-- The known types with their variants. -/
def variants : List (String × Variant) :=
  [("sync.done", .syncDone), ("sync.error", .syncError),
   ("sync.multipart_upload", .multipartUpload), ("fs-loaded", .filesystemLoaded),
   ("cross-repo-move.start", .move .start), ("cross-repo-move.done", .move .done),
   ("cross-repo-move.error", .move .failed), ("del_confirmation", .deleteFiles),
   ("del_repo_confirmation", .deleteRepo), ("action.get_share_link", .action .shareLink),
   ("action.get_internal_link", .action .internalLink),
   ("action.get_upload_link", .action .uploadLink),
   ("action.view_file_history", .action .fileHistory)]

/-- The types that are known. -/
def knownKinds : List String :=
  ["sync.done", "sync.error", "sync.multipart_upload", "fs-loaded", "cross-repo-move.start",
   "cross-repo-move.done", "cross-repo-move.error", "del_confirmation", "del_repo_confirmation",
   "action.get_share_link", "action.get_internal_link", "action.get_upload_link",
   "action.view_file_history"]

/-- A type is known when it is that of a move, of an action, or one of six others. -/
theorem mem_knownKinds_iff {kind : String} :
    kind ∈ knownKinds ↔
      (∃ stage : MoveStage, kind = stage.kind) ∨ (∃ a : Action, kind = a.kind) ∨
        kind ∈ ["sync.done", "sync.error", "sync.multipart_upload", "fs-loaded", "del_confirmation",
          "del_repo_confirmation"] := by
  constructor
  · intro known
    simp only [knownKinds, List.mem_cons, List.not_mem_nil, or_false] at known
    rcases known with rfl | rfl | rfl | rfl | rfl | rfl | rfl | rfl | rfl | rfl | rfl | rfl | rfl
    · simp
    · simp
    · simp
    · simp
    · exact .inl ⟨.start, rfl⟩
    · exact .inl ⟨.done, rfl⟩
    · exact .inl ⟨.failed, rfl⟩
    · simp
    · simp
    · exact .inr (.inl ⟨.shareLink, rfl⟩)
    · exact .inr (.inl ⟨.internalLink, rfl⟩)
    · exact .inr (.inl ⟨.uploadLink, rfl⟩)
    · exact .inr (.inl ⟨.fileHistory, rfl⟩)
  · rintro (⟨stage, rfl⟩ | ⟨a, rfl⟩ | other)
    · cases stage <;> simp [knownKinds, MoveStage.kind]
    · cases a <;> simp [knownKinds, Action.kind]
    · exact List.Sublist.subset (by decide) other

/-- That a payload reads as a notification: one case for each type, and two for the types that are
not known.  No case looks at the order in which the decoder asks its questions, or at members that
the notification does not have. -/
inductive Reads (payload : Json) : Notification → Prop
  | syncDone (kind : Payload.text payload "type" = "sync.done") :
      Reads payload (.syncDone (commitOf payload))
  | syncError (kind : Payload.text payload "type" = "sync.error") :
      Reads payload
        (.syncError (commitOf payload) (Payload.integer payload "err_id")
          (Payload.text payload "path")
          (ErrorCode.describe (Payload.integer payload "err_id") (Payload.text payload "path")))
  | multipartUpload (kind : Payload.text payload "type" = "sync.multipart_upload") :
      Reads payload (.multipartUpload (commitOf payload))
  | filesystemLoaded (kind : Payload.text payload "type" = "fs-loaded") :
      Reads payload (.filesystemLoaded (commitOf payload))
  | move (stage : MoveStage) (kind : Payload.text payload "type" = stage.kind) :
      Reads payload
        (.move stage (Payload.text payload "srcpath") (Payload.text payload "dstpath"))
  | deleteFiles (kind : Payload.text payload "type" = "del_confirmation") :
      Reads payload
        (.deleteFiles (Payload.text payload "confirmation_id") (Payload.text payload "repo_name")
          (Payload.text payload "delete_files"))
  | deleteRepo (kind : Payload.text payload "type" = "del_repo_confirmation") :
      Reads payload
        (.deleteRepo (Payload.text payload "confirmation_id") (Payload.text payload "repo_name"))
  | action (a : Action) (kind : Payload.text payload "type" = a.kind) :
      Reads payload
        (.action
          { action := a
            repoId := Payload.text payload "repo_id"
            path := Payload.text payload "repo_path"
            domainId := Payload.text payload "domain_id"
            isDir := Payload.flag payload "is_dir" })
  | unknownStage (other : Payload.text payload "type" ∉ knownKinds)
      (move : MoveStage.family.toList <+: (Payload.text payload "type").toList) :
      Reads payload (.unknown (Payload.text payload "type") {})
  | unknown (other : Payload.text payload "type" ∉ knownKinds)
      (noMove : ¬MoveStage.family.toList <+: (Payload.text payload "type").toList) :
      Reads payload (.unknown (Payload.text payload "type") (commitOf payload))

/-- What begins like a move is none of the other known types. -/
theorem not_known_of_move {kind : String} (move : MoveStage.family.toList <+: kind.toList) :
    (∀ a : Action, kind ≠ a.kind) ∧
      kind ∉ ["sync.done", "sync.error", "sync.multipart_upload", "fs-loaded", "del_confirmation",
        "del_repo_confirmation"] := by
  constructor
  · rintro a rfl
    cases a <;> revert move <;> decide
  · intro known
    simp only [List.mem_cons, List.not_mem_nil, or_false] at known
    rcases known with rfl | rfl | rfl | rfl | rfl | rfl <;> revert move <;> decide

/-- A payload whose type begins like a move reads as the move of its stage, if there is such one. -/
theorem reads_moveOf {payload : Json} {rest : List Char}
    (move : MoveStage.family.toList ++ rest = (Payload.text payload "type").toList) :
    Reads payload (moveOf (Payload.text payload "type") rest payload) := by
  unfold moveOf
  split
  next stage named =>
    rw [MoveStage.ofText?_eq_some_iff, move, String.toList_inj] at named
    exact .move stage named
  next none =>
    have begins : MoveStage.family.toList <+: (Payload.text payload "type").toList := ⟨rest, move⟩
    obtain ⟨noAction, noOther⟩ := not_known_of_move begins
    refine .unknownStage ?_ begins
    rw [mem_knownKinds_iff]
    rintro (⟨stage, kind⟩ | ⟨a, kind⟩ | other)
    · rw [kind, ← MoveStage.ofText?_eq_some_iff, none] at move
      cases move
    · exact noAction a kind
    · exact noOther other

/-- A payload whose type is none of a move, a deletion or an action reads as one about a commit.
When its type is none of the four that are left it is not known, for all thirteen have been asked
for by then. -/
theorem reads_aboutCommit {payload : Json}
    (noMove : ¬MoveStage.family.toList <+: (Payload.text payload "type").toList)
    (noFiles : Payload.text payload "type" ≠ "del_confirmation")
    (noRepo : Payload.text payload "type" ≠ "del_repo_confirmation")
    (noAction : ∀ a : Action, Payload.text payload "type" ≠ a.kind) :
    Reads payload (aboutCommit (Payload.text payload "type") payload) := by
  simp only [aboutCommit]
  split
  next error => exact .syncError (of_decide_eq_true error)
  next noError =>
    split
    next kind => exact .syncDone kind
    next noSync =>
      split
      next kind => exact .multipartUpload kind
      next noUpload =>
        split
        next kind => exact .filesystemLoaded kind
        next noLoad =>
          refine .unknown ?_ noMove
          rw [mem_knownKinds_iff]
          rintro (⟨stage, kind⟩ | ⟨a, kind⟩ | other)
          · exact noMove (by rw [kind, MoveStage.toList_kind]; exact List.prefix_append _ _)
          · exact noAction a kind
          · simp_all [isSyncErrorKind]

/-- **Every payload reads as a notification**, by its type, and that is the one it is decoded to.
The cases are split as the decoder splits them: a move, a deletion, an action, or
about a commit. -/
theorem reads_ofPayload (payload : Json) : Reads payload (ofPayload payload) := by
  simp only [ofPayload]
  split
  next rest move => exact reads_moveOf (List.isPrefixOf?_eq_some_iff_append_eq.mp move)
  next noMove =>
    split
    next kind => exact .deleteFiles kind
    next noFiles =>
      split
      next kind => exact .deleteRepo kind
      next noRepo =>
        split
        next a asked =>
          have kind := List.find?_some asked
          exact .action a (of_decide_eq_true kind).symm
        next noAction =>
          refine reads_aboutCommit ?_ noFiles noRepo ?_
          · rintro ⟨rest, move⟩
            rw [List.isPrefixOf?_eq_some_iff_append_eq.mpr move] at noMove
            cases noMove
          · intro a kind
            rw [kind] at noAction
            cases a <;> cases noAction

namespace Reads

variable {payload : Json} {n : Notification}

/-- A payload reads as unknown exactly when its type is not known, and then keeps the type. -/
theorem unknown_iff (reads : Reads payload n) :
    Payload.text payload "type" ∉ knownKinds ↔
      ∃ c, n = .unknown (Payload.text payload "type") c := by
  cases reads with
  | unknownStage other | unknown other => simp [other]
  | move stage kind => cases stage <;> simp [kind, MoveStage.kind, knownKinds]
  | action a kind => cases a <;> simp [kind, Action.kind, knownKinds]
  | _ kind => simp [kind, knownKinds]

/-- A payload reads as nothing but what it is decoded to.  Where the type is known decoding is
computed from it.  Where it is not, what the payload is decoded to is unknown too, and whether the
type begins like a move tells the two cases apart. -/
theorem eq (reads : Reads payload n) : ofPayload payload = n := by
  cases reads with
  | move stage kind =>
    simp only [ofPayload, kind]
    cases stage <;> rfl
  | action a kind =>
    simp only [ofPayload, kind]
    cases a <;> rfl
  | unknownStage unknown move =>
    obtain ⟨c, same⟩ := (reads_ofPayload payload).unknown_iff.mp unknown
    have decoded := reads_ofPayload payload
    rw [same] at decoded ⊢
    cases decoded with
    | unknownStage => rfl
    | unknown _ noMove => exact absurd move noMove
  | unknown unknown noMove =>
    obtain ⟨c, same⟩ := (reads_ofPayload payload).unknown_iff.mp unknown
    have decoded := reads_ofPayload payload
    rw [same] at decoded ⊢
    cases decoded with
    | unknownStage _ move => exact absurd move noMove
    | unknown => rfl
  | _ kind =>
    simp only [ofPayload, kind]
    rfl

/-- A notification keeps the type of its payload. -/
theorem kind_eq (reads : Reads payload n) : n.kind = Payload.text payload "type" := by
  cases reads with
  | move stage kind | action a kind => exact kind.symm
  | unknownStage | unknown => rfl
  | _ kind => exact kind.symm

/-- A payload reads as the variant of its type. -/
theorem variant_eq (reads : Reads payload n) :
    n.variant = (variants.lookup (Payload.text payload "type")).getD .unknown := by
  cases reads with
  | move stage kind =>
    rw [kind]
    cases stage <;> rfl
  | action a kind =>
    rw [kind]
    cases a <;> rfl
  | unknownStage unknown | unknown unknown =>
    have keys : variants.map (·.1) = knownKinds := rfl
    have none : variants.lookup (Payload.text payload "type") = none := by
      rw [List.lookup_eq_none_iff]
      intro entry mem
      have known := List.mem_map_of_mem (f := (·.1)) mem
      rw [keys] at known
      exact bne_iff_ne.mpr fun same => unknown (same ▸ known)
    rw [none]
    rfl
  | _ kind =>
    rw [kind]
    rfl

/-- A payload reads as a known variant exactly when its type is listed with that variant. -/
theorem variant_eq_iff (reads : Reads payload n) {v : Variant} (known : v ≠ .unknown) :
    n.variant = v ↔ (Payload.text payload "type", v) ∈ variants := by
  rw [reads.variant_eq]
  constructor
  · intro same
    cases listed : variants.lookup (Payload.text payload "type") with
    | none =>
      rw [listed] at same
      exact absurd same.symm known
    | some w =>
      rw [listed] at same
      cases same
      obtain ⟨before, after, whole, -⟩ := List.lookup_eq_some_iff.mp listed
      rw [whole]
      exact List.mem_append_right _ List.mem_cons_self
  · intro listed
    have once : ∀ entry ∈ variants, variants.lookup entry.1 = some entry.2 := by decide
    rw [once _ listed]
    rfl

end Reads

end Notification

/-! ## Decoded events -/

namespace Event

/-- The variant of an event, if it is a notification. -/
def variant? : Event → Option Notification.Variant
  | notification n => some n.variant
  | _ => none

variable {now : Int} {q : Query} {payload : Json} {notices : List Notice}

/-- A notification that is decoded is what its payload reads as, and the payload answers the query
for notifications. -/
theorem notification_of_decode {n : Notification}
    (decoded : decode now q payload = (notices, .ok (.notification n))) :
    q = .notification ∧ n = Notification.ofPayload payload := by
  unfold decode at decoded
  split at decoded
  · cases decoded
  · cases q <;> cases decoded
    exact ⟨rfl, rfl⟩

/-- **An event is a notification of a known variant** exactly when its payload answers the query for
notifications and has a type of that variant. -/
theorem variant?_of_decode {e : Event} (decoded : decode now q payload = (notices, .ok e))
    {v : Notification.Variant} (known : v ≠ .unknown) :
    e.variant? = some v ↔
      q = .notification ∧ (Payload.text payload "type", v) ∈ Notification.variants := by
  rw [← (Notification.reads_ofPayload payload).variant_eq_iff known]
  cases e with
  | notification n =>
    obtain ⟨rfl, rfl⟩ := notification_of_decode decoded
    rw [variant?, Option.some.injEq]
    exact (and_iff_right rfl).symm
  | drive | status | errors =>
    refine iff_of_false (fun same => by cases same) ?_
    rintro ⟨rfl, -⟩
    unfold decode at decoded
    split at decoded <;> cases decoded

end Event

end DaemonWatch
