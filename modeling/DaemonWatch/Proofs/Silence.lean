/-
  When nothing is done upon a notification or a drive event.

  That nothing is done has few reasons, and each of them can be read off the payload, the settings,
  the accounts and whether there are link commands.  For every other payload something is done.

  1. **On the terms** (`Notification.IsSilent`): case by case, what keeps a notification silent.
     Upon a notification nothing is done exactly in these cases (`Notification.deeds_eq_nil_iff`).

  2. **Bridge to the payload** (`Notification.Reads.isSilent_iff`).  The case that a payload reads
     as is decided by its type, so the reasons are said of the type and of two more fields: the code
     of a sync error, and the domain id of a request.

  3. **Drive events** are shown exactly when their type is known (`DriveEvent.shown_eq_nil_iff`,
     `DriveEvent.isUnknown_iff`).

  4. **The log.**  An unknown type is logged, once.  That nothing else is logged as an unknown
     message needs some care, as the channel and the link commands log what they like: whatever has
     these words comes from an unknown notification or from them (`Notification.unknown_of_logged`).
     `silent_iff` puts all of this together.
-/
import DaemonWatch.Proofs.Handling
import DaemonWatch.Proofs.NotificationKinds

namespace DaemonWatch

variable {σ : Type}

/-! ## Effects and signals -/

/-- Nothing is done when there is neither an effect nor a signal. -/
theorem Output.deeds_eq_nil_iff {outputs : List Output} :
    deeds outputs = [] ↔ effects outputs = [] ∧ signalCount outputs = 0 := by
  induction outputs with
  | nil => simp [effects, signalCount]
  | cons o outputs ih => cases o <;> simp_all [deeds, effects, signalCount, isDeed, effect?]

/-! ## Notifications -/

/-- That on some terms nothing is done upon a notification. -/
def Notification.IsSilent (t : Terms) : Notification → Prop
  | syncDone _ | multipartUpload _ => t.preferences.announceSyncs = false
  | syncError _ errorId _ _ => errorId = 25 ∧ t.preferences.hideWindowsPaths = true
  | action request => t.accountFor? request = none
  | unknown .. => True
  | filesystemLoaded _ | move .. | deleteFiles .. | deleteRepo .. => False

/-- Nothing is done upon a silent notification, and something upon every other. -/
theorem Notification.deeds_eq_nil_iff (t : Terms) (n : Notification) :
    (Event.notification n).deeds t = [] ↔ n.IsSilent t := by
  cases n with
  | syncDone c | multipartUpload c =>
    simp only [Event.deeds, Event.react, react, IsSilent]
    cases t.preferences.announceSyncs <;> simp [Reaction.message]
  | syncError c errorId path description =>
    simp only [Event.deeds_syncError, IsSilent]
    split <;> simp_all
  | action request =>
    simp [Event.deeds, Event.react, react, IsSilent, FollowUp.deeds]
  | unknown kind c => simp [Event.deeds, Event.react, react, IsSilent, Output.deeds, Output.isDeed]
  | filesystemLoaded c | move stage source destination | deleteFiles id repoName summary
  | deleteRepo id repoName =>
    simp [Event.deeds, Event.react, react, IsSilent, FollowUp.deeds, Reaction.ask, Reaction.message]

/-- A request may use no account when there are no link commands, or when no valid
account is found. -/
theorem Terms.accountFor?_eq_none_iff (t : Terms) (request : ActionRequest) :
    t.accountFor? request = none ↔
      t.hasLinks = false ∨
        ∀ account, t.book.find? request.domainId = some account → account.isValid = false := by
  unfold accountFor?
  split
  next links => simp [links, Option.filter_eq_none_iff]
  next noLinks => simp [noLinks]

/-- A payload's notification is silent when its type is not known, or a setting or the lack of link
commands or of a valid account keeps it so. -/
theorem Notification.Reads.isSilent_iff {payload : Json} {n : Notification}
    (reads : Reads payload n) (t : Terms) :
    n.IsSilent t ↔
      let kind := Payload.text payload "type"
      kind ∉ knownKinds ∨
      kind ∈ ["sync.done", "sync.multipart_upload"] ∧ t.preferences.announceSyncs = false ∨
      kind = "sync.error" ∧ Payload.integer payload "err_id" = 25 ∧
        t.preferences.hideWindowsPaths = true ∨
      kind ∈ ["action.get_share_link", "action.get_internal_link", "action.get_upload_link",
          "action.view_file_history"] ∧
        (t.hasLinks = false ∨ ∀ account,
          t.book.find? (Payload.text payload "domain_id") = some account →
            account.isValid = false) := by
  cases reads with
  | syncDone kind | syncError kind | multipartUpload kind | filesystemLoaded kind | deleteFiles kind
  | deleteRepo kind =>
    simp [IsSilent, kind, knownKinds]
  | move stage kind => cases stage <;> simp [IsSilent, kind, knownKinds, MoveStage.kind]
  | action a kind =>
    have known : Payload.text payload "type" ∈ ["action.get_share_link", "action.get_internal_link",
        "action.get_upload_link", "action.view_file_history"] := by
      cases a <;> simp [kind, Action.kind]
    have others : Payload.text payload "type" ∉ ["sync.done", "sync.multipart_upload"] ∧
        Payload.text payload "type" ≠ "sync.error" ∧
        Payload.text payload "type" ∈ knownKinds := by
      cases a <;> simp [kind, Action.kind, knownKinds]
    simp only [IsSilent, Terms.accountFor?_eq_none_iff, known, others, not_true, false_and, true_and,
      false_or]
  | unknownStage other | unknown other => simp [IsSilent, other]

/-! ## Drive events -/

namespace DriveEvent

/-- The types of drive events that are known. -/
def knownKinds : List String :=
  ["file-download.start", "file-download.done", "fs_op_error.create_root_file",
   "fs_op_error.remove_repo"]

/-- An event is unknown when its type is. -/
theorem isUnknown_iff (e : DriveEvent) : e.isUnknown = true ↔ e.kind ∉ knownKinds := by
  have download : e.download? = none ↔ e.kind ∉ ["file-download.start", "file-download.done"] := by
    simp only [download?, DownloadStage.ofKind?]
    split
    next => simp_all
    next => split <;> simp_all
  have refusal : e.refusal? = none ↔
      e.kind ∉ ["fs_op_error.create_root_file", "fs_op_error.remove_repo"] := by
    simp only [refusal?, Refusal.ofKind?]
    split
    next => simp_all
    next => split <;> simp_all
  simp [isUnknown, download, refusal, knownKinds, and_assoc]

/-- Nothing is shown of an unknown event, and something of every other. -/
theorem shown_eq_nil_iff (e : DriveEvent) : e.shown = [] ↔ e.isUnknown = true := by
  simp only [shown, isUnknown]
  split <;> simp_all

end DriveEvent

/-! ## The log -/

variable [Channel σ]

/-- What others log while what is left to do is done: the channel with the report of the user's
answer, or the link command. -/
def FollowUp.foreign (now : Nat) (s : Station σ) : FollowUp → List Notice
  | askUser id _ _ =>
    let answered := s.takeAnswer
    (Channel.confirm id (!answered.1.value) (now + answered.1.delay) s.channel).1.notices
  | runLink request => (s.takeLinkOutcome request.action).1.notices

/-- What others log while an event is handled. -/
def Event.foreign (now : Nat) (s : Station σ) (e : Event) : List Notice :=
  match (e.react s.preferences).followUp with
  | none => []
  | some f => f.foreign now s

/-- That an unknown message came is logged by others, if at all, while what is left to do is done.
What the station itself logs then is that a report or a link command has failed. -/
theorem FollowUp.mem_foreign_of_unknown {now : Nat} {s : Station σ} {f : FollowUp} {n : Notice}
    (logged : n ∈ Output.notices (f.run now s).history.outputs)
    (unknown : n.entry.message = "Unknown message") : n ∈ f.foreign now s := by
  cases f with
  | askUser id text question =>
    rw [run_askUser] at logged
    simp only [History.outputs_append, History.outputs_stamped, Output.notices_append,
      Output.notices_notices, Output.notices_effect_cons, Errand.reportNotices, List.mem_append,
      Option.mem_toList, Option.map_eq_some_iff] at logged
    rcases logged with no | no | theirs | ⟨failure, _, rfl⟩
    · cases no
    · cases no
    · exact theirs
    · simp [Notice.entry] at unknown
  | runLink request =>
    cases found : s.terms.accountFor? request with
    | none =>
      rw [run_runLink, found] at logged
      cases logged
    | some account =>
      rw [run_runLink, found] at logged
      simp only [History.outputs_append, History.outputs_stamped, Output.notices_append,
        Output.notices_notices, Output.notices_effect_cons, Errand.linkNotices, List.mem_append,
        Option.mem_toList, Option.map_eq_some_iff] at logged
      rcases logged with no | theirs | ⟨failure, _, rfl⟩
      · cases no
      · exact theirs
      · simp [Notice.entry] at unknown

/-- That an unknown message came is logged upon an unknown notification, or else by others. -/
theorem Notification.unknown_of_logged {now : Nat} {s : Station σ} {m : Notification} {n : Notice}
    (logged : n ∈ Output.notices ((Event.notification m).handle now s).history.outputs)
    (unknown : n.entry.message = "Unknown message") :
    (∃ kind c, m = .unknown kind c) ∨ n ∈ (Event.notification m).foreign now s := by
  rw [Event.handle_eq] at logged
  cases m with
  | syncDone c | multipartUpload c =>
    simp only [Event.react, react] at logged
    cases on : s.preferences.announceSyncs <;> rw [on] at logged <;> cases logged
  | syncError c errorId path description =>
    simp only [Event.react, react] at logged
    generalize (decide (errorId = hideableCode) && s.preferences.hideWindowsPaths) = hidden at logged
    cases hidden <;> cases logged
  | filesystemLoaded c =>
    obtain rfl : n = .librariesLoaded := List.mem_singleton.mp logged
    simp [Notice.entry] at unknown
  | move stage source destination => cases logged
  | deleteFiles id repoName summary | deleteRepo id repoName | action request =>
    exact .inr (FollowUp.mem_foreign_of_unknown logged unknown)
  | unknown kind c => exact .inl ⟨kind, c, rfl⟩

/-! ## No silent drop -/

/-- **Nothing is dropped silently, and nothing is done upon the unknown.**  Nothing at all is done
upon an object that is told as a notification exactly when its type is not known, when a setting
keeps it quiet, or when it asks for a link and there are no link commands or no valid account.  When
the type is not known that is logged, once and with the type, and nothing else is; otherwise it is
not, unless the channel or a link command logs such a thing itself.  Nothing is done upon an object
that is told as a drive event exactly when its type is not known, and exactly then that is
logged. -/
theorem silent_iff (members : List (String × Json)) (now : Nat) (s : Station σ) :
    let payload := Json.object members
    let kind := Payload.text payload "type"
    let told := Event.deliver .notification payload now s
    let raised := Event.deliver .events payload now s
    (told.history.effects = [] ∧ Output.signalCount told.history.outputs = 0 ↔
      kind ∉ Notification.knownKinds ∨
      kind ∈ ["sync.done", "sync.multipart_upload"] ∧ s.preferences.announceSyncs = false ∨
      kind = "sync.error" ∧ Payload.integer payload "err_id" = 25 ∧
        s.preferences.hideWindowsPaths = true ∨
      kind ∈ ["action.get_share_link", "action.get_internal_link", "action.get_upload_link",
          "action.view_file_history"] ∧
        (s.links = none ∨ ∀ account,
          s.book.find? (Payload.text payload "domain_id") = some account →
            account.isValid = false)) ∧
    (kind ∉ Notification.knownKinds →
      told.history.log = [⟨.warn, "Unknown message", [("kind", .text kind)]⟩]) ∧
    (∀ n ∈ Output.notices told.history.outputs, n.entry.message = "Unknown message" →
      kind ∉ Notification.knownKinds ∨
        n ∈ (Event.notification (.ofPayload payload)).foreign now s) ∧
    (raised.history.effects = [] ↔ kind ∉ DriveEvent.knownKinds) ∧
    raised.history.log =
      if kind ∈ DriveEvent.knownKinds then []
      else [⟨.warn, "Unknown type of drive event", [("kind", .text kind)]⟩] := by
  intro payload kind told raised
  have reads := Notification.reads_ofPayload payload
  have handled : told = (Event.notification (.ofPayload payload)).handle now s :=
    Event.deliver_notification members now s
  let e := DriveEvent.ofPayload payload
  have shown : raised.history.outputs = (Event.driveNotices e).map .notice ++ e.shown.map .effect :=
    Event.outputs_deliver_events members now s
  refine ⟨?_, ?_, ?_, ?_, ?_⟩
  · rw [History.effects, ← Output.deeds_eq_nil_iff, handled, Event.deeds_handle,
      Notification.deeds_eq_nil_iff, reads.isSilent_iff]
    simp only [Station.terms, Option.isSome_eq_false_iff, Option.isNone_iff_eq_none]
    rfl
  · intro other
    obtain ⟨c, unknown⟩ := reads.unknown_iff.mp other
    rw [handled, unknown]
    rfl
  · intro n logged unknown
    rw [handled] at logged
    rcases Notification.unknown_of_logged logged unknown with ⟨kind', c, same⟩ | theirs
    · rw [same] at reads
      cases reads with
      | unknownStage other | unknown other => exact .inl other
    · exact .inr theirs
  · rw [History.effects, shown, Output.effects_append, Output.effects_notices,
      Output.effects_effects, List.nil_append, e.shown_eq_nil_iff, e.isUnknown_iff]
    rfl
  · rw [History.log, shown, Output.notices_append, Output.notices_notices, Output.notices_effects,
      List.append_nil, Event.driveNotices]
    have same : e.kind = kind := rfl
    have unknown := e.isUnknown_iff
    by_cases known : kind ∈ DriveEvent.knownKinds <;> simp_all [Notice.entry]

end DaemonWatch
