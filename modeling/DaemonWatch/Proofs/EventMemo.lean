/-
  What the memo of drive events keeps.

  Drive events come to a station as payloads, polled or by themselves, or are handed to it as they
  are.  Each of them leaves its path in the memo, a download its type too, and nothing else is
  written there.

  1. **The memo after events in turn** (`Memo.afterAll`).  After any number of events its two fields
     tell of two of them: the path is that of the last one (`Memo.path_afterAll`), the type that of
     the last download (`Memo.kind_afterAll`).  Both are inductions from the end of the list.

  2. **The crux is who writes it.**  Layer by layer, the memo after some work is the memo before it
     after the drive events of that work: an event (`Event.memo_handle`), a payload that is
     delivered (`Event.memo_deliver`), a turn (`BegunTurn.memo_run`), an occasion
     (`Occasion.memo_run`).  Which events these are is known from the payloads that arrive and from
     nothing else (`DriveEvent.answering?`).

  3. **Stimuli** (`Stimulus`) are the occasions and the events that are handed over.  The memo is
     written by what is dispatched upon them, in its order (`Stimulus.memo_runAll`).

  4. **Nobody reads it.**  Stations that differ in the memo alone go in lockstep, with all outputs
     the same (`memo_isKept`).  `memo_of_last_events` puts this beside what the two fields tell.
-/
import DaemonWatch.Proofs.Lockstep
import Mathlib.Data.List.Induction

namespace DaemonWatch

variable {σ : Type}

/-! ## Drive events and the memo -/

namespace DriveEvent

/-- The drive event of a payload that answers a query, if it is one. -/
def answering? (q : Query) (payload : Json) : Option DriveEvent :=
  if q = .events ∧ payload.isObject = true then some (ofPayload payload) else none

/-- Whether the event is a download. -/
def isDownload (e : DriveEvent) : Bool :=
  e.kind = "file-download.start" || e.kind = "file-download.done"

theorem isSome_download? (e : DriveEvent) : e.download?.isSome = e.isDownload := by
  unfold download? DownloadStage.ofKind? isDownload
  split_ifs with start done
  · simp [start]
  · simp [done]
  · simp [start, done]

end DriveEvent

namespace Memo

/-- The memo after drive events, one after the other. -/
def afterAll (m : Memo) (es : List DriveEvent) : Memo := es.foldl (fun m e => e.remember m) m

theorem afterAll_append (m : Memo) (es es' : List DriveEvent) :
    m.afterAll (es ++ es') = (m.afterAll es).afterAll es' := List.foldl_append

/-- The path is that of the last event. -/
theorem path_afterAll (m : Memo) (es : List DriveEvent) :
    (m.afterAll es).path = (es.getLast?.map DriveEvent.path).getD m.path := by
  induction es using List.reverseRecOn with
  | nil => rfl
  | append_singleton es e =>
    rw [afterAll_append, List.getLast?_concat]
    rfl

/-- The type is that of the last download. -/
theorem kind_afterAll (m : Memo) (es : List DriveEvent) :
    (m.afterAll es).kind =
      ((es.filter DriveEvent.isDownload).getLast?.map DriveEvent.kind).getD m.kind := by
  -- From the last event to the first, since an event that is no download leaves the type to those
  -- before it.
  induction es using List.reverseRecOn with
  | nil => rfl
  | append_singleton es e ih =>
    have last : (m.afterAll (es ++ [e])).kind =
        if e.isDownload then e.kind else (m.afterAll es).kind := by
      rw [afterAll_append, ← DriveEvent.isSome_download?]
      rfl
    rw [last, List.filter_append]
    cases download : e.isDownload with
    | true => simp [download]
    | false => simpa [download] using ih

example :
    afterAll {} [⟨"file-download.done", "/Docs/a.pdf"⟩, ⟨"fs_op_error.remove_repo", "/Docs"⟩,
      ⟨"something.else", "/ignored"⟩] = ⟨"/ignored", "file-download.done"⟩ := by
  decide

end Memo

/-! ## Who writes the memo -/

/-- What is left to do after an event does not write the memo. -/
theorem FollowUp.memo_run [Channel σ] (f : FollowUp) (now : Nat) (s : Station σ) :
    (f.run now s).station.memo = s.memo := by
  cases f with
  | askUser id text question =>
    rw [run_askUser]
    show s.takeAnswer.2.memo = s.memo
    unfold Station.takeAnswer
    split <;> rfl
  | runLink request =>
    rw [run_runLink]
    split
    · rfl
    · show (s.takeLinkOutcome request.action).2.memo = s.memo
      unfold Station.takeLinkOutcome
      split <;> rfl

namespace Event

/-- The drive event, if the event is one. -/
def drive? : Event → Option DriveEvent
  | drive e => some e
  | _ => none

variable [Channel σ]

/-- Of all events only drive events are remembered. -/
theorem memo_handle (e : Event) (now : Nat) (s : Station σ) :
    (e.handle now s).station.memo = s.memo.afterAll e.drive?.toList := by
  have remembered : (s.remembering e).memo = s.memo.afterAll e.drive?.toList := by
    cases e with
    | drive | notification | status | errors => rfl
  rw [handle_eq, ← remembered]
  rcases (e.react s.preferences).followUp with _ | f
  · rfl
  · exact f.memo_run now (s.remembering e)

/-- The event of a payload is a drive event when the payload is an object that answers the query for
events. -/
theorem drive?_of_decode {now : Int} {q : Query} {payload : Json} {notices : List Notice}
    {e : Event} (decoded : decode now q payload = (notices, .ok e)) :
    e.drive? = DriveEvent.answering? q payload := by
  unfold decode at decoded
  split at decoded
  next => cases decoded
  next readable =>
    cases q with
    | events =>
      cases decoded
      have object : payload.isObject = true := by simpa using readable
      rw [DriveEvent.answering?, if_pos ⟨rfl, object⟩, drive?]
    | notification | status | errors =>
      cases decoded
      rfl

/-- A payload that is not decoded brings no drive event. -/
theorem answering?_of_undecodable {now : Int} {q : Query} {payload : Json} {notices : List Notice}
    {message : String} (decoded : decode now q payload = (notices, .error message)) :
    DriveEvent.answering? q payload = none := by
  unfold decode at decoded
  split at decoded
  next broken =>
    have other : ¬(q = .events ∧ payload.isObject = true) := by
      rintro ⟨-, object⟩
      simp [object] at broken
    exact if_neg other
  next => cases q <;> cases decoded

theorem memo_deliver (q : Query) (payload : Json) (now : Nat) (s : Station σ) :
    (deliver q payload now s).station.memo =
      s.memo.afterAll (DriveEvent.answering? q payload).toList := by
  unfold deliver
  rcases decoded : decode s.clock q payload with ⟨notices, message | e⟩
  · rw [answering?_of_undecodable decoded]
    rfl
  · rw [← drive?_of_decode decoded]
    exact e.memo_handle now s

end Event

/-- The drive event that arrives, if it is one. -/
def Arrival.drive? (a : Arrival σ) : Option DriveEvent := DriveEvent.answering? a.query a.payload

section Written

variable [Channel σ]

/-- A turn writes the memo when a drive event arrives in it. -/
theorem BegunTurn.memo_run (t : BegunTurn σ) :
    t.run.station.memo = t.station.memo.afterAll (t.arrival?.bind Arrival.drive?).toList := by
  rcases arrived : t.arrival? with _ | a
  · exact congrArg (fun s : Station Unit => s.memo) (run_of_no_arrival arrived).2
  · obtain ⟨-, -, -, -, -, alone, station⟩ := run_of_arrival arrived
    have before : a.station.memo = t.station.memo :=
      congrArg (fun s : Station Unit => s.memo) alone
    rw [station, ← before]
    exact Event.memo_deliver a.query a.payload a.start a.station

/-- A turn leaves the memo alone unless it asks for events of a daemon that counts as connected and
is told of an object. -/
theorem BegunTurn.memo_run_of_no_event (t : BegunTurn σ)
    (other : t.query = .events → t.isConnected = true →
      ∀ payload, t.reply.result = .ok payload → payload.isObject = false) :
    t.run.station.memo = t.station.memo := by
  have quiet : t.arrival?.bind Arrival.drive? = none := by
    rw [Option.bind_eq_none_iff]
    intro a arrived
    simp only [BegunTurn.arrival?, Option.map_eq_some_iff, Option.join_eq_some_iff,
      BegunTurn.heard, Option.ite_none_right_eq_some, Option.some.injEq] at arrived
    obtain ⟨payload, ⟨on, told⟩, rfl⟩ := arrived
    rcases came : t.reply.result with f | p
    · rw [came] at told
      cases told
    · rw [came] at told
      cases told
      refine if_neg ?_
      rintro ⟨events, object⟩
      rw [other events on payload came] at object
      cases object
  rw [t.memo_run, quiet]
  rfl

theorem Turn.memo_runAll (qs : List Query) (now : Nat) (s : Station σ) :
    (runAll qs now s).station.memo =
      s.memo.afterAll
        (((begunAll qs now s).filterMap BegunTurn.arrival?).filterMap Arrival.drive?) := by
  induction qs generalizing now s with
  | nil => rfl
  | cons q qs ih =>
    have first := BegunTurn.memo_run (⟨q, now, s⟩ : BegunTurn σ)
    rw [runAll, Run.andThen, ih]
    show (BegunTurn.run ⟨q, now, s⟩).station.memo.afterAll _ = _
    rw [first, ← Memo.afterAll_append, begunAll, List.filterMap_filterMap, List.filterMap_filterMap,
      List.filterMap_cons]
    cases (⟨q, now, s⟩ : BegunTurn σ).arrival?.bind Arrival.drive? <;> rfl

theorem Occasion.memo_run (o : Occasion) (now : Nat) (s : Station σ) :
    (o.run now s).station.memo = s.memo.afterAll ((o.arrivals now s).filterMap Arrival.drive?) := by
  rcases o with lull | _ | ⟨q, payload⟩
  · rfl
  · rw [run, Tick.run_eq_runAll]
    exact Turn.memo_runAll Query.all now s
  · have delivered := Event.memo_deliver q payload now s
    simp only [arrivals, List.filterMap_cons, List.filterMap_nil, Arrival.drive?]
    rw [run, delivered]
    cases DriveEvent.answering? q payload <;> rfl

end Written

/-! ## Stimuli -/

/-- What a station is stirred by: an occasion, or an event that is handed to it as it is. -/
inductive Stimulus
  | occasion (o : Occasion)
  | event (e : Event)

namespace Stimulus

variable [Channel σ]

/-- What a stimulus comes to. -/
def run (now : Nat) (s : Station σ) : Stimulus → Run σ
  | occasion o => o.run now s
  | event e => e.handle now s

/-- The drive events that are dispatched upon a stimulus. -/
def drives (now : Nat) (s : Station σ) : Stimulus → List DriveEvent
  | occasion o => (o.arrivals now s).filterMap Arrival.drive?
  | event e => e.drive?.toList

/-- What stimuli in turn come to. -/
def runAll : List Stimulus → Nat → Station σ → Run σ
  | [], now, s => ⟨[], s, now⟩
  | stimulus :: stimuli, now, s => (stimulus.run now s).andThen (runAll stimuli)

/-- The drive events that are dispatched upon stimuli in turn, in their order. -/
def allDrives : List Stimulus → Nat → Station σ → List DriveEvent
  | [], _, _ => []
  | stimulus :: stimuli, now, s =>
    let first := stimulus.run now s
    stimulus.drives now s ++ allDrives stimuli first.time first.station

theorem memo_run (stimulus : Stimulus) (now : Nat) (s : Station σ) :
    (stimulus.run now s).station.memo = s.memo.afterAll (stimulus.drives now s) := by
  cases stimulus with
  | occasion o => exact o.memo_run now s
  | event e => exact e.memo_handle now s

/-- The memo is written by what is dispatched, in its order. -/
theorem memo_runAll (stimuli : List Stimulus) (now : Nat) (s : Station σ) :
    (runAll stimuli now s).station.memo = s.memo.afterAll (allDrives stimuli now s) := by
  induction stimuli generalizing now s with
  | nil => rfl
  | cons stimulus stimuli ih =>
    rw [runAll, Run.andThen, allDrives, Memo.afterAll_append, ← stimulus.memo_run now s]
    exact ih _ _

end Stimulus

/-! ## Who reads the memo -/

/-- Stations that differ in the memo alone; all outputs count. -/
def otherMemo (σ : Type) : Lockstep σ σ :=
  ⟨fun _ => true, fun s s' => ∃ memo, s' = { s with memo := memo }⟩

/-- **The memo is not read.**  Whatever stations do, they do alike when they differ in their memos
alone, with every output counted. -/
theorem memo_isKept [Channel σ] : (otherMemo σ).IsKept where
  preferences := by
    rintro s _ ⟨memo, rfl⟩
    rfl
  clock := by
    rintro s _ ⟨memo, rfl⟩
    rfl
  remembering := by
    rintro s _ ⟨memo, rfl⟩ e
    exact ⟨e.remember memo, rfl⟩
  connected := by
    rintro s _ ⟨memo, rfl⟩ now
    exact ⟨rfl, memo, rfl⟩
  query := by
    rintro s _ ⟨memo, rfl⟩ q now
    exact ⟨rfl, memo, rfl⟩
  followUp := by
    rintro s _ ⟨memo, rfl⟩ f now
    rcases f with ⟨id, text, question⟩ | request
    · rw [FollowUp.run_askUser, FollowUp.run_askUser]
      rcases s with ⟨channel, preferences, book, links, _ | ⟨answer, answers⟩, clock, memo'⟩
      · exact ⟨rfl, ⟨memo, rfl⟩, rfl⟩
      · exact ⟨rfl, ⟨memo, rfl⟩, rfl⟩
    · have terms : ({ s with memo := memo } : Station σ).terms = s.terms := rfl
      rw [FollowUp.run_runLink, FollowUp.run_runLink, terms]
      rcases s.terms.accountFor? request with _ | account
      · exact ⟨rfl, ⟨memo, rfl⟩, rfl⟩
      · rcases s with ⟨channel, preferences, book, _ | _ | ⟨outcome, rest⟩, answers, clock, memo'⟩
        · exact ⟨rfl, ⟨memo, rfl⟩, rfl⟩
        · exact ⟨rfl, ⟨memo, rfl⟩, rfl⟩
        · exact ⟨rfl, ⟨memo, rfl⟩, rfl⟩

namespace Stimulus

variable [Channel σ]

theorem inStep (stimulus : Stimulus) (now : Nat) {s s' : Station σ}
    (related : (otherMemo σ).related s s') :
    (stimulus.run now s).InStep (otherMemo σ) (stimulus.run now s') := by
  have kept : (otherMemo σ).IsKept := memo_isKept
  rcases stimulus with o | e
  · refine kept.occasion o now related ?_
    rintro lull -
    obtain ⟨memo, rfl⟩ := related
    exact ⟨memo, rfl⟩
  · exact kept.handle e now related

theorem inStep_runAll (stimuli : List Stimulus) (now : Nat) {s s' : Station σ}
    (related : (otherMemo σ).related s s') :
    (runAll stimuli now s).InStep (otherMemo σ) (runAll stimuli now s') := by
  induction stimuli generalizing now s s' with
  | nil => exact .here related _ _
  | cons stimulus stimuli ih =>
    apply (stimulus.inStep now related).andThen
    intro later t t' related
    exact ih later related

end Stimulus

/-! ## Main statement -/

/-- **The memo tells of the last drive event and of the last download**, whatever stirs a station:
its path is that of the last drive event dispatched, its type that of the last one whose type is one
of the two of a download, and each is as it was when there is none.  A turn leaves the memo alone
unless it is that of events, the daemon counts as connected, and the reply is an object; and so does
an event of another kind.  From another memo everything goes the same: all effects, signals and
notices, and the times of them. -/
theorem memo_of_last_events [Channel σ] (stimuli : List Stimulus) (now : Nat) (s : Station σ) :
    let run := Stimulus.runAll stimuli now s
    let dispatched := Stimulus.allDrives stimuli now s
    run.station.memo.path = (dispatched.getLast?.map DriveEvent.path).getD s.memo.path ∧
      run.station.memo.kind =
        ((dispatched.filter fun e =>
          e.kind = "file-download.start" || e.kind = "file-download.done").getLast?.map
            DriveEvent.kind).getD s.memo.kind ∧
      (∀ t : BegunTurn σ,
        (t.query = .events → t.isConnected = true →
          ∀ payload, t.reply.result = .ok payload → payload.isObject = false) →
        t.run.station.memo = t.station.memo) ∧
      (∀ e : Event, (∀ d, e ≠ .drive d) → ∀ (now : Nat) (s : Station σ),
        (e.handle now s).station.memo = s.memo) ∧
      ∀ memo : Memo,
        let run' := Stimulus.runAll stimuli now { s with memo := memo }
        run'.history = run.history ∧ run'.time = run.time ∧
          { run'.station with memo := run.station.memo } = run.station := by
  intro run dispatched
  have memo : run.station.memo = s.memo.afterAll dispatched := Stimulus.memo_runAll stimuli now s
  refine ⟨?_, ?_, ?_, ?_, ?_⟩
  · rw [memo]
    exact s.memo.path_afterAll dispatched
  · rw [memo]
    exact s.memo.kind_afterAll dispatched
  · exact fun t other => t.memo_run_of_no_event other
  · intro e other now s
    have none : e.drive? = none := by
      cases e with
      | drive d => exact absurd rfl (other d)
      | notification | status | errors => rfl
    rw [e.memo_handle, none]
    rfl
  · intro memo run'
    have related : (otherMemo σ).related s { s with memo := memo } := ⟨memo, rfl⟩
    obtain ⟨history, ⟨left, station⟩, time⟩ := Stimulus.inStep_runAll stimuli now related
    have all : ∀ h : History, h.counted (otherMemo σ).counts = h := by
      intro h
      exact List.filter_eq_self.mpr fun _ _ => rfl
    rw [all, all] at history
    refine ⟨history.symm, time.symm, ?_⟩
    show ({ run'.station with memo := run.station.memo } : Station σ) = run.station
    rw [show run'.station = _ from station]

end DaemonWatch
