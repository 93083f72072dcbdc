/-
  The signals that the libraries are loaded, and who reads them.

  Whoever reads an inbox beside a session gets one signal for each notification that the libraries
  are loaded, up to what the inbox holds, whenever it is read.

  1. **The inbox.**  An inbox into which a number of signals have come since it was empty is known
     by that number (`Inbox.holding`, `Inbox.hear_holding`), on either side of its capacity.  So
     what is read depends on the number of signals since the last reading alone
     (`Inbox.readings_eq`).

  2. **Tidings** (`Output.tidings`): the signal, and messages with the title that goes with it.  Of
     all events only the notification of loaded libraries brings them, one of each
     (`Event.tidings_react`); that takes a look at every other title (`Output.tidings_message`).

  3. **Beats** (`Beat`).  A session is a succession of beats, the stretches of work between two
     waits, and gives off what its beats give off (`Session.history_eq`).  An inbox is read between
     two beats.

  4. **The crux (`Beat.tidings_eq`)**: a beat tells that the libraries are loaded, with one message
     and one signal, exactly when a notification of it is taken in the beat, and else not at all.
     With 1 this gives `signals_conserved`, for every choice of the beats at which the inbox is
     read.
-/
import DaemonWatch.Proofs.NotificationKinds
import DaemonWatch.Proofs.Occasions
import DaemonWatch.Signals
import Mathlib.Data.List.SplitLengths

namespace DaemonWatch

variable {σ τ : Type}

/-! ## The inbox -/

@[simp] theorem Output.signalCount_append (o o' : List Output) :
    signalCount (o ++ o') = signalCount o + signalCount o' := List.countP_append

namespace Inbox

/-- The inbox once it has taken in the signals among outputs. -/
def hear (b : Inbox) (outputs : List Output) : Inbox :=
  (List.replicate (Output.signalCount outputs) Signal.filesystemLoaded).foldl push b

/-- What a reader gets who reads the inbox at the end of each of some stretches of outputs. -/
def readings (b : Inbox) : List (List Output) → List (List Delivery)
  | [] => []
  | outputs :: rest => (b.hear outputs).drain.1 :: readings (b.hear outputs).drain.2 rest

/-- The inbox into which a number of signals have come since it was empty. -/
def holding (n : Nat) : Inbox :=
  ⟨n - capacity, List.replicate (min n capacity) .filesystemLoaded⟩

theorem hear_append (b : Inbox) (o o' : List Output) : (b.hear o).hear o' = b.hear (o ++ o') := by
  simp only [hear, Output.signalCount_append, List.replicate_add, List.foldl_append]

/-- One more signal comes in: the oldest one goes when the inbox is full. -/
theorem push_holding (n : Nat) : (holding n).push .filesystemLoaded = holding (n + 1) := by
  have grown (k : Nat) : List.replicate k Signal.filesystemLoaded ++ [.filesystemLoaded] =
      List.replicate (k + 1) .filesystemLoaded := List.replicate_succ'.symm
  unfold push holding capacity
  by_cases room : n < 16
  · have kept : min n 16 = n := by omega
    have kept' : min (n + 1) 16 = n + 1 := by omega
    have missed : n - 16 = n + 1 - 16 := by omega
    simp only [kept, kept', missed, List.length_replicate, room, if_true, grown]
  · have kept : min n 16 = 16 := by omega
    have kept' : min (n + 1) 16 = 15 + 1 := by omega
    have missed : n - 16 + 1 = n + 1 - 16 := by omega
    simp only [kept, kept', missed, List.length_replicate, List.drop_replicate, Nat.lt_irrefl,
      if_false, grown]

theorem hear_holding (n : Nat) (outputs : List Output) :
    (holding n).hear outputs = holding (n + Output.signalCount outputs) := by
  unfold hear
  generalize Output.signalCount outputs = k
  -- The inbox is generalized, since the first of the signals changes it.
  induction k generalizing n with
  | zero => rfl
  | succ k ih =>
    rw [List.replicate_succ, List.foldl_cons, push_holding, ih, Nat.add_assoc, Nat.add_comm 1]

/-- What is read when a number of signals have come in since the last reading. -/
theorem drain_holding (n : Nat) :
    (holding n).drain =
      (if n ≤ 16 then List.replicate n (.signal .filesystemLoaded)
        else .missed (n - 16) :: List.replicate 16 (.signal .filesystemLoaded), {}) := by
  unfold drain holding capacity
  by_cases within : n ≤ 16
  · have kept : min n 16 = n := by omega
    have missed : n - 16 = 0 := by omega
    simp only [kept, missed, within, if_true, List.nil_append, List.map_replicate]
  · have kept : min n 16 = 16 := by omega
    have missed : n - 16 ≠ 0 := by omega
    simp only [kept, missed, within, if_false, List.map_replicate, List.cons_append,
      List.nil_append]

/-- **A reading depends on the number of signals since the last one** alone.  Signals beyond what
the inbox holds are not kept, and whoever reads is told how many. -/
theorem readings_eq (stretches : List (List Output)) :
    readings {} stretches =
      stretches.map fun outputs =>
        let n := Output.signalCount outputs
        if n ≤ 16 then List.replicate n (.signal .filesystemLoaded)
        else .missed (n - 16) :: List.replicate 16 (.signal .filesystemLoaded) := by
  -- A drained inbox is as good as new, so every reading starts from an empty one.
  have empty : holding 0 = {} := rfl
  rw [← empty]
  induction stretches with
  | nil => rfl
  | cons outputs rest ih =>
    simp only [readings, hear_holding, Nat.zero_add, drain_holding, List.map_cons]
    rw [← empty, ih]

/-- Of 18 signals the last 16 are read, and later none. -/
example :
    readings {} [List.replicate 18 .filesystemLoaded, []] =
      [.missed 2 :: List.replicate 16 (.signal .filesystemLoaded), []] := by
  decide

end Inbox

/-! ## Tidings -/

/-- The message that all libraries are loaded. -/
def TrayMessage.loaded : TrayMessage := { title := Wording.loadedTitle, body := Wording.loadedBody }

namespace Output

/-- Whether an output tells that the libraries are loaded: it is the signal, or a message with the
title for it. -/
def isTidings : Output → Bool
  | filesystemLoaded => true
  | effect (.message m) => m.title = Wording.loadedTitle
  | _ => false

/-- The outputs that tell that the libraries are loaded. -/
def tidings (outputs : List Output) : List Output := outputs.filter isTidings

/-- What is told each time that the libraries are loaded. -/
def loaded : List Output := [.effect (.message .loaded), .filesystemLoaded]

@[simp] theorem tidings_nil : tidings [] = [] := rfl

@[simp] theorem tidings_append (o o' : List Output) :
    tidings (o ++ o') = tidings o ++ tidings o' := List.filter_append ..

@[simp] theorem tidings_notices (ns : List Notice) : tidings (ns.map notice) = [] := by
  simp [tidings, isTidings]

/-- Tidings are no mere log entries. -/
theorem tidings_deeds (outputs : List Output) : tidings (deeds outputs) = tidings outputs := by
  induction outputs with
  | nil => rfl
  | cons o outputs ih =>
    cases o with
    | notice n => exact ih
    | effect e =>
      rw [deeds_effect_cons]
      simp only [tidings, List.filter_cons] at ih ⊢
      rw [ih]
    | filesystemLoaded => exact congrArg (filesystemLoaded :: ·) ih

/-- The signals are among the tidings. -/
theorem signalCount_tidings (outputs : List Output) :
    signalCount (tidings outputs) = signalCount outputs := by
  simp only [signalCount, tidings, List.countP_filter]
  refine List.countP_congr fun o _ => ?_
  cases o <;> simp [isTidings]

end Output

/-- A text that begins with another letter is not the title. -/
theorem Wording.ne_loadedTitle {s : String} {c : Char} {rest : List Char}
    (begins : s.toList = c :: rest) (other : c ≠ 'L') : s ≠ loadedTitle := by
  rintro rfl
  have title : loadedTitle.toList = 'L' :: "ibraries are ready".toList := by decide
  rw [title, List.cons.injEq] at begins
  exact other begins.1.symm

/-- A message with another title tells nothing. -/
theorem Output.tidings_message {m : TrayMessage} (other : m.title ≠ Wording.loadedTitle) :
    tidings [.effect (.message m)] = [] := by
  simp [tidings, isTidings, other]

/-! ### What brings them -/

namespace Wording

theorem synchronizedTitle_ne (repoName : String) : synchronizedTitle repoName ≠ loadedTitle :=
  ne_loadedTitle (c := '"') (by simp [synchronizedTitle, quote]; rfl) (by decide)

theorem uploadingTitle_ne (repoName : String) : uploadingTitle repoName ≠ loadedTitle :=
  ne_loadedTitle (c := '"') (by simp [uploadingTitle, quote]; rfl) (by decide)

theorem syncErrorTitle_ne (repoName path : String) :
    syncErrorTitle repoName path ≠ loadedTitle := by
  have titled (subject : String) :
      (if subject.isEmpty then "Error when syncing" else "Error when syncing " ++ quote subject) ≠
        loadedTitle := by
    split
    · decide
    · exact ne_loadedTitle (c := 'E') (by simp; rfl) (by decide)
  exact titled _

theorem move_ne (stage : MoveStage) (source destination : String) :
    (move stage source destination).1 ≠ loadedTitle := by
  cases stage with
  | start | done => exact ne_loadedTitle (c := 'S') (by simp [move, moveOpening]; rfl) (by decide)
  | failed => exact ne_loadedTitle (c := 'F') (by simp [move, moveOpening]; rfl) (by decide)

end Wording

namespace Event

/-- Whether an event is the notification that the libraries are loaded. -/
def isLoaded : Event → Bool
  | notification (.filesystemLoaded _) => true
  | _ => false

/-- **Only the notification that the libraries are loaded tells so**, and it does with one message
and one signal. -/
theorem tidings_react (p : Preferences) (e : Event) :
    Output.tidings (e.react p).outputs = if e.isLoaded then Output.loaded else [] := by
  -- Whatever else shows a message has a title of its own.
  cases e with
  | drive e =>
    have other : Wording.downloadTitle ≠ Wording.loadedTitle := by decide
    simp only [react, DriveEvent.shown]
    split
    · exact Output.tidings_message other
    · exact Output.tidings_message other
    · rfl
    · rfl
    · rfl
  | status | errors => rfl
  | notification n =>
    cases n with
    | syncDone c =>
      simp only [react, Notification.react]
      split
      · exact Output.tidings_message (Wording.synchronizedTitle_ne _)
      · rfl
    | multipartUpload c =>
      simp only [react, Notification.react]
      split
      · exact Output.tidings_message (Wording.uploadingTitle_ne _)
      · rfl
    | syncError c errorId path description =>
      simp only [react, Notification.react]
      split
      · rfl
      · exact Output.tidings_message (Wording.syncErrorTitle_ne _ _)
    | move stage source destination =>
      exact Output.tidings_message (Wording.move_ne stage source destination)
    | filesystemLoaded | deleteFiles | deleteRepo | action | unknown => rfl

/-- What is left to do after an event tells nothing of it. -/
theorem tidings_begin (s : Station σ) (e : Event) :
    Output.tidings (e.begin s).outputs = if e.isLoaded then Output.loaded else [] := by
  rw [begin_eq, ← e.tidings_react s.preferences]
  cases (e.react s.preferences).followUp with
  | none => rfl
  | some f =>
    have silent : Output.tidings (f.begin (s.remembering e)).outputs = [] := by
      cases f with
      | askUser => rfl
      | runLink request =>
        simp only [FollowUp.begin]
        split <;> rfl
    simp only [Output.tidings_append, silent, List.append_nil]

end Event

theorem Errand.tidings_step [Channel σ] (now : Nat) (s : Station σ) (e : Errand) :
    Output.tidings (e.step now s).outputs = [] := by
  cases e with
  | asking => rfl
  | reporting | linking => exact Output.tidings_notices _

/-- An event that is handled tells of loaded libraries when it is the notification of them. -/
theorem Event.tidings_handle [Channel σ] (now : Nat) (s : Station σ) (e : Event) :
    Output.tidings (e.handle now s).history.outputs = if e.isLoaded then Output.loaded else [] := by
  rw [← Output.tidings_deeds, e.deeds_handle, deeds, Output.tidings_append, Output.tidings_deeds,
    e.tidings_react]
  have silent : ∀ f : FollowUp, Output.tidings (f.deeds s.terms) = [] := by
    intro f
    cases f with
    | askUser => rfl
    | runLink request =>
      simp only [FollowUp.deeds]
      cases s.terms.accountFor? request <;> rfl
  cases (e.react s.terms.preferences).followUp with
  | none => exact List.append_nil _
  | some f => rw [silent f, List.append_nil]

/-- A payload that cannot be decoded has no fields. -/
theorem Event.text_of_decode {now : Int} {q : Query} {payload : Json} {notices : List Notice}
    {message : String} (decoded : decode now q payload = (notices, .error message)) (key : String) :
    Payload.text payload key = "" := by
  cases payload with
  | object members =>
    simp only [decode, Json.isObject, Bool.not_true, Bool.and_false] at decoded
    cases decoded
  | _ => rfl

theorem Event.isLoaded_iff (e : Event) :
    e.isLoaded = true ↔ e.variant? = some .filesystemLoaded := by
  cases e with
  | notification n => cases n <;> simp [isLoaded, variant?, Notification.variant]
  | drive | status | errors => simp [isLoaded, variant?]

/-- The event of a payload is the notification of loaded libraries when the payload answers the
query for notifications and has that type. -/
theorem Event.isLoaded_of_decode {now : Int} {q : Query} {payload : Json} {notices : List Notice}
    {e : Event} (decoded : decode now q payload = (notices, .ok e)) :
    e.isLoaded = true ↔ q = .notification ∧ Payload.text payload "type" = "fs-loaded" := by
  rw [isLoaded_iff, variant?_of_decode decoded (by decide)]
  simp [Notification.variants]

/-! ## Beats -/

/-- The steps that some work takes, at most `n`: when, on which station, and what is taken on. -/
def visits (step : Nat → Station σ → τ → Step σ τ) :
    (n : Nat) → (now : Nat) → Station σ → τ → List (Nat × Station σ × τ)
  | 0, _, _, _ => []
  | n + 1, now, s, t =>
    (now, s, t) ::
      match (step now s t).next with
      | none => []
      | some (delay, t') => visits step n (now + delay) (step now s t).station t'

/-- Work gives off what its steps give off. -/
theorem history_runFor (step : Nat → Station σ → τ → Step σ τ) (n now : Nat) (s : Station σ)
    (t : τ) :
    (runFor step n now s t).history =
      (visits step n now s t).flatMap fun v =>
        History.stamped v.1 (step v.1 v.2.1 v.2.2).outputs := by
  induction n generalizing now s t with
  | zero => rfl
  | succ n ih =>
    simp only [runFor, visits]
    cases (step now s t).next with
    | none => simp
    | some more => simp only [List.flatMap_cons, ih]

/-- Takes a payload that comes by itself. -/
def Event.receive (q : Query) (payload : Json) (s : Station σ) : Step σ Errand :=
  match decode s.clock q payload with
  | (notices, .error _) => ⟨notices.map .notice, s, none⟩
  | (notices, .ok e) =>
    ⟨notices.map .notice ++ (e.begin s).outputs, (e.begin s).station, (e.begin s).next⟩

/-- A payload that comes by itself is taken, and then the errand that it brings is run. -/
theorem Event.deliver_eq [Channel σ] (q : Query) (payload : Json) (now : Nat) (s : Station σ) :
    deliver q payload now s =
      let first := receive q payload s
      match first.next with
      | none => ⟨.stamped now first.outputs, first.station, now⟩
      | some (delay, e) =>
        (⟨.stamped now first.outputs, first.station, now + delay⟩ : Run σ).andThen
          fun later s => runFor Errand.step e.rank later s e := by
  simp only [deliver, receive]
  rcases decode s.clock q payload with ⟨notices, message | e⟩
  · rfl
  · simp only [Run.andThen, handle]
    cases (e.begin s).next with
    | none => simp only [History.stamped, List.map_append]
    | some next => simp only [History.stamped, List.map_append, List.append_assoc]

/-- A payload that is taken tells of loaded libraries when it is a notification of them. -/
theorem Event.tidings_receive (q : Query) (payload : Json) (s : Station σ) :
    Output.tidings (receive q payload s).outputs =
      if q = .notification ∧ Payload.text payload "type" = "fs-loaded" then Output.loaded
      else [] := by
  unfold receive
  rcases decode_cases s.clock q payload with
    ⟨notices, message, -, decoded⟩ | ⟨notices, e, rfl, decoded⟩
  -- Nothing comes of a payload that is not decoded, and it has no type either.
  · have other : Payload.text payload "type" ≠ "fs-loaded" := by
      rw [text_of_decode decoded]
      decide
    simp only [decoded, other, and_false, if_false, Output.tidings_notices]
  · simp only [decoded, Output.tidings_append, Output.tidings_notices, List.nil_append,
      e.tidings_begin, isLoaded_of_decode decoded]

/-- A payload that is taken in a turn is logged more often, but tells the same. -/
theorem Turn.tidings_accept (q : Query) (payload : Json) (s : Station σ) :
    Output.tidings (accept q s payload).outputs =
      Output.tidings (Event.receive q payload s).outputs := by
  have logged (message : String) : Output.tidings [.notice (.undecodable q message)] = [] := rfl
  unfold accept Event.receive
  rcases Event.decode s.clock q payload with ⟨notices, message | e⟩
  · simp only [Output.tidings_append, logged, List.append_nil]
  · rfl

/-- A stretch of a session without a wait: a step of a tick, the arrival of a payload that comes by
itself, or a step of the errand that such a payload brings. -/
inductive Beat (σ : Type)
  | tick (now : Nat) (s : Station σ) (t : Tick)
  | arrival (a : Arrival σ)
  | errand (now : Nat) (s : Station σ) (e : Errand)

namespace Beat

/-- When the beat falls. -/
def time : Beat σ → Nat
  | tick now _ _ | errand now _ _ => now
  | arrival a => a.start

/-- What the beat gives off. -/
def outputs [Channel σ] : Beat σ → List Output
  | tick now s t => (t.step now s).outputs
  | arrival a => (Event.receive a.query a.payload a.station).outputs
  | errand now s e => (e.step now s).outputs

/-- What the beat gives off, with its time. -/
def history [Channel σ] (b : Beat σ) : History := .stamped b.time b.outputs

/-- The payload that is taken in the beat, and the query that it answers. -/
def taken? : Beat σ → Option (Query × Json)
  | tick _ _ ⟨q, .receiving reply⟩ => reply.result.toOption.map (q, ·)
  | arrival a => some (a.query, a.payload)
  | tick _ _ ⟨_, .ready⟩ | tick _ _ ⟨_, .running _⟩ | errand .. => none

/-- Whether a notification that the libraries are loaded is taken in the beat. -/
def loads (b : Beat σ) : Bool :=
  b.taken?.any fun r => r.1 = .notification ∧ Payload.text r.2 "type" = "fs-loaded"

/-- **A beat tells that the libraries are loaded**, with one message and one signal, exactly when a
notification of it is taken. -/
theorem tidings_eq [Channel σ] (b : Beat σ) :
    Output.tidings b.outputs = if b.loads then Output.loaded else [] := by
  cases b with
  | errand now s e => exact e.tidings_step now s
  | arrival a =>
    simp only [outputs, Event.tidings_receive, loads, taken?, Option.any_some, decide_eq_true_eq]
  | tick now s t =>
    obtain ⟨q, turn⟩ := t
    simp only [outputs, Tick.step]
    cases turn with
    | ready =>
      simp only [Turn.step]
      split <;> rfl
    | running e => exact e.tidings_step now s
    | receiving reply =>
      simp only [Turn.step]
      cases result : reply.result with
      | error f =>
        have silent : Output.tidings (Turn.shownOnFailure q) = [] := by cases q <;> rfl
        simp [loads, taken?, result, Except.toOption, silent]
      | ok payload =>
        simp [loads, taken?, result, Except.toOption, Turn.tidings_accept, Event.tidings_receive]

end Beat

/-! ### The beats of a session -/

section Session

variable [Channel σ]

/-- The beats of an occasion. -/
def Occasion.beats (now : Nat) (s : Station σ) : Occasion → List (Beat σ)
  | lull _ => []
  | poll => (visits Tick.step Tick.start.rank now s .start).map fun v => .tick v.1 v.2.1 v.2.2
  | arrival q payload =>
    .arrival ⟨q, payload, now, s⟩ ::
      match (Event.receive q payload s).next with
      | none => []
      | some (delay, e) =>
        (visits Errand.step e.rank (now + delay) (Event.receive q payload s).station e).map
          fun v => .errand v.1 v.2.1 v.2.2

/-- The beats of a session. -/
def Session.beats (os : List Occasion) (now : Nat) (s : Station σ) : List (Beat σ) :=
  gather Occasion.beats os now s

theorem Occasion.history_eq (o : Occasion) (now : Nat) (s : Station σ) :
    (o.run now s).history = (o.beats now s).flatMap Beat.history := by
  cases o with
  | lull l => rfl
  | poll =>
    rw [run, ← Tick.finish_start, Tick.finish, history_runFor, beats, List.flatMap_map]
    rfl
  | arrival q payload =>
    simp only [run, beats, Event.deliver_eq, List.flatMap_cons]
    cases (Event.receive q payload s).next with
    | none => exact (List.append_nil _).symm
    | some next =>
      simp only [Run.andThen, history_runFor, List.flatMap_map]
      rfl

/-- **A session gives off what its beats give off.**  Cutting a session between two waits loses
nothing and repeats nothing. -/
theorem Session.history_eq (os : List Occasion) (now : Nat) (s : Station σ) :
    (run os now s).history = (beats os now s).flatMap Beat.history := by
  induction os generalizing now s with
  | nil => rfl
  | cons o os ih =>
    simp only [run, Run.andThen, beats, gather, List.flatMap_append, o.history_eq]
    rw [ih]
    rfl

/-! ### With and without a reader -/

/-- A session beside which the signals go to an inbox, if there is one. -/
def Session.overheard (inbox : Option Inbox) :
    List Occasion → Nat → Station σ → Run σ × Option Inbox
  | [], now, s => (⟨[], s, now⟩, inbox)
  | o :: os, now, s =>
    let first := o.run now s
    let rest := overheard (inbox.map (·.hear first.history.outputs)) os first.time first.station
    (⟨first.history ++ rest.1.history, rest.1.station, rest.1.time⟩, rest.2)

/-- An inbox beside a session makes no difference to it. -/
theorem Session.overheard_eq (inbox : Option Inbox) (os : List Occasion) (now : Nat)
    (s : Station σ) :
    overheard inbox os now s =
      (run os now s, inbox.map (·.hear (run os now s).history.outputs)) := by
  induction os generalizing inbox now s with
  | nil => cases inbox <;> rfl
  | cons o os ih =>
    simp only [overheard, ih, run, Run.andThen, Option.map_map, History.outputs_append]
    congr 2
    funext b
    exact b.hear_append _ _

/-- A beat gives off one signal when a notification that the libraries are loaded is taken, and none
otherwise. -/
theorem Beat.signalCount_outputs (bs : List (Beat σ)) :
    Output.signalCount (bs.flatMap outputs) = bs.countP loads := by
  induction bs with
  | nil => rfl
  | cons b bs ih =>
    rw [List.flatMap_cons, Output.signalCount_append, ih, ← Output.signalCount_tidings,
      b.tidings_eq, List.countP_cons, Nat.add_comm]
    cases b.loads <;> rfl

/-- **Signals are conserved.**  A session is the succession of its beats.  Whoever keeps an inbox
beside it and reads it after any numbers of beats gets, each time, one signal for each notification
that the libraries are loaded which was taken since the last reading, or else, when there were more
than 16 of them, the number of those beyond 16 and then 16 signals.  Every such notification shows
one message that the libraries are ready and gives off one signal, in the beat in which it is taken,
and no other beat does either; likewise when an event is handled by itself.  With an inbox or
without one, the session is the same. -/
theorem signals_conserved (os : List Occasion) (now : Nat) (s : Station σ) (sizes : List Nat) :
    let session := Session.run os now s
    let beats := Session.beats os now s
    let stretches := sizes.splitLengths beats
    session.history = beats.flatMap Beat.history ∧
    Inbox.readings {} (stretches.map fun bs => bs.flatMap Beat.outputs) =
      stretches.map (fun bs =>
        let n := bs.countP Beat.loads
        if n ≤ 16 then List.replicate n (.signal .filesystemLoaded)
        else .missed (n - 16) :: List.replicate 16 (.signal .filesystemLoaded)) ∧
    (∀ b ∈ beats, b.outputs.filter Output.isTidings =
      if b.loads then [.effect (.message .loaded), .filesystemLoaded] else []) ∧
    (∀ (e : Event) (now : Nat) (s : Station σ),
      (e.handle now s).history.outputs.filter Output.isTidings =
        if e.isLoaded then [.effect (.message .loaded), .filesystemLoaded] else []) ∧
    ∀ inbox : Option Inbox, Session.overheard inbox os now s =
      (session, inbox.map (·.hear session.history.outputs)) := by
  intro session beats stretches
  refine ⟨Session.history_eq os now s, ?_, fun b _ => b.tidings_eq,
    fun e now s => e.tidings_handle now s, fun inbox => Session.overheard_eq inbox os now s⟩
  rw [Inbox.readings_eq, List.map_map]
  refine List.map_congr_left fun bs _ => ?_
  simp only [Function.comp_def, Beat.signalCount_outputs]

end Session

end DaemonWatch
