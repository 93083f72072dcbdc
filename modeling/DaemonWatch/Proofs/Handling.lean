/-
  What handling an event comes to.

  An event shows what it shows at once, and may leave something to do: a question to the user with
  the report of the answer, or a link command.  This module says once what all of that comes to, so
  that no later one has to look into its steps.

  1. **As a run.**  What is left to do comes to one of two runs (`FollowUp.run_askUser`,
     `FollowUp.run_runLink`), and handling an event is what it leads to at once, followed by that
     (`Event.handle_eq`).  A payload that is taken is decoded first (`Event.deliver`).

  2. **What decides** (`Terms`).  What is done, effects and signals but not what is logged, depends
     on little of the station: the settings, the accounts, whether there are link commands, and the
     answers that the user is going to give.  How long calls take and how they end is not among it.

  3. **The crux (`Event.deeds_handle`)**: what is done upon an event is `Event.deeds`, which is told
     from the terms without any run.  It is so for what is left to do (`FollowUp.run_eq_deeds`), and
     what an event leads to at once depends on the settings alone.  Afterwards the terms are the
     same but for the answer that was taken (`Event.terms_handle`), so the next event can be told as
     well.

  4. **Parts of it.**  What an event leads to at once is only shown (`Event.isShow_of_react`).  So
     whoever looks for questions, reports or link commands among the effects finds them in what is
     left to do (`Event.filterMap_handle`).
-/
import DaemonWatch.Proofs.ChannelView

namespace DaemonWatch

variable {σ : Type}

/-! ## What decides what is done -/

/-- What decides what is done: the settings, the accounts, whether there are link commands, and the
answers that the user is going to give. -/
structure Terms where
  preferences : Preferences
  book : AccountBook
  hasLinks : Bool
  answers : List Bool
  deriving Repr, DecidableEq

/-- The terms of a station. -/
def Station.terms (s : Station σ) : Terms :=
  ⟨s.preferences, s.book, s.links.isSome, s.answers.map Timed.value⟩

namespace Terms

/-- The user's next answer; the user declines when there is none left. -/
def answer (t : Terms) : Bool := t.answers.headD false

/-- The terms once the user has answered. -/
def answered (t : Terms) : Terms := { t with answers := t.answers.tail }

/-- The account that a request may use, if it may use any. -/
def accountFor? (t : Terms) (request : ActionRequest) : Option Account :=
  if t.hasLinks then (t.book.find? request.domainId).filter Account.isValid else none

theorem answer_terms (s : Station σ) : s.terms.answer = s.takeAnswer.1.value := by
  cases answers : s.answers <;> simp [Station.terms, answer, Station.takeAnswer, answers]

theorem terms_takeAnswer (s : Station σ) : s.takeAnswer.2.terms = s.terms.answered := by
  cases answers : s.answers <;> simp [Station.terms, answered, Station.takeAnswer, answers]

theorem terms_takeLinkOutcome (s : Station σ) (a : Action) :
    (s.takeLinkOutcome a).2.terms = s.terms := by
  simp only [Station.takeLinkOutcome]
  split
  next given => simp [Station.terms, given]
  next => rfl

end Terms

/-! ## What is left to do after an event -/

namespace FollowUp

variable [Channel σ]

/-- What is left to do after an event, from its beginning to its end. -/
def run (now : Nat) (s : Station σ) (f : FollowUp) : Run σ :=
  let first := f.begin s
  match first.next with
  | none => ⟨.stamped now first.outputs, first.station, now⟩
  | some (delay, errand) =>
    (⟨.stamped now first.outputs, first.station, now + delay⟩ : Run σ).andThen
      fun later s => runFor Errand.step errand.rank later s errand

/-- The user is asked; when the answer has come it is reported, once, and how that
ends is logged. -/
theorem run_askUser (now : Nat) (s : Station σ) (id text question : String) :
    let answered := s.takeAnswer
    let cancelled := !answered.1.value
    let later := now + answered.1.delay
    let told := Channel.confirm id cancelled later s.channel
    (askUser id text question).run now s =
      ⟨.stamped now [.effect (.prompt text question)] ++
          (.stamped later [.effect (.confirmation id cancelled)] ++
            .stamped (later + told.1.delay)
              ((Errand.reportNotices id cancelled told.1).map .notice)),
        { answered.2 with channel := told.2 }, later + told.1.delay⟩ := by
  intro answered cancelled later told
  have same : told = Channel.confirm id cancelled later answered.2.channel := by
    rw [Station.channel_takeAnswer]
  rw [same]
  rfl

/-- A link command is run with the account that the request may use, and how that ends is logged;
without one nothing happens. -/
theorem run_runLink (now : Nat) (s : Station σ) (request : ActionRequest) :
    (runLink request).run now s =
      match s.terms.accountFor? request with
      | none => ⟨[], s, now⟩
      | some account =>
        let ran := s.takeLinkOutcome request.action
        ⟨.stamped now [.effect (.link request account)] ++
            .stamped (now + ran.1.delay) ((Errand.linkNotices request ran.1).map .notice),
          ran.2, now + ran.1.delay⟩ := by
  have account : s.terms.accountFor? request =
      if s.links.isSome then s.accountFor? request else none := rfl
  rw [account]
  cases given : s.links with
  | none =>
    simp only [run, begin, given]
    rfl
  | some outcomes =>
    cases found : s.accountFor? request with
    | none =>
      simp only [run, begin, given, found]
      rfl
    | some account =>
      simp only [run, begin, given, found]
      rfl

end FollowUp

/-- Handling an event is what it leads to at once, and then what is left to do. -/
theorem Event.handle_eq [Channel σ] (now : Nat) (s : Station σ) (e : Event) :
    e.handle now s =
      let shown : Run σ := ⟨.stamped now (e.react s.preferences).outputs, s.remembering e, now⟩
      match (e.react s.preferences).followUp with
      | none => shown
      | some f => shown.andThen fun now s => f.run now s := by
  simp only [handle, begin_eq]
  cases (e.react s.preferences).followUp with
  | none => rfl
  | some f =>
    simp only [Run.andThen, FollowUp.run, History.stamped, List.map_append]
    cases (f.begin (s.remembering e)).next with
    | none => rfl
    | some next => simp only [List.append_assoc]

/-- Takes a payload that answers a query: it is decoded, and its event is handled, if it has one. -/
def Event.deliver [Channel σ] (q : Query) (payload : Json) (now : Nat) (s : Station σ) : Run σ :=
  match decode s.clock q payload with
  | (notices, .error _) => ⟨.stamped now (notices.map .notice), s, now⟩
  | (notices, .ok e) =>
    (⟨.stamped now (notices.map .notice), s, now⟩ : Run σ).andThen fun now s => e.handle now s

/-- A payload of some type is an object. -/
theorem Payload.exists_of_text_ne {payload : Json} {key : String} (named : text payload key ≠ "") :
    ∃ members, payload = .object members := by
  cases payload with
  | object members => exact ⟨members, rfl⟩
  | _ => exact absurd rfl named

/-- An object that is told as a notification is handled as one. -/
theorem Event.deliver_notification [Channel σ] (members : List (String × Json)) (now : Nat)
    (s : Station σ) :
    deliver .notification (.object members) now s =
      (Event.notification (.ofPayload (.object members))).handle now s := rfl

/-- An object that is told as a drive event is logged if it is unknown, and shown at once. -/
theorem Event.outputs_deliver_events [Channel σ] (members : List (String × Json)) (now : Nat)
    (s : Station σ) :
    let e := DriveEvent.ofPayload (.object members)
    (deliver .events (.object members) now s).history.outputs =
      (driveNotices e).map .notice ++ e.shown.map .effect := by
  intro e
  have delivered : deliver .events (.object members) now s =
    (⟨.stamped now ((driveNotices e).map .notice), s, now⟩ : Run σ).andThen
      fun now s => (drive e).handle now s := rfl
  have handled : (drive e).handle now s =
    ⟨.stamped now (e.shown.map .effect), s.remembering (drive e), now⟩ := handle_eq now s (drive e)
  rw [delivered, Run.andThen, handled, History.outputs_append, History.outputs_stamped,
    History.outputs_stamped]

/-! ## What is done -/

namespace Output

/-- Whether something is done, and not just logged. -/
def isDeed : Output → Bool
  | effect _ | filesystemLoaded => true
  | notice _ => false

/-- What is done: the effects and the signals among outputs. -/
def deeds (outputs : List Output) : List Output := outputs.filter isDeed

@[simp] theorem deeds_nil : deeds [] = [] := rfl

@[simp] theorem deeds_append (o o' : List Output) : deeds (o ++ o') = deeds o ++ deeds o' :=
  List.filter_append ..

@[simp] theorem deeds_notices (ns : List Notice) : deeds (ns.map notice) = [] := by
  simp [deeds, isDeed]

@[simp] theorem deeds_effects (es : List Effect) : deeds (es.map effect) = es.map effect := by
  simp [deeds, isDeed]

@[simp] theorem deeds_effect_cons (e : Effect) (o : List Output) :
    deeds (effect e :: o) = effect e :: deeds o := rfl

/-- The effects are among what is done. -/
theorem effects_deeds (outputs : List Output) : effects (deeds outputs) = effects outputs := by
  induction outputs with
  | nil => rfl
  | cons o outputs ih =>
    cases o with
    | effect e => exact congrArg (e :: ·) ih
    | notice | filesystemLoaded => exact ih

end Output

/-! ### What is logged -/

namespace Output

@[simp] theorem notices_append (o o' : List Output) :
    notices (o ++ o') = notices o ++ notices o' := List.filterMap_append

@[simp] theorem notices_notices (ns : List Notice) : notices (ns.map notice) = ns := by
  simp [notices, notice?, Function.comp_def]

@[simp] theorem notices_effects (es : List Effect) : notices (es.map effect) = [] := by
  simp [notices, notice?, Function.comp_def]

@[simp] theorem notices_effect_cons (e : Effect) (o : List Output) :
    notices (effect e :: o) = notices o := rfl

end Output

/-- What is logged, entry by entry. -/
def History.log (h : History) : List LogEntry := (Output.notices h.outputs).map Notice.entry

/-! ### By what is left to do -/

namespace FollowUp

/-- Whether the user is asked. -/
def asks : FollowUp → Bool
  | askUser .. => true
  | runLink _ => false

/-- What is done. -/
def deeds (t : Terms) : FollowUp → List Output
  | askUser id text question =>
    [.effect (.prompt text question), .effect (.confirmation id (!t.answer))]
  | runLink request => (t.accountFor? request).toList.map fun a => .effect (.link request a)

variable [Channel σ]

/-- What is left to do does what the terms decide, and takes an answer if the user is asked. -/
theorem run_eq_deeds (now : Nat) (s : Station σ) (f : FollowUp) :
    Output.deeds (f.run now s).history.outputs = f.deeds s.terms ∧
      (f.run now s).station.terms = if f.asks then s.terms.answered else s.terms := by
  cases f with
  | askUser id text question =>
    rw [run_askUser]
    constructor
    · simp [deeds, Terms.answer_terms]
    · rw [asks, if_pos rfl, ← Terms.terms_takeAnswer]
      rfl
  | runLink request =>
    rw [run_runLink]
    cases found : s.terms.accountFor? request with
    | none =>
      refine ⟨?_, rfl⟩
      rw [deeds, found]
      rfl
    | some account =>
      constructor
      · simp [deeds, found]
      · exact Terms.terms_takeLinkOutcome s request.action

end FollowUp

/-! ### By an event -/

/-- Whether a notification is about a deletion that the user has to confirm. -/
def Notification.asks : Notification → Bool
  | deleteFiles .. | deleteRepo .. => true
  | _ => false

namespace Event

/-- Whether the user is asked about the event. -/
def asks : Event → Bool
  | notification n => n.asks
  | _ => false

/-- What is done upon the event. -/
def deeds (t : Terms) (e : Event) : List Output :=
  Output.deeds (e.react t.preferences).outputs ++
    match (e.react t.preferences).followUp with
    | none => []
    | some f => f.deeds t

/-- A sync error is shown unless its code is 25 and such errors are hidden. -/
theorem deeds_syncError (t : Terms) (c : Commit) (errorId : Int) (path description : String) :
    (notification (.syncError c errorId path description)).deeds t =
      if errorId = 25 ∧ t.preferences.hideWindowsPaths = true then []
      else [.effect (.message (Notification.errorMessage c path description))] := by
  have code : Notification.hideableCode = 25 := by decide
  simp only [deeds, react, Notification.react, code, Bool.and_eq_true, decide_eq_true_eq]
  split <;> rfl

/-- The user is asked when that is what is left to do. -/
theorem asks_eq (p : Preferences) (e : Event) :
    e.asks = (e.react p).followUp.any FollowUp.asks := by
  cases e with
  | drive | status | errors => rfl
  | notification n =>
    cases n with
    | syncDone | syncError | multipartUpload =>
      simp only [react, Notification.react]
      split <;> rfl
    | _ => rfl

end Event

/-- The terms after an event. -/
def Terms.after (t : Terms) (e : Event) : Terms := if e.asks then t.answered else t

namespace Event

variable [Channel σ]

/-- **Handling an event does what the terms decide.**  The channel has no say in it: it decides how
long the work takes, and what is logged when a report fails. -/
theorem deeds_handle (now : Nat) (s : Station σ) (e : Event) :
    Output.deeds (e.handle now s).history.outputs = e.deeds s.terms := by
  have preferences : s.terms.preferences = s.preferences := rfl
  have terms : (s.remembering e).terms = s.terms := rfl
  rw [handle_eq, deeds, preferences]
  cases (e.react s.preferences).followUp with
  | none => simp
  | some f =>
    have rest := (f.run_eq_deeds now (s.remembering e)).1
    rw [terms] at rest
    simp [Run.andThen, rest]

/-- Handling an event leaves the terms as they are, but for the answer that is taken. -/
theorem terms_handle (now : Nat) (s : Station σ) (e : Event) :
    (e.handle now s).station.terms = s.terms.after e := by
  have terms : (s.remembering e).terms = s.terms := rfl
  rw [handle_eq, Terms.after, asks_eq s.preferences]
  cases (e.react s.preferences).followUp with
  | none => rfl
  | some f =>
    have rest := (f.run_eq_deeds now (s.remembering e)).2
    rw [terms] at rest
    exact rest

/-- The effects of an event are what it leads to at once and what is left to do. -/
theorem effects_handle (now : Nat) (s : Station σ) (e : Event) :
    (e.handle now s).history.effects =
      Output.effects (e.react s.preferences).outputs ++
        ((e.react s.preferences).followUp.toList.flatMap fun f =>
          Output.effects (f.deeds s.terms)) := by
  unfold History.effects
  rw [← Output.effects_deeds, e.deeds_handle now s, deeds, Output.effects_append,
    Output.effects_deeds]
  show _ ++ Output.effects (match (e.react s.preferences).followUp with
    | none => []
    | some f => f.deeds s.terms) = _
  rcases (e.react s.preferences).followUp with _ | f
  · rfl
  · show _ = _ ++ (_ ++ [])
    rw [List.append_nil]
    rfl

end Event

/-! ### What is shown -/

/-- Whether an effect only shows something. -/
def Effect.isShow : Effect → Bool
  | message _ | warning .. | rotate _ | rate .. | errors _ => true
  | query _ | prompt .. | confirmation .. | link .. => false

/-- What an event leads to at once is only shown. -/
theorem Event.isShow_of_react (p : Preferences) (e : Event) :
    ∀ x ∈ Output.effects (e.react p).outputs, x.isShow = true := by
  intro x mem
  rcases e with e | n | status | es
  · simp only [react, Output.effects_effects, DriveEvent.shown] at mem
    split at mem <;> simp_all [Effect.isShow]
  · cases n with
    | syncDone | multipartUpload | syncError =>
      simp only [react, Notification.react] at mem
      split at mem <;> simp_all [Output.effects, Output.effect?, Reaction.message, Effect.isShow]
    | _ => simp_all [react, Notification.react, Output.effects, Output.effect?, Reaction.message,
        Reaction.ask, Effect.isShow]
  · simp only [react, Output.effects_effects, TransferStatus.shown, List.mem_cons,
      List.not_mem_nil, or_false] at mem
    rcases mem with rfl | rfl <;> rfl
  · cases List.mem_singleton.mp mem
    rfl

/-- Where something is picked that is not only shown, it is picked of what is left to do. -/
theorem Event.filterMap_handle [Channel σ] {α : Type} {pick : Effect → Option α}
    (hidden : ∀ x : Effect, x.isShow = true → pick x = none) (now : Nat) (s : Station σ)
    (e : Event) :
    (e.handle now s).history.effects.filterMap pick =
      (e.react s.preferences).followUp.toList.flatMap fun f =>
        (Output.effects (f.deeds s.terms)).filterMap pick := by
  have shown : (Output.effects (e.react s.preferences).outputs).filterMap pick = [] := by
    rw [List.filterMap_eq_nil_iff]
    intro x mem
    exact hidden x (e.isShow_of_react s.preferences x mem)
  rw [effects_handle, List.filterMap_append, shown, List.nil_append]
  rcases (e.react s.preferences).followUp with _ | f
  · rfl
  · simp

end DaemonWatch
