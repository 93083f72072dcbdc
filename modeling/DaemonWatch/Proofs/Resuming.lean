/-
  How often it is logged that a loop resumes.

  A loop logs that it resumes when it takes the news that the daemon is back while it is paused, and
  at no other time.  To count this in the log it has to be known that nothing else logs the same.

  1. **Specification** (`Liveness.resumptions`): how often commands in turn lead from paused to
     running.  What is logged upon one command counts as just that (`Liveness.count_notices`).

  2. **Who else might log it.**  What is logged in a tick is either worded by the program, which has
     other words there, or comes from the channel or from a link command.  Of these it has to be
     supposed that they keep silent about it (`Station.IsMute`).  Silence is kept by each layer in
     turn: by what an event leaves to do, by errands, by turns and by ticks (`Tick.isMute_step`).

  3. **The crux (`Occurs.resumed`)**: one happening keeps the loop mute and logs as many resumptions
     as the command taken in it makes.  `resumed_course` is the induction over a course, and
     `count_log` finds the same number in the log itself, as no other notice has the same entry.

  4. **The client** keeps silent, because all that it logs is the loss of the connection
     (`Client.isMute`).
-/
import DaemonWatch.Client
import DaemonWatch.Proofs.Course
import DaemonWatch.Proofs.Handling

namespace DaemonWatch

variable {σ τ : Type}

/-! ## Commands -/

namespace Liveness

/-- How often the liveness goes from paused to running under commands in turn. -/
def resumptions : Liveness → List Command → Nat
  | _, [] => 0
  | l, c :: cs =>
    (if l = .paused ∧ l.after c = .running then 1 else 0) + resumptions (l.after c) cs

theorem resumptions_append (l : Liveness) (cs ds : List Command) :
    l.resumptions (cs ++ ds) = l.resumptions cs + (l.afterAll cs).resumptions ds := by
  induction cs generalizing l with
  | nil => exact (Nat.zero_add _).symm
  | cons c cs ih => simp only [List.cons_append, resumptions, ih, afterAll_cons, Nat.add_assoc]

/-- It is logged that a paused loop runs again, and nothing else. -/
theorem count_notices (l : Liveness) (c : Command) :
    (l.notices c).count .resumed = l.resumptions [c] := by
  cases l <;> cases c <;> rfl

end Liveness

/-! ## Who else might log it -/

/-- That neither the channel nor a link command of the station logs that a loop resumes. -/
structure Station.IsMute [Channel σ] (s : Station σ) : Prop where
  query : ∀ (q : Query) (now : Nat) (c : σ), .resumed ∉ (Channel.query q now c).1.notices
  confirm : ∀ (id : String) (cancelled : Bool) (now : Nat) (c : σ),
    .resumed ∉ (Channel.confirm id cancelled now c).1.notices
  links : ∀ outcomes, s.links = some outcomes → ∀ outcome ∈ outcomes, ∀ a : Action,
    .resumed ∉ (outcome a).notices

/-- That what an errand waits for does not log it. -/
def Errand.IsMute : Errand → Prop
  | asking .. => True
  | reporting _ _ reply | linking _ reply => .resumed ∉ reply.notices

/-- That what a turn waits for does not log it. -/
def Turn.IsMute : Turn → Prop
  | ready => True
  | receiving reply => .resumed ∉ reply.notices
  | running e => e.IsMute

/-- That a step does not log it, nor will what comes next. -/
structure Step.IsMute [Channel σ] (mute : τ → Prop) (step : Step σ τ) : Prop where
  outputs : .notice .resumed ∉ step.outputs
  station : step.station.IsMute
  next : ∀ delay t, step.next = some (delay, t) → mute t

theorem notice_mem_map {n : Notice} {ns : List Notice} :
    Output.notice n ∈ ns.map .notice ↔ n ∈ ns := by
  simp

section Mute

variable [Channel σ]

/-- Only the outcomes of link commands make a difference. -/
theorem Station.IsMute.of_links {s s' : Station σ} (mute : s.IsMute) (same : s'.links = s.links) :
    s'.IsMute :=
  ⟨mute.query, mute.confirm, fun outcomes given => mute.links outcomes (same ▸ given)⟩

/-- Among the notices of such a step it does not occur. -/
theorem Step.IsMute.count_notices {mute : τ → Prop} {step : Step σ τ} (silent : step.IsMute mute) :
    (Output.notices step.outputs).count .resumed = 0 := by
  rw [List.count_eq_zero, Output.notices, List.mem_filterMap]
  rintro ⟨o, mem, told⟩
  cases o with
  | notice n =>
    cases told
    exact silent.outputs mem
  | effect | filesystemLoaded => cases told

/-- The next link command does not log it, nor will those behind it. -/
theorem Station.IsMute.takeLinkOutcome {s : Station σ} (mute : s.IsMute) (a : Action) :
    .resumed ∉ (s.takeLinkOutcome a).1.notices ∧ (s.takeLinkOutcome a).2.IsMute := by
  unfold Station.takeLinkOutcome
  split
  next outcome rest given =>
    refine ⟨mute.links _ given outcome List.mem_cons_self a, mute.query, mute.confirm, ?_⟩
    rintro outcomes ⟨⟩ o mem
    exact mute.links _ given o (List.mem_cons_of_mem _ mem)
  next => exact ⟨List.not_mem_nil, mute⟩

theorem FollowUp.isMute_begin {s : Station σ} (mute : s.IsMute) (f : FollowUp) :
    (f.begin s).IsMute Errand.IsMute := by
  cases f with
  | askUser id text question =>
    refine ⟨by simp [begin], mute.of_links ?_, ?_⟩
    · simp only [begin, Station.takeAnswer]
      split <;> rfl
    · rintro delay e ⟨⟩
      trivial
  | runLink request =>
    obtain ⟨silent, left⟩ := mute.takeLinkOutcome request.action
    simp only [begin]
    split
    next =>
      refine ⟨by simp, left, ?_⟩
      rintro delay e ⟨⟩
      exact silent
    next => exact ⟨by simp, mute, by simp⟩

theorem Event.resumed_notMem_react (p : Preferences) (e : Event) :
    .notice .resumed ∉ (e.react p).outputs := by
  cases e with
  | drive | status | errors => simp [react]
  | notification n =>
    cases n with
    | syncDone | syncError | multipartUpload =>
      simp only [react, Notification.react]
      split <;> simp [Reaction.message]
    | _ => simp [react, Notification.react, Reaction.message, Reaction.ask]

theorem Event.isMute_begin {s : Station σ} (mute : s.IsMute) (e : Event) :
    (e.begin s).IsMute Errand.IsMute := by
  have same : (s.remembering e).IsMute := mute.of_links rfl
  have silent := e.resumed_notMem_react s.preferences
  rw [begin_eq]
  cases (e.react s.preferences).followUp with
  | none => exact ⟨silent, same, by simp⟩
  | some f =>
    have rest := f.isMute_begin same
    refine ⟨?_, rest.station, rest.next⟩
    rw [List.mem_append, not_or]
    exact ⟨silent, rest.outputs⟩

theorem Errand.isMute_step (now : Nat) {s : Station σ} (mute : s.IsMute) {e : Errand}
    (here : e.IsMute) : (e.step now s).IsMute IsMute := by
  cases e with
  | asking id confirmed =>
    refine ⟨by simp [step], mute.of_links rfl, ?_⟩
    rintro delay e ⟨⟩
    exact mute.confirm id (!confirmed) now s.channel
  | reporting id cancelled reply =>
    refine ⟨?_, mute, by simp [step]⟩
    simp only [step, notice_mem_map, reportNotices, List.mem_append, not_or]
    exact ⟨here, by simp⟩
  | linking request reply =>
    refine ⟨?_, mute, by simp [step]⟩
    simp only [step, notice_mem_map, linkNotices, List.mem_append, not_or]
    exact ⟨here, by simp⟩

/-- Decoding a payload does not log it. -/
theorem Event.resumed_notMem_decode {now : Int} {q : Query} {payload : Json} {notices : List Notice}
    {r : Except String Event} (decoded : decode now q payload = (notices, r)) :
    .resumed ∉ notices := by
  unfold decode at decoded
  split at decoded
  · cases decoded
    exact List.not_mem_nil
  · cases q <;> cases decoded
    · unfold driveNotices
      split <;> simp
    · exact List.not_mem_nil
    · exact List.not_mem_nil
    · unfold errorListNotices
      split <;> simp

theorem Turn.isMute_accept {s : Station σ} (mute : s.IsMute) (q : Query) (payload : Json) :
    (accept q s payload).IsMute Errand.IsMute := by
  unfold accept
  split
  next notices message decoded =>
    refine ⟨?_, mute, by simp⟩
    simp only [List.mem_append, notice_mem_map, not_or]
    exact ⟨Event.resumed_notMem_decode decoded, by simp⟩
  next notices e decoded =>
    have rest := e.isMute_begin mute
    refine ⟨?_, rest.station, rest.next⟩
    simp only [List.mem_append, notice_mem_map, not_or]
    exact ⟨Event.resumed_notMem_decode decoded, rest.outputs⟩

/-- A step of a turn keeps silent about it: what has come is logged, and that was silent before;
what is begun is a query, whose reply the channel makes silent, or an errand. -/
theorem Turn.isMute_step (q : Query) (now : Nat) {s : Station σ} (mute : s.IsMute) {t : Turn}
    (here : t.IsMute) : (t.step q now s).IsMute IsMute := by
  cases t with
  | ready =>
    simp only [step]
    split
    · refine ⟨by simp, mute.of_links rfl, ?_⟩
      rintro delay t ⟨⟩
      exact mute.query q now _
    · exact ⟨by simp, mute.of_links rfl, by simp⟩
  | receiving reply =>
    simp only [step]
    split
    · refine ⟨?_, mute, by simp⟩
      simp only [List.mem_append, notice_mem_map, not_or]
      exact ⟨here, by cases q <;> simp [shownOnFailure]⟩
    next payload _ =>
      have rest := isMute_accept mute q payload
      refine ⟨?_, rest.station, ?_⟩
      · simp only [List.mem_append, notice_mem_map, not_or]
        exact ⟨here, rest.outputs⟩
      · intro delay t next
        simp only [Option.map_eq_some_iff, Prod.mk.injEq] at next
        obtain ⟨n, next, -, rfl⟩ := next
        exact rest.next n.1 n.2 next
  | running e =>
    have rest := e.isMute_step now mute here
    refine ⟨rest.outputs, rest.station, ?_⟩
    intro delay t next
    simp only [step, Option.map_eq_some_iff, Prod.mk.injEq] at next
    obtain ⟨n, next, -, rfl⟩ := next
    exact rest.next n.1 n.2 next

/-- A step of a tick keeps silent about it. -/
theorem Tick.isMute_step (now : Nat) {s : Station σ} (mute : s.IsMute) {t : Tick}
    (here : t.turn.IsMute) : (t.step now s).IsMute fun t => t.turn.IsMute := by
  have first := t.turn.isMute_step t.query now mute here
  refine ⟨first.outputs, first.station, ?_⟩
  intro delay t' next
  simp only [step] at next
  split at next
  next more =>
    cases next
    exact first.next _ _ more
  next =>
    simp only [Option.map_eq_some_iff, Prod.mk.injEq] at next
    obtain ⟨q, -, -, rfl⟩ := next
    trivial

end Mute

/-! ## What a loop logs -/

namespace PollLoop

/-- How often it has been logged that the loop resumes. -/
def resumedCount (l : PollLoop σ) : Nat := (Output.notices l.history.outputs).count .resumed

/-- The log has it as often: no other notice has the same entry. -/
theorem count_log (l : PollLoop σ) :
    l.history.log.count ⟨.info, "daemon restarted, resuming message poller", []⟩ =
      l.resumedCount := by
  rw [History.log, resumedCount, List.count, List.countP_map, List.count]
  refine List.countP_congr fun n _ => ?_
  cases n <;> simp [Notice.entry]

theorem resumedCount_record (l : PollLoop σ) (outputs : List Output) :
    (l.record outputs).resumedCount = l.resumedCount + (Output.notices outputs).count .resumed := by
  simp [resumedCount, record]

variable [Channel σ] {pace : Pace σ} {l l' : PollLoop σ} {h : Happening} {hs : Chronicle}

/-- That nobody else logs it, and what a tick under way waits for does not.  Whatever a loop does
keeps this, and so do commands, so it is asked for at the start alone. -/
structure IsMute (l : PollLoop σ) : Prop where
  station : l.station.IsMute
  phase : ∀ wake tick, l.phase = .ticking wake tick → tick.turn.IsMute

/-- A happening in which nobody else takes part is logged as resuming when it resumes the loop.
Only taking a command can, and its notices are counted; a tick that goes on gives off notices of
others, which are silent. -/
theorem Occurs.resumed (step : Occurs pace l h l') (mute : l.IsMute) (fixed : h ≠ .adjusted) :
    l'.IsMute ∧ l'.resumedCount = l.resumedCount + l.liveness.resumptions h.taken?.toList := by
  cases step with
  | @move m made =>
    have entry := of_move? made
    rw [taken?_tell]
    cases m with
    | take c =>
      have counted := resumedCount_record l ((l.liveness.notices c).map .notice)
      rw [Output.notices_notices, Liveness.count_notices] at counted
      refine ⟨⟨mute.station, ?_⟩, counted⟩
      intro wake tick phase
      simp only [perform, take, record, entry.1] at phase
      split at phase <;> cases phase
    | finish => exact ⟨⟨mute.station, by simp [perform]⟩, rfl⟩
    | startTick =>
      -- A tick starts with a turn that waits for nothing.
      refine ⟨⟨mute.station, ?_⟩, rfl⟩
      intro wake tick phase
      simp only [perform, startTick, Phase.ticking.injEq] at phase
      rw [← phase.2]
      trivial
    | goOn tick =>
      obtain ⟨wake, phase, _⟩ := entry
      have rest := tick.isMute_step l.now mute.station (mute.phase wake tick phase)
      refine ⟨⟨rest.station, ?_⟩, ?_⟩
      · intro wake' tick' phase'
        simp only [perform, goOn, record] at phase'
        split at phase'
        next next =>
          cases phase'
          exact rest.next _ _ next
        next => cases phase'
      · have counted := resumedCount_record l (tick.step l.now l.station).outputs
        rw [rest.count_notices] at counted
        exact counted
  | accept | abandon | pass => exact ⟨⟨mute.station, mute.phase⟩, rfl⟩
  | adjust => exact absurd rfl fixed

/-- **It is logged as often as the loop resumes**: once each time that the commands taken lead from
paused to running. -/
theorem resumed_course (run : Course pace l hs l') (mute : l.IsMute)
    (fixed : .adjusted ∉ hs.kinds) :
    l'.resumedCount = l.resumedCount + l.liveness.resumptions hs.taken := by
  -- The muteness is carried along the course; what is counted next starts from the liveness after
  -- the first happening.
  induction run with
  | nil => rfl
  | cons first rest ih =>
    rw [Chronicle.kinds_cons, List.mem_cons, not_or] at fixed
    obtain ⟨still, counted⟩ := first.resumed mute (Ne.symm fixed.1)
    rw [ih still fixed.2, counted, first.liveness, Chronicle.taken_cons,
      Liveness.resumptions_append, Nat.add_assoc]

end PollLoop

/-! ## The client -/

/-- The client logs nothing but the loss of the connection. -/
theorem Client.isMute {s : Station Client}
    (links : ∀ outcomes, s.links = some outcomes → ∀ outcome ∈ outcomes, ∀ a : Action,
      .resumed ∉ (outcome a).notices) : s.IsMute := by
  have silent (c : Client) (r : Request) (now : Nat) : .resumed ∉ (c.call r now).1.notices := by
    simp only [call, note]
    split
    · split
      · split <;> simp
      · simp
    · simp
  exact ⟨fun q now c => silent c ⟨q.method, []⟩ now,
    fun id cancelled now c => silent c (Request.report id cancelled) now, links⟩

end DaemonWatch
