/-
  Deletions that the user has to confirm.

  A payload about a deletion brings one exchange: the user is asked, and the answer is reported
  under the id that the payload has given, cancelled exactly when the user did not confirm.

  1. **Specification** (`Arrival.exchange`): the question and the report that an arrival brings,
     from the fields of its payload and the next of the user's answers.  Which arrivals do is
     decided by the query that the payload answers and by its type (`Arrival.asks`).

  2. **One arrival.**  An arrival that asks is nothing but the question and the report
     (`Arrival.run_of_asks`), so it brings its exchange, once, and a warning if the report has
     failed (`Arrival.outputs_of_asks`).  Any other neither asks nor reports, and takes no answer
     (`Arrival.of_not_asks`).  The bridge between the type of a payload and what becomes of it is
     `Event.variant?_of_decode`.

  3. **The crux (`Run.Asks`)**: some work is made of certain exchanges and of stretches without any
     (`History.MadeOf`), and each exchange takes the next of the user's answers.  It is composed
     along with the work (`Run.Asks.andThen`), from an arrival up to a session (`Session.asks_run`);
     a report that is made again would be one too many.

  4. **Reports that fail** are logged, once, and that is all: what comes after one is the same as if
     it had succeeded (`Session.run_alike`, `Session.heard_ruled`).  `deletion_replies` puts both
     together.
-/
import DaemonWatch.Proofs.NotificationKinds
import DaemonWatch.Proofs.ReportOutcomes

namespace DaemonWatch

variable {σ σ' : Type}

/-! ## Exchanges -/

/-- Whether the effect is a question to the user about a deletion, or the report of the answer. -/
def Effect.concernsDeletion : Effect → Bool
  | prompt .. | confirmation .. => true
  | _ => false

namespace History

/-- The questions about deletions and the reports of the answers. -/
def deletions (h : History) : List Effect := h.effects.filter Effect.concernsDeletion

@[simp] theorem deletions_append (h h' : History) :
    deletions (h ++ h') = h.deletions ++ h'.deletions := by
  simp only [deletions, effects_append, List.filter_append]

end History

namespace Arrival

/-- The id under which the answer is reported. -/
def id (a : Arrival σ) : String := Payload.text a.payload "confirmation_id"

/-- Whether the payload is a notification about a deletion that the user has to confirm. -/
def asks (a : Arrival σ) : Bool :=
  a.query = .notification && (a.kind = "del_confirmation" || a.kind = "del_repo_confirmation")

/-- What the user is asked: the text and the question. -/
def wording (a : Arrival σ) : String × String :=
  let repoName := Payload.text a.payload "repo_name"
  if a.kind = "del_confirmation" then
    (Wording.deleteFilesText (Payload.text a.payload "delete_files"),
      Wording.deleteFilesQuestion repoName)
  else (Wording.deleteRepoText repoName, Wording.deleteRepoQuestion repoName)

/-- What the user answers, if asked. -/
def answer (a : Arrival σ) : Bool := a.station.takeAnswer.1.value

/-- The question to the user and the report of the answer. -/
def exchange (a : Arrival σ) : List Effect :=
  [.prompt a.wording.1 a.wording.2, .confirmation a.id (!a.answer)]

/-- How the report of the answer ends. -/
def report [Channel σ] (a : Arrival σ) : Reply Unit :=
  (Channel.confirm a.id (!a.answer) (a.start + a.station.takeAnswer.1.delay) a.station.channel).1

end Arrival

/-! ## What an arrival comes to -/

/-- An event about which the user is asked is nothing but that. -/
theorem Event.handle_of_ask [Channel σ] (now : Nat) (s : Station σ) {n : Notification}
    {id text question : String} (reacts : n.react s.preferences = .ask id text question) :
    (Event.notification n).handle now s = (FollowUp.askUser id text question).run now s := by
  rw [handle_eq]
  simp only [react, reacts, Reaction.ask]
  rfl

/-- The user is asked about an event when it is of one of the two variants about deletions. -/
theorem Event.asks_iff (e : Event) :
    e.asks = true ↔ e.variant? = some .deleteFiles ∨ e.variant? = some .deleteRepo := by
  cases e with
  | notification n => cases n <;> simp [asks, Notification.asks, variant?, Notification.variant]
  | drive | status | errors => simp [asks, variant?]

/-- The user is asked about the event of a payload exactly when the payload answers the query for
notifications and its type is one of the two about deletions. -/
theorem Event.asks_of_decode {now : Int} {q : Query} {payload : Json} {notices : List Notice}
    {e : Event} (decoded : decode now q payload = (notices, .ok e)) :
    e.asks = true ↔ q = .notification ∧ (Payload.text payload "type" = "del_confirmation" ∨
      Payload.text payload "type" = "del_repo_confirmation") := by
  rw [asks_iff, variant?_of_decode decoded (by decide), variant?_of_decode decoded (by decide),
    ← and_or_left]
  simp [Notification.variants]

theorem Arrival.asks_iff {a : Arrival σ} :
    a.asks = true ↔ a.query = .notification ∧
      (a.kind = "del_confirmation" ∨ a.kind = "del_repo_confirmation") := by
  simp only [asks, Bool.and_eq_true, Bool.or_eq_true, decide_eq_true_eq]

/-- An arrival about which the user is asked is nothing but that. -/
theorem Arrival.run_of_asks [Channel σ] {a : Arrival σ} (asks : a.asks = true) :
    a.run = (FollowUp.askUser a.id a.wording.1 a.wording.2).run a.start a.station := by
  obtain ⟨q, payload, now, s⟩ := a
  rw [asks_iff] at asks
  obtain ⟨rfl, type⟩ := asks
  have named : Payload.text payload "type" ≠ "" := by
    rintro empty
    rw [kind, empty] at type
    revert type
    decide
  obtain ⟨members, rfl⟩ := Payload.exists_of_text_ne named
  rw [run, Event.deliver_notification]
  refine Event.handle_of_ask now s ?_
  rcases type with files | repo
  · rw [(Notification.Reads.deleteFiles files).eq]
    simp [Notification.react, id, wording, files]
  · rw [(Notification.Reads.deleteRepo repo).eq]
    simp [Notification.react, id, wording, repo]

/-- **A payload about a deletion** brings one exchange, after which it is logged how the report has
ended: first what the channel has to say, and then, if it has failed, that. -/
theorem Arrival.outputs_of_asks [Channel σ] {a : Arrival σ} (asks : a.asks = true) :
    a.run.history.outputs =
      a.exchange.map .effect ++ a.report.notices.map .notice ++
        match a.report.result with
        | .ok _ => []
        | .error f => [.notice (.confirmationFailed a.id (!a.answer) f)] := by
  have ran := run_of_asks asks
  rw [FollowUp.run_askUser] at ran
  have ended : (Errand.reportNotices a.id (!a.answer) a.report).map Output.notice =
      a.report.notices.map .notice ++
        match a.report.result with
        | .ok _ => []
        | .error f => [.notice (.confirmationFailed a.id (!a.answer) f)] := by
    simp only [Errand.reportNotices, Reply.failure?, List.map_append]
    cases a.report.result <;> rfl
  rw [ran, List.append_assoc, ← ended]
  simp only [History.outputs_append, History.outputs_stamped]
  rfl

/-- What is logged upon a payload about a deletion: what the channel has to say about the report,
and, if the report has failed, one warning. -/
theorem Arrival.log_of_asks [Channel σ] {a : Arrival σ} (asks : a.asks = true) :
    a.run.history.log =
      a.report.notices.map Notice.entry ++
        match a.report.result with
        | .ok _ => []
        | .error f =>
          [⟨.warn, "Failed to send delete confirmation",
            [("confirmation", .text a.id), ("cancelled", .flag (!a.answer)),
             ("error", .text f.message)]⟩] := by
  rw [History.log, outputs_of_asks asks]
  simp only [Output.notices_append, Output.notices_effects, Output.notices_notices,
    List.nil_append, List.map_append]
  cases a.report.result <;> rfl

/-- A payload about a deletion brings no question or report besides its exchange. -/
theorem Arrival.deletions_of_asks [Channel σ] {a : Arrival σ} (asks : a.asks = true) :
    a.run.history.deletions = a.exchange := by
  have ran := run_of_asks asks
  rw [FollowUp.run_askUser] at ran
  simp only [ran, History.deletions_append]
  simp only [History.deletions, History.effects_stamped, Output.effects_notices]
  rfl

/-- After a payload about a deletion one of the user's answers is taken. -/
theorem Arrival.terms_of_asks [Channel σ] {a : Arrival σ} (asks : a.asks = true) :
    a.run.station.terms = a.station.terms.answered := by
  rw [run_of_asks asks]
  exact (FollowUp.run_eq_deeds a.start a.station _).2

/-! ### What is no deletion -/

/-- An event about which the user is not asked neither asks nor reports. -/
theorem Event.deletions_handle [Channel σ] (now : Nat) (s : Station σ) {e : Event}
    (quiet : e.asks = false) : (e.handle now s).history.deletions = [] := by
  have hidden : ∀ x : Effect, x.isShow = true → Option.guard Effect.concernsDeletion x = none := by
    intro x shown
    cases x <;> first | rfl | cases shown
  rw [asks_eq s.preferences] at quiet
  show List.filter _ _ = []
  rw [← List.filterMap_eq_filter, filterMap_handle hidden]
  rcases followUp : (e.react s.preferences).followUp with _ | ⟨id, text, question⟩ | request
  · rfl
  · rw [followUp] at quiet
    cases quiet
  · simp only [Option.toList_some, List.flatMap_singleton, FollowUp.deeds]
    rcases s.terms.accountFor? request with _ | account
    · rfl
    · rfl

/-- A payload that is about no deletion neither asks nor reports, and takes no answer. -/
theorem Arrival.of_not_asks [Channel σ] {a : Arrival σ} (quiet : a.asks = false) :
    a.run.history.deletions = [] ∧ a.run.station.terms = a.station.terms := by
  obtain ⟨q, payload, now, s⟩ := a
  have silent : ∀ notices : List Notice,
      History.deletions (.stamped now (notices.map .notice)) = [] := by
    intro notices
    rw [History.deletions, History.effects_stamped, Output.effects_notices]
    rfl
  simp only [run, Event.deliver]
  rcases Event.decode_cases s.clock q payload with
    ⟨notices, message, -, decoded⟩ | ⟨notices, e, rfl, decoded⟩
  · simp only [decoded, silent, and_self]
  · have quiet : e.asks = false := by
      rw [← Bool.not_eq_true, asks_iff] at quiet
      rwa [← Bool.not_eq_true, Event.asks_of_decode decoded]
    have after := e.terms_handle now s
    rw [Terms.after, quiet] at after
    simp only [decoded, Run.andThen, History.deletions_append, silent,
      Event.deletions_handle now s quiet]
    exact ⟨rfl, after⟩

/-! ## What a session comes to -/

/-- That a history is made of what some arrivals come to, in their order, and of stretches without a
question to the user or a report. -/
inductive History.MadeOf [Channel σ] : List (Arrival σ) → History → Prop
  | quiet {h : History} (quiet : h.deletions = []) : MadeOf [] h
  | arrival (a : Arrival σ) : MadeOf [a] a.run.history
  | append {as as' : List (Arrival σ)} {h h' : History} (first : MadeOf as h)
      (rest : MadeOf as' h') : MadeOf (as ++ as') (h ++ h')

/-- The questions and reports of a history that is made of exchanges. -/
theorem History.MadeOf.deletions_eq [Channel σ] {as : List (Arrival σ)} {h : History}
    (made : h.MadeOf as) (asks : ∀ a ∈ as, a.asks = true) :
    h.deletions = as.flatMap Arrival.exchange := by
  -- Along the pieces: only the exchanges bring any.
  induction made with
  | quiet quiet => exact quiet
  | arrival a =>
    exact (a.deletions_of_asks (asks a (List.mem_singleton.mpr rfl))).trans (List.append_nil _).symm
  | append first rest ih ih' =>
    rw [deletions_append, List.flatMap_append, ih, ih']
    · intro a mem
      exact asks a (List.mem_append_right _ mem)
    · intro a mem
      exact asks a (List.mem_append_left _ mem)

/-- That some work is made of certain exchanges, each of which takes the next of
the user's answers. -/
structure Run.Asks [Channel σ] (answers : List Bool) (as : List (Arrival σ)) (run : Run σ) :
    Prop where
  made : run.history.MadeOf as
  after : run.station.terms.answers = answers.drop as.length
  each : ∀ (i : Nat) (h : i < as.length), as[i].station.terms.answers = answers.drop i

namespace Run.Asks

variable [Channel σ] {answers : List Bool} {as as' : List (Arrival σ)} {run : Run σ}

/-- Work without a question takes no answer. -/
theorem of_quiet (quiet : run.history.deletions = []) (after : run.station.terms.answers = answers) :
    Asks answers [] run :=
  ⟨.quiet quiet, after, fun i h => absurd h (Nat.not_lt_zero i)⟩

/-- Some work and then more asks about what the first and then what the rest asks about. -/
theorem andThen {more : Nat → Station σ → Run σ} (first : Asks answers as run)
    (rest : Asks run.station.terms.answers as' (more run.time run.station)) :
    Asks answers (as ++ as') (run.andThen more) := by
  refine ⟨first.made.append rest.made, ?_, ?_⟩
  · rw [Run.andThen, rest.after, first.after, List.drop_drop, List.length_append]
  · intro i h
    by_cases here : i < as.length
    · rw [List.getElem_append_left here]
      exact first.each i here
    · -- The rest takes the answers that the first has left.
      have there : i - as.length < as'.length := by
        rw [List.length_append] at h
        omega
      have same : as.length + (i - as.length) = i := by omega
      rw [List.getElem_append_right (Nat.le_of_not_lt here), rest.each _ there, first.after,
        List.drop_drop, same]

end Run.Asks

/-- An arrival asks about itself, if it asks at all. -/
theorem Arrival.asks_run [Channel σ] (a : Arrival σ) :
    a.run.Asks a.station.terms.answers ([a].filter asks) := by
  cases asked : a.asks with
  | false =>
    obtain ⟨quiet, terms⟩ := of_not_asks asked
    rw [List.filter_cons_of_neg (by simp [asked])]
    exact .of_quiet quiet (congrArg Terms.answers terms)
  | true =>
    rw [List.filter_cons_of_pos asked]
    refine ⟨.arrival a, ?_, ?_⟩
    · rw [terms_of_asks asked]
      exact List.drop_one.symm
    · intro i h
      cases Nat.lt_one_iff.mp h
      rfl

/-- A turn asks about what arrives in it.  If nothing does, no effect of the turn belongs to an
exchange; and if something does, what comes before and behind the arrival in the
history is quiet. -/
theorem BegunTurn.asks_run [Channel σ] (t : BegunTurn σ) :
    t.run.Asks t.station.terms.answers (([t].filterMap arrival?).filter Arrival.asks) := by
  have answers : ∀ {s s' : Station σ}, s.alone = s'.alone → s.terms.answers = s'.terms.answers :=
    fun alone => congrArg (fun s : Station Unit => s.terms.answers) alone
  cases arrived : t.arrival? with
  | none =>
    obtain ⟨effects, station⟩ := run_of_no_arrival arrived
    rw [List.filterMap_cons_none arrived]
    refine .of_quiet ?_ (answers station)
    rw [History.deletions, effects]
    cases t.heard with
    | none => rfl
    | some payload => cases t.query <;> rfl
  | some a =>
    obtain ⟨before, after, history, put, quiet, alone, station⟩ := run_of_arrival arrived
    rw [List.filterMap_cons_some arrived]
    have asks := a.asks_run
    have first : History.deletions before = [] := by
      rw [History.deletions, put]
      rfl
    have last : History.deletions after = [] := by
      rw [History.deletions, quiet]
      rfl
    have made := (History.MadeOf.quiet first).append (asks.made.append (.quiet last))
    rw [List.nil_append, List.append_nil, ← history] at made
    rw [answers alone] at asks
    refine ⟨made, ?_, asks.each⟩
    rw [station]
    exact asks.after

theorem Turn.asks_runAll [Channel σ] (qs : List Query) (now : Nat) (s : Station σ) :
    (runAll qs now s).Asks s.terms.answers
      (((begunAll qs now s).filterMap BegunTurn.arrival?).filter Arrival.asks) := by
  induction qs generalizing now s with
  | nil => exact .of_quiet rfl rfl
  | cons q qs ih =>
    rw [begunAll, ← List.singleton_append, List.filterMap_append, List.filter_append]
    exact (⟨q, now, s⟩ : BegunTurn σ).asks_run.andThen (ih _ _)

/-- An occasion asks about what arrives upon it. -/
theorem Occasion.asks_run [Channel σ] (o : Occasion) (now : Nat) (s : Station σ) :
    (o.run now s).Asks s.terms.answers ((o.arrivals now s).filter Arrival.asks) := by
  cases o with
  | lull l => exact .of_quiet rfl rfl
  | poll =>
    rw [run, Tick.run_eq_runAll]
    exact Turn.asks_runAll _ now s
  | arrival q payload => exact (⟨q, payload, now, s⟩ : Arrival σ).asks_run

/-- A session asks about what arrives in it. -/
theorem Session.asks_run [Channel σ] (os : List Occasion) (now : Nat) (s : Station σ) :
    (run os now s).Asks s.terms.answers ((arrivals os now s).filter Arrival.asks) := by
  induction os generalizing now s with
  | nil => exact .of_quiet rfl rfl
  | cons o os ih =>
    rw [arrivals, gather, List.filter_append]
    exact (o.asks_run now s).andThen (ih _ _)

/-- **Every deletion is answered once, and as the user answers.**  The questions to the user and the
reports in a session are one pair for each notification about a deletion that arrives, in their
order: the pair has the id of its payload, and the deletion is reported as cancelled exactly when
the next of the user's answers declines it.  The session is made of these and of stretches without
a question or report, so no report is made again; one that fails is logged, with one warning.  The
effects are the same on any other channel, as long as the station is told the same about the daemon
and by it; in particular they are the same however the reports end, if the channel goes on as it
does. -/
theorem deletion_replies [Channel σ] (os : List Occasion) (now : Nat) (s : Station σ) :
    let session := Session.run os now s
    let asked := (Session.arrivals os now s).filter Arrival.asks
    session.history.effects.filter Effect.concernsDeletion =
        asked.flatMap (fun a =>
          [.prompt a.wording.1 a.wording.2, .confirmation a.id (!a.answer)]) ∧
      (∀ (i : Nat) (h : i < asked.length),
        asked[i].answer = (s.answers[i]?.map Timed.value).getD false) ∧
      session.history.MadeOf asked ∧
      (∀ a ∈ asked, a.run.history.outputs =
        [.effect (.prompt a.wording.1 a.wording.2), .effect (.confirmation a.id (!a.answer))] ++
          a.report.notices.map .notice ++
          match a.report.result with
          | .ok _ => []
          | .error f => [.notice (.confirmationFailed a.id (!a.answer) f)]) ∧
      (∀ a ∈ asked, a.run.history.log =
        a.report.notices.map Notice.entry ++
          match a.report.result with
          | .ok _ => []
          | .error f =>
            [⟨.warn, "Failed to send delete confirmation",
              [("confirmation", .text a.id), ("cancelled", .flag (!a.answer)),
               ("error", .text f.message)]⟩]) ∧
      (∀ {σ' : Type} [Channel σ'] (now' : Nat) (s' : Station σ'), s'.alone = s.alone →
        (Session.turns os now' s').map BegunTurn.heard =
          (Session.turns os now s).map BegunTurn.heard →
        (Session.run os now' s').history.effects = session.history.effects) ∧
      ∀ outcomes : List (Except Failure Unit),
        (Session.run os now (s.ruled outcomes)).history.effects = session.history.effects := by
  intro session asked
  have asks := Session.asks_run os now s
  have all : ∀ a ∈ asked, a.asks = true := by
    intro a mem
    exact List.of_mem_filter mem
  have decided : ∀ {σ' : Type} [Channel σ'] (now' : Nat) (s' : Station σ'), s'.alone = s.alone →
      (Session.turns os now' s').map BegunTurn.heard =
        (Session.turns os now s).map BegunTurn.heard →
      (Session.run os now' s').history.effects = session.history.effects := by
    intro σ' _ now' s' alone heard
    exact (Session.run_alike os now' now alone heard).effects
  refine ⟨asks.made.deletions_eq all, ?_, asks.made, ?_, ?_, decided, ?_⟩
  · intro i h
    have turn := asks.each i h
    rw [Arrival.answer, ← Terms.answer_terms, Terms.answer, turn]
    simp [Station.terms, List.headD_eq_head?_getD]
  · intro a mem
    exact a.outputs_of_asks (all a mem)
  · intro a mem
    exact a.log_of_asks (all a mem)
  · intro outcomes
    exact decided now (s.ruled outcomes) rfl (Session.heard_ruled os now (s.ruled outcomes))

end DaemonWatch
