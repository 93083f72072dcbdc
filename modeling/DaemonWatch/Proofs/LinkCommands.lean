/-
  Link commands.

  A payload that asks for a link is answered by one call of one command, or by none.

  1. **Specification** (`Arrival.Calls`).  Which command it is, and with what, is in the payload
     (`LinkCall.IsAskedBy`).  Whether it is called is decided by the accounts: the first one listed
     for the domain has to be complete.  Both are said without requests, books of accounts or
     errands.

  2. **Bridge to the requests** (`Arrival.calls_iff`).  The account that a request may use is the
     first one for its domain, if that is complete (`Terms.accountFor?_eq_some_iff`).  This holds
     whatever the rule of the book, since what the book yields is checked once more
     (`AccountBook.filter_find?_eq_some_iff`).

  3. **One arrival.**  An arrival that asks for a link is nothing but that
     (`Arrival.run_of_action`), and the crux is what a call comes to (`Arrival.history_of_calls`):
     the command is called, and at its end what it logs itself is logged, and then its failure, if
     it has failed.  Any other arrival calls nothing, because only the notification of an action
     leaves a link command to do (`Event.eq_action_of_runLink`, `Arrival.linkCalls_of_other`).

  4. **A session** calls what its arrivals call, in their order (`Session.filterMap_effects`), and
     how the commands end makes no other difference to it (`linkOutcomes_isKept`).  `link_commands`
     says all of this.
-/
import DaemonWatch.Proofs.Accounts
import DaemonWatch.Proofs.LinkOutcomes
import DaemonWatch.Proofs.NotificationFields
import DaemonWatch.Rehearsal

namespace DaemonWatch

variable {σ : Type}

/-! ## What is called -/

/-- That a payload asks for a call with an account: its type names the command, and the library, the
path and, for an internal link alone, whether the path is a folder are in its fields. -/
inductive LinkCall.IsAskedBy (payload : Json) (account : Account) : LinkCall → Prop
  | shareLink (kind : Payload.text payload "type" = "action.get_share_link") :
      IsAskedBy payload account
        (.shareLink account (Payload.text payload "repo_id") (Payload.text payload "repo_path"))
  | internalLink (kind : Payload.text payload "type" = "action.get_internal_link") :
      IsAskedBy payload account
        (.internalLink account (Payload.text payload "repo_id") (Payload.text payload "repo_path")
          (Payload.flag payload "is_dir"))
  | uploadLink (kind : Payload.text payload "type" = "action.get_upload_link") :
      IsAskedBy payload account
        (.uploadLink account (Payload.text payload "repo_id") (Payload.text payload "repo_path"))
  | fileHistory (kind : Payload.text payload "type" = "action.view_file_history") :
      IsAskedBy payload account
        (.fileHistory account (Payload.text payload "repo_id") (Payload.text payload "repo_path"))

/-- The action that a command is for. -/
def LinkCall.action : LinkCall → Action
  | shareLink .. => .shareLink
  | internalLink .. => .internalLink
  | uploadLink .. => .uploadLink
  | fileHistory .. => .fileHistory

/-- The request of a payload whose type asks for an action. -/
def ActionRequest.ofPayload (action : Action) (payload : Json) : ActionRequest :=
  { action := action
    repoId := Payload.text payload "repo_id"
    path := Payload.text payload "repo_path"
    domainId := Payload.text payload "domain_id"
    isDir := Payload.flag payload "is_dir" }

/-- The calls of link commands, in their order. -/
def History.linkCalls (h : History) : List LinkCall := h.effects.filterMap Effect.linkCall?

/-- That an arrival calls a command with an account: it is a notification, there are link commands,
the account is the first one listed for the domain that the payload names, the account is complete,
and the payload asks for the call. -/
structure Arrival.Calls (a : Arrival σ) (account : Account) (call : LinkCall) : Prop where
  notification : a.query = .notification
  present : a.station.links ≠ none
  first : Account.IsFirstFor a.station.book.accounts (Payload.text a.payload "domain_id") account
  complete : account.IsComplete
  asked : call.IsAskedBy a.payload account

/-! ### A call and its request -/

theorem ActionRequest.action_call (r : ActionRequest) (account : Account) :
    (r.call account).action = r.action := by
  unfold call
  rcases r.action with _ | _ | _ | _ <;> rfl

/-- A payload asks for a call when its type is that of an action, and the call is the one of its
request. -/
theorem LinkCall.isAskedBy_iff {payload : Json} {account : Account} {call : LinkCall} :
    call.IsAskedBy payload account ↔
      ∃ action : Action, Payload.text payload "type" = action.kind ∧
        (ActionRequest.ofPayload action payload).call account = call := by
  constructor
  · rintro (kind | kind | kind | kind)
    · exact ⟨.shareLink, kind, rfl⟩
    · exact ⟨.internalLink, kind, rfl⟩
    · exact ⟨.uploadLink, kind, rfl⟩
    · exact ⟨.fileHistory, kind, rfl⟩
  · rintro ⟨action, kind, rfl⟩
    rcases action with _ | _ | _ | _
    · exact .shareLink kind
    · exact .internalLink kind
    · exact .uploadLink kind
    · exact .fileHistory kind

/-- A request may use an account when there are link commands and the account is the first one
listed for its domain, and complete. -/
theorem Terms.accountFor?_eq_some_iff (t : Terms) (r : ActionRequest) (account : Account) :
    t.accountFor? r = some account ↔
      t.hasLinks = true ∧ Account.IsFirstFor t.book.accounts r.domainId account ∧
        account.IsComplete := by
  unfold accountFor?
  rw [Option.ite_none_right_eq_some, AccountBook.filter_find?_eq_some_iff]

/-! ## What an arrival comes to -/

namespace Arrival

/-- An arrival calls a command just when it is a notification whose type is that of an action, and
its request may use an account. -/
theorem calls_iff {a : Arrival σ} {account : Account} {call : LinkCall} :
    a.Calls account call ↔
      a.query = .notification ∧ ∃ action : Action, a.kind = action.kind ∧
        a.station.terms.accountFor? (.ofPayload action a.payload) = some account ∧
          (ActionRequest.ofPayload action a.payload).call account = call := by
  simp only [Terms.accountFor?_eq_some_iff]
  have present : a.station.terms.hasLinks = true ↔ a.station.links ≠ none := by
    show a.station.links.isSome = true ↔ _
    rw [Option.isSome_iff_ne_none]
  constructor
  · intro calls
    obtain ⟨action, kind, same⟩ := LinkCall.isAskedBy_iff.mp calls.asked
    exact ⟨calls.notification, action, kind,
      ⟨present.mpr calls.present, calls.first, calls.complete⟩, same⟩
  · rintro ⟨notification, action, kind, ⟨links, first, complete⟩, same⟩
    exact ⟨notification, present.mp links, first, complete,
      LinkCall.isAskedBy_iff.mpr ⟨action, kind, same⟩⟩

variable [Channel σ]

/-- An arrival that asks for a link is nothing but that. -/
theorem run_of_action {a : Arrival σ} (notification : a.query = .notification) {action : Action}
    (kind : a.kind = action.kind) :
    a.run = (FollowUp.runLink (.ofPayload action a.payload)).run a.start a.station := by
  obtain ⟨q, payload, now, s⟩ := a
  obtain rfl : q = .notification := notification
  have read : Notification.ofPayload payload = .action (.ofPayload action payload) :=
    (Notification.Reads.action action kind).eq
  have named : Payload.text payload "type" ≠ "" := by
    show Arrival.kind ⟨.notification, payload, now, s⟩ ≠ ""
    rw [kind]
    rcases action with _ | _ | _ | _ <;> decide
  obtain ⟨members, rfl⟩ := Payload.exists_of_text_ne named
  show Event.deliver .notification (.object members) now s = _
  rw [Event.deliver_notification, Event.handle_eq, read]
  rfl

end Arrival

/-- What an event leaves to do is a link command only when it is a notification that asks for it. -/
theorem Event.eq_action_of_runLink {p : Preferences} {e : Event} {r : ActionRequest}
    (left : (e.react p).followUp = some (.runLink r)) : e = .notification (.action r) := by
  rcases e with e | n | status | es
  · cases left
  · cases n with
    | syncDone | multipartUpload | syncError =>
      simp only [react, Notification.react] at left
      split at left <;> cases left
    | action request =>
      cases left
      rfl
    | _ => cases left
  · cases left
  · cases left

/-- An event that is no such notification calls nothing. -/
theorem Event.linkCalls_handle [Channel σ] (now : Nat) (s : Station σ) {e : Event}
    (other : ∀ r, e ≠ .notification (.action r)) : (e.handle now s).history.linkCalls = [] := by
  have hidden : ∀ x : Effect, x.isShow = true → x.linkCall? = none := by
    intro x shown
    cases x <;> first | rfl | cases shown
  show List.filterMap _ _ = []
  rw [filterMap_handle hidden]
  rcases left : (e.react s.preferences).followUp with _ | ⟨id, text, question⟩ | r
  · rfl
  · rfl
  · exact absurd (eq_action_of_runLink left) (other r)

namespace Arrival

variable [Channel σ]

/-- An arrival that does not ask for a link calls nothing.  What it is decoded to is no action,
since a notification keeps the type of its payload, and only an action is followed up by a call. -/
theorem linkCalls_of_other {a : Arrival σ}
    (other : ∀ action : Action, ¬(a.query = .notification ∧ a.kind = action.kind)) :
    a.run.history.linkCalls = [] := by
  obtain ⟨q, payload, now, s⟩ := a
  have silent (notices : List Notice) :
      History.linkCalls (.stamped now (notices.map .notice)) = [] := by
    rw [History.linkCalls, History.effects_stamped, Output.effects_notices]
    rfl
  unfold run Event.deliver
  rcases Event.decode_cases s.clock q payload with
    ⟨notices, message, -, decoded⟩ | ⟨notices, e, rfl, decoded⟩
  · simp only [decoded]
    exact silent notices
  · have quiet : (e.handle now s).history.linkCalls = [] := by
      apply Event.linkCalls_handle
      rintro r rfl
      obtain ⟨notification, read⟩ := Event.notification_of_decode decoded
      have type := (Notification.reads_ofPayload payload).kind_eq
      rw [← read] at type
      exact other r.action ⟨notification, type.symm⟩
    simp only [decoded]
    show List.filterMap _ (History.effects (_ ++ _)) = []
    rw [History.effects_append, List.filterMap_append]
    exact List.append_eq_nil_iff.mpr ⟨silent notices, quiet⟩

/-- How the command of a call ends. -/
def outcome (a : Arrival σ) (call : LinkCall) : Reply Unit :=
  (a.station.takeLinkOutcome call.action).1

/-- **A call** is all that its arrival comes to: the command is called, and when it has ended, what
it logs itself is logged, and then, if it has failed, that. -/
theorem history_of_calls {a : Arrival σ} {account : Account} {call : LinkCall}
    (calls : a.Calls account call) :
    ∃ request : ActionRequest, request.call account = call ∧
      a.run.history =
        .stamped a.start [.effect (.link request account)] ++
          .stamped (a.start + (a.outcome call).delay)
            ((a.outcome call).notices.map .notice ++
              match (a.outcome call).result with
              | .ok _ => []
              | .error f =>
                [.notice (.linkFailed call.action (Payload.text a.payload "repo_id")
                  (Payload.text a.payload "repo_path") f)]) := by
  obtain ⟨notification, action, kind, found, rfl⟩ := calls_iff.mp calls
  refine ⟨.ofPayload action a.payload, rfl, ?_⟩
  rw [run_of_action notification kind, FollowUp.run_runLink, found, outcome,
    ActionRequest.action_call]
  show History.stamped _ _ ++ History.stamped _ (List.map _ (Errand.linkNotices _ _)) = _
  unfold Errand.linkNotices Reply.failure?
  rw [List.map_append]
  rcases (a.station.takeLinkOutcome (ActionRequest.ofPayload action a.payload).action).1.result
    with f | _
  · rfl
  · rfl

/-- The command of a call is the only one that its arrival calls. -/
theorem linkCalls_of_calls {a : Arrival σ} {account : Account} {call : LinkCall}
    (calls : a.Calls account call) : a.run.history.linkCalls = [call] := by
  obtain ⟨request, rfl, history⟩ := history_of_calls calls
  unfold History.linkCalls
  rw [history, History.effects_append, History.effects_stamped, History.effects_stamped,
    Output.effects_append, Output.effects_notices]
  rcases (a.outcome (request.call account)).result with f | _
  · rfl
  · rfl

/-- An arrival without a call calls nothing. -/
theorem linkCalls_of_not_calls {a : Arrival σ} (none : ∀ account call, ¬a.Calls account call) :
    a.run.history.linkCalls = [] := by
  by_cases asks : ∃ action : Action, a.query = .notification ∧ a.kind = action.kind
  · obtain ⟨action, notification, kind⟩ := asks
    rw [run_of_action notification kind, FollowUp.run_runLink]
    rcases found : a.station.terms.accountFor? (.ofPayload action a.payload) with _ | account
    · rfl
    · exact absurd (calls_iff.mpr ⟨notification, action, kind, found, rfl⟩) (none account _)
  · exact linkCalls_of_other (not_exists.mp asks)

/-- What is logged upon a call: what the command logs itself, and, if it has failed, one warning. -/
theorem log_of_calls {a : Arrival σ} {account : Account} {call : LinkCall}
    (calls : a.Calls account call) :
    a.run.history.log =
      (a.outcome call).notices.map Notice.entry ++
        match (a.outcome call).result with
        | .ok _ => []
        | .error f =>
          [⟨.warn, "Link command failed",
            [("kind", .text a.kind), ("repo", .text (Payload.text a.payload "repo_id")),
             ("path", .text (Payload.text a.payload "repo_path")),
             ("error", .text f.message)]⟩] := by
  have named : call.action.kind = a.kind := by
    obtain ⟨-, action, kind, -, rfl⟩ := calls_iff.mp calls
    rw [ActionRequest.action_call]
    exact kind.symm
  obtain ⟨request, -, history⟩ := history_of_calls calls
  unfold History.log
  rw [history, History.outputs_append, History.outputs_stamped, History.outputs_stamped,
    Output.notices_append, Output.notices_append, Output.notices_notices, List.map_append,
    List.map_append, ← named]
  rcases (a.outcome call).result with f | _
  · rfl
  · rfl

end Arrival

/-! ## What a session comes to -/

/-- **Link commands are called for the right account, and only then.**  The commands that a session
calls are those of the payloads that arrive, in their order.  Such a payload calls one command or
none, and it calls one exactly when it is a notification that asks for it, there are link commands,
and the first account listed for its domain is complete; then it is the command of its type, with
that account and with what is in its fields.  If the command fails, one warning is logged.  Else
nothing depends on how commands end: with other ends, as long as they take as long and log the same
themselves, the session gives off the same at the same times but for these warnings, and ends at
the same time on the same station but for the ends to come. -/
theorem link_commands [Channel σ] (os : List Occasion) (now : Nat) (s : Station σ) :
    let session := Session.run os now s
    session.history.linkCalls =
        (Session.arrivals os now s).flatMap (fun a => a.run.history.linkCalls) ∧
      (∀ a : Arrival σ,
        a.run.history.linkCalls = [] ∨ ∃ call, a.run.history.linkCalls = [call]) ∧
      (∀ (a : Arrival σ) (call : LinkCall),
        a.run.history.linkCalls = [call] ↔ ∃ account, a.Calls account call) ∧
      (∀ (a : Arrival σ) (account : Account) (call : LinkCall), a.Calls account call →
        let ended := a.outcome call
        (∃ request : ActionRequest, request.call account = call ∧
          a.run.history =
            .stamped a.start [.effect (.link request account)] ++
              .stamped (a.start + ended.delay)
                (ended.notices.map .notice ++
                  match ended.result with
                  | .ok _ => []
                  | .error f =>
                    [.notice (.linkFailed call.action (Payload.text a.payload "repo_id")
                      (Payload.text a.payload "repo_path") f)])) ∧
        a.run.history.log =
          ended.notices.map Notice.entry ++
            match ended.result with
            | .ok _ => []
            | .error f =>
              [⟨.warn, "Link command failed",
                [("kind", .text a.kind), ("repo", .text (Payload.text a.payload "repo_id")),
                 ("path", .text (Payload.text a.payload "repo_path")),
                 ("error", .text f.message)]⟩]) ∧
      (∀ s' : Station σ, s.succeeding = s'.succeeding → (∀ l, .lull l ∈ os → l.IsBlind) →
        let other := Session.run os now s'
        session.history.counted (fun o => !o.isLinkFailure) =
            other.history.counted (fun o => !o.isLinkFailure) ∧
          session.station.succeeding = other.station.succeeding ∧ session.time = other.time) := by
  intro session
  refine ⟨?_, ?_, ?_, ?_, ?_⟩
  · exact Session.filterMap_effects (fun _ => rfl) rfl os now s
  · intro a
    by_cases calls : ∃ account call, a.Calls account call
    · obtain ⟨account, call, calls⟩ := calls
      exact .inr ⟨call, a.linkCalls_of_calls calls⟩
    · push Not at calls
      exact .inl (a.linkCalls_of_not_calls calls)
  · intro a call
    constructor
    · intro called
      by_contra none
      by_cases calls : ∃ account other, a.Calls account other
      · obtain ⟨account, other, calls⟩ := calls
        rw [a.linkCalls_of_calls calls, List.singleton_inj] at called
        exact none ⟨account, called ▸ calls⟩
      · push Not at calls
        rw [a.linkCalls_of_not_calls calls] at called
        cases called
    · rintro ⟨account, calls⟩
      exact a.linkCalls_of_calls calls
  · intro a account call calls
    exact ⟨a.history_of_calls calls, a.log_of_calls calls⟩
  · intro s' same blind
    have step := linkOutcomes_isKept.session os now same fun l mem t t' related =>
      Station.meanwhile_succeeding (blind l mem) related
    exact ⟨step.history, step.station, step.time⟩

/-- Links are asked for twice, with some time between, and the first command fails.  That is logged,
and the second request is answered all the same and at the same time. -/
theorem link_commands_after_failure :
    let asking (kind : String) : Json := .object
      [("type", .text kind), ("repo_id", .text "r1"), ("repo_path", .text "/f"),
       ("domain_id", .text "d1"), ("is_dir", .bool true)]
    let alice : Account := ⟨"d1", "https://cloud.example.com", "alice"⟩
    let s : Station Rehearsal :=
      { channel := {}, book := ⟨.asListed, [alice]⟩
        links := some [fun _ => { result := .error (.command "no clipboard"), delay := 40 }] }
    let first : Arrival Rehearsal := ⟨.notification, asking "action.get_share_link", 0, s⟩
    let os : List Occasion :=
      [.arrival .notification (asking "action.get_share_link"), .lull (.idle 5),
       .arrival .notification (asking "action.get_internal_link")]
    let session := Session.run os 0 s
    first.Calls alice (.shareLink alice "r1" "/f") ∧
      first.run.history.log = [⟨.warn, "Link command failed",
        [("kind", .text "action.get_share_link"), ("repo", .text "r1"), ("path", .text "/f"),
         ("error", .text "Command failed: no clipboard")]⟩] ∧
      session.history.linkCalls =
        [.shareLink alice "r1" "/f", .internalLink alice "r1" "/f" true] ∧
      session.history.counted (fun o => !o.isLinkFailure) =
        (Session.run os 0 s.succeeding).history.counted (fun o => !o.isLinkFailure) ∧
      session.time = (Session.run os 0 s.succeeding).time := by
  intro asking alice s first os session
  have calls : first.Calls alice (.shareLink alice "r1" "/f") :=
    { notification := rfl
      present := Option.some_ne_none _
      first := ⟨rfl, [], [], rfl, fun _ no => absurd no List.not_mem_nil⟩
      complete := ⟨by decide, by decide⟩
      asked := .shareLink rfl }
  have blind : ∀ l, .lull l ∈ os → l.IsBlind := by
    intro l mem
    simp only [os, List.mem_cons, List.not_mem_nil, or_false, reduceCtorEq, false_or,
      Occasion.lull.injEq] at mem
    subst mem
    intro w w' same
    exact same
  obtain ⟨brought, -, -, each, others⟩ := link_commands os 0 s
  obtain ⟨history, -, time⟩ := others s.succeeding rfl blind
  refine ⟨calls, (each first alice _ calls).2, ?_, history, time⟩
  rw [brought]
  decide

end DaemonWatch
