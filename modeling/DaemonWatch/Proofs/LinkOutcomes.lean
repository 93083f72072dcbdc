/-
  Link commands that end otherwise.

  Two stations that differ only in how their link commands will end give off the same at the same
  times, except that a command which fails is said to have failed.

  1. **The difference** (`Station.succeeding`).  To compare two such stations, all commands are made
     to succeed on either; to make a command succeed leaves alone how long it takes and what it logs
     itself.  Stations that are then the same differ in the ends of commands and in nothing else
     (`Station.exists_of_succeeding`).

  2. **Lulls.**  What happens to a station in a lull is a function of what surrounds it, and the
     ends of the commands to come are part of that.  So a lull may look at them, and then anything
     goes; the lulls that do not are those with `Lull.IsBlind`.

  3. **The crux (`Station.takeLinkOutcome_alike`)**: the next command takes as long on one station
     as on the other and leaves stations that differ as before.  Apart from the failure itself what
     is logged at its end is the same (`counted_linkNotices`).

  4. **Result** (`linkOutcomes_isKept`): the lockstep is kept, and so by every session with blind
     lulls.
-/
import DaemonWatch.Proofs.Lockstep

namespace DaemonWatch

variable {σ : Type}

/-! ## Commands that succeed -/

/-- How the command would end if it succeeded. -/
def Reply.succeeding (r : Reply Unit) : Reply Unit := { r with result := .ok () }

/-- Link commands that end as given, but succeed. -/
def Action.succeeding (links : Option (List (Action → Reply Unit))) :
    Option (List (Action → Reply Unit)) :=
  links.map fun outcomes => outcomes.map fun outcome a => (outcome a).succeeding

/-- The station on which all link commands succeed. -/
def Station.succeeding (s : Station σ) : Station σ :=
  { s with links := Action.succeeding s.links }

/-- The surroundings in which all link commands succeed. -/
def Surroundings.succeeding (w : Surroundings) : Surroundings :=
  { w with links := Action.succeeding w.links }

/-- That a lull does not look at how link commands will end: it leads to the same where nothing else
is different. -/
def Lull.IsBlind (l : Lull) : Prop :=
  ∀ w w' : Surroundings, w.succeeding = w'.succeeding →
    (l.change w).succeeding = (l.change w').succeeding

namespace Station

/-- Stations with the same succeeding station differ in how link commands end, and in nothing
else. -/
theorem exists_of_succeeding {s s' : Station σ} (same : s.succeeding = s'.succeeding) :
    ∃ links, s' = { s with links := links } ∧
      Action.succeeding s.links = Action.succeeding links := by
  rcases s with ⟨channel, preferences, book, links, answers, clock, memo⟩
  rcases s' with ⟨channel', preferences', book', links', answers', clock', memo'⟩
  simp only [succeeding, Station.mk.injEq] at same
  obtain ⟨rfl, rfl, rfl, same, rfl, rfl, rfl⟩ := same
  exact ⟨links', rfl, same⟩

/-- That commands succeed has no say in what is done. -/
theorem terms_succeeding (s : Station σ) : s.succeeding.terms = s.terms := by
  have present : (Action.succeeding s.links).isSome = s.links.isSome := Option.isSome_map ..
  show Terms.mk s.preferences s.book (Action.succeeding s.links).isSome _ = _
  rw [present]
  rfl

/-- The next command ends as it would, but succeeds. -/
theorem takeLinkOutcome_succeeding (s : Station σ) (a : Action) :
    s.succeeding.takeLinkOutcome a =
      ((s.takeLinkOutcome a).1.succeeding, (s.takeLinkOutcome a).2.succeeding) := by
  rcases s with ⟨channel, preferences, book, links, answers, clock, memo⟩
  rcases links with _ | _ | ⟨outcome, rest⟩
  · rfl
  · rfl
  · rfl

/-- A lull that does not look at the ends of commands keeps that nothing else is different. -/
theorem meanwhile_succeeding {l : Lull} (blind : l.IsBlind) {s s' : Station σ}
    (same : s.succeeding = s'.succeeding) :
    (s.meanwhile l).succeeding = (s'.meanwhile l).succeeding := by
  obtain ⟨links, rfl, ends⟩ := exists_of_succeeding same
  have changed := blind s.surroundings { s with links := links }.surroundings
    (by simp only [Surroundings.succeeding, surroundings, ends])
  simp only [Surroundings.succeeding, Surroundings.mk.injEq] at changed
  obtain ⟨preferences, book, links, -, clock⟩ := changed
  simp only [succeeding, meanwhile, after, preferences, book, links, clock]

end Station

/-! ## In lockstep -/

/-- Whether the output tells that a link command has failed. -/
def Output.isLinkFailure : Output → Bool
  | .notice (.linkFailed ..) => true
  | _ => false

/-- Stations that differ in how link commands end; all outputs count that do not tell of it. -/
def linkOutcomes (σ : Type) : Lockstep σ σ :=
  ⟨fun o => !o.isLinkFailure, fun s s' => s.succeeding = s'.succeeding⟩

/-- Apart from a failure, what is logged at the end of a command is what the command logs itself. -/
theorem counted_linkNotices (now : Nat) (r : ActionRequest) (reply : Reply Unit) :
    (History.stamped now ((Errand.linkNotices r reply).map .notice)).counted
        (linkOutcomes σ).counts =
      (History.stamped now (reply.notices.map .notice)).counted (linkOutcomes σ).counts := by
  unfold Errand.linkNotices Reply.failure? History.stamped
  rcases reply.result with f | _
  · rw [List.map_append, List.map_append, History.counted_append]
    exact List.append_nil _
  · rw [Option.map_none, Option.toList_none, List.append_nil]

/-- The next command takes as long on one station as on the other, and leaves stations that differ
as before. -/
theorem Station.takeLinkOutcome_alike {s s' : Station σ} (same : s.succeeding = s'.succeeding)
    (a : Action) :
    let took := s.takeLinkOutcome a
    let took' := s'.takeLinkOutcome a
    took.1.delay = took'.1.delay ∧ took.1.notices = took'.1.notices ∧
      took.2.succeeding = took'.2.succeeding := by
  intro took took'
  have both : (took.1.succeeding, took.2.succeeding) = (took'.1.succeeding, took'.2.succeeding) := by
    rw [← takeLinkOutcome_succeeding, ← takeLinkOutcome_succeeding, same]
  obtain ⟨reply, station⟩ := Prod.mk.inj both
  have delay : took.1.succeeding.delay = took'.1.succeeding.delay := by rw [reply]
  have notices : took.1.succeeding.notices = took'.1.succeeding.notices := by rw [reply]
  exact ⟨delay, notices, station⟩

/-- **How a link command ends changes nothing** but what is said about it.  Two stations whose
commands end differently call the same commands and stay related; the warnings are the only outputs
that do not count. -/
theorem linkOutcomes_isKept [Channel σ] : (linkOutcomes σ).IsKept where
  preferences related := by
    obtain ⟨links, rfl, -⟩ := Station.exists_of_succeeding related
    rfl
  clock related := by
    obtain ⟨links, rfl, -⟩ := Station.exists_of_succeeding related
    rfl
  remembering related e := congrArg (Station.remembering · e) related
  connected related now := by
    obtain ⟨links, rfl, ends⟩ := Station.exists_of_succeeding related
    refine ⟨rfl, ?_⟩
    simp only [linkOutcomes, Station.succeeding, ends]
  query related q now := by
    obtain ⟨links, rfl, ends⟩ := Station.exists_of_succeeding related
    refine ⟨rfl, ?_⟩
    simp only [linkOutcomes, Station.succeeding, ends]
  followUp := by
    intro s s' related f now
    rcases f with ⟨id, text, question⟩ | request
    · -- The user's answer and the channel are the same.
      obtain ⟨links, rfl, ends⟩ := Station.exists_of_succeeding related
      rw [FollowUp.run_askUser, FollowUp.run_askUser]
      rcases s with ⟨channel, preferences, book, links', _ | ⟨answer, answers⟩, clock, memo⟩
      · refine ⟨rfl, ?_, rfl⟩
        simp only [linkOutcomes, Station.takeAnswer, Station.succeeding, ends]
      · refine ⟨rfl, ?_, rfl⟩
        simp only [linkOutcomes, Station.takeAnswer, Station.succeeding, ends]
    · have terms : s.terms = s'.terms := by
        rw [← s.terms_succeeding, ← s'.terms_succeeding, related]
      rw [FollowUp.run_runLink, FollowUp.run_runLink, terms]
      rcases s'.terms.accountFor? request with _ | account
      · exact .here related _ _
      · obtain ⟨delay, notices, station⟩ := Station.takeLinkOutcome_alike related request.action
        refine ⟨?_, station, ?_⟩
        · show History.counted _ (_ ++ _) = History.counted _ (_ ++ _)
          rw [History.counted_append, History.counted_append, counted_linkNotices,
            counted_linkNotices, delay, notices]
        · show now + _ = now + _
          rw [delay]

end DaemonWatch
