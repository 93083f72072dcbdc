/-
  What the settings, the accounts and the link commands have a say in.

  One setting decides whether finished syncs and uploads are announced, another whether errors about
  paths that Windows cannot hold are shown; the accounts and the link commands decide on link
  commands.  Each of them decides nothing else, not even later on.

  1. **Events in turn** (`Event.handleAll`), with what is done upon each (`Event.doneUponEach`).

  2. **On the terms alone** (`Terms.deedsEach`).  What is done is decided by the terms, which events
     change only by taking an answer.  So many events can be told without any run
     (`Terms.deedsEach_terms`), and what is to be compared are two ways to change the terms at
     first.

  3. **The crux (`Terms.deedsEach_alike`)**: if events leave both changes alone, and what is done
     upon one event looks the same under both, then what is done upon all events does.  This is the
     one induction; what remains is to compare single events.

  4. **Single events.**  With a setting the other way certain messages are left out, and nothing
     else (`shows_announcing`, `shows_hiding`); with other accounts or link commands the link
     commands differ, and nothing else (`deeds_withLinks`).  `settings_separate` says so of many
     events.
-/
import DaemonWatch.Proofs.Handling

namespace DaemonWatch

variable {σ : Type}

/-! ## Events in turn -/

namespace Event

variable [Channel σ]

/-- Handles events in turn, each some time after the one before. -/
def handleAll : List (Nat × Event) → Nat → Station σ → Run σ
  | [], now, s => ⟨[], s, now⟩
  | (wait, e) :: es, now, s => (e.handle (now + wait) s).andThen (handleAll es)

/-- The events with what is done upon each. -/
def doneUponEach : List (Nat × Event) → Nat → Station σ → List (Event × List Output)
  | [], _, _ => []
  | (wait, e) :: es, now, s =>
    let run := e.handle (now + wait) s
    (e, Output.deeds run.history.outputs) :: doneUponEach es run.time run.station

/-- All that is done is what is done upon each event, in turn. -/
theorem deeds_handleAll (es : List (Nat × Event)) (now : Nat) (s : Station σ) :
    Output.deeds (handleAll es now s).history.outputs =
      (doneUponEach es now s).flatMap fun d => d.2 := by
  induction es generalizing now s with
  | nil => rfl
  | cons e es ih => simp [handleAll, doneUponEach, Run.andThen, ih]

end Event

/-! ### On the terms alone -/

namespace Terms

/-- Events with what is done upon each. -/
def deedsEach (t : Terms) : List Event → List (Event × List Output)
  | [] => []
  | e :: es => (e, e.deeds t) :: (t.after e).deedsEach es

/-- What is done upon each event is decided by the terms at first. -/
theorem deedsEach_terms [Channel σ] (es : List (Nat × Event)) (now : Nat) (s : Station σ) :
    Event.doneUponEach es now s = s.terms.deedsEach (es.map fun e => e.2) := by
  induction es generalizing now s with
  | nil => rfl
  | cons e es ih =>
    simp only [Event.doneUponEach, List.map_cons, deedsEach, Event.deeds_handle, ih,
      Event.terms_handle]

/-- What is done upon an event is done on terms that are changed alike, if events leave the change
alone. -/
theorem exists_of_mem_deedsEach {a : Terms → Terms} (after_a : ∀ t e, (a t).after e = a (t.after e))
    {t : Terms} {es : List Event} {d : Event × List Output} (mem : d ∈ (a t).deedsEach es) :
    ∃ u, d.2 = d.1.deeds (a u) := by
  induction es generalizing t with
  | nil => cases mem
  | cons e es ih =>
    rw [deedsEach, after_a, List.mem_cons] at mem
    rcases mem with rfl | later
    · exact ⟨t, rfl⟩
    · exact ih later

/-- Two changes of the terms, which events leave alone, and under which what is done upon an event
looks the same, look the same for all events. -/
theorem deedsEach_alike {a b : Terms → Terms} {f g : Event × List Output → Event × List Output}
    (after_a : ∀ t e, (a t).after e = a (t.after e)) (after_b : ∀ t e, (b t).after e = b (t.after e))
    (alike : ∀ t e, f (e, e.deeds (b t)) = g (e, e.deeds (a t))) (t : Terms) (es : List Event) :
    ((b t).deedsEach es).map f = ((a t).deedsEach es).map g := by
  induction es generalizing t with
  | nil => rfl
  | cons e es ih => simp only [deedsEach, List.map_cons, after_a, after_b, alike, ih]

end Terms

/-! ## Changes -/

/-- The same settings, but finished syncs and uploads are announced, or not. -/
def Preferences.announcing (on : Bool) (p : Preferences) : Preferences := { p with announceSyncs := on }

/-- The same settings, but errors about paths that Windows cannot hold are hidden, or not. -/
def Preferences.hiding (on : Bool) (p : Preferences) : Preferences := { p with hideWindowsPaths := on }

/-- The terms with other settings. -/
def Terms.prefer (change : Preferences → Preferences) (t : Terms) : Terms :=
  { t with preferences := change t.preferences }

/-- The terms with other accounts, and with or without link commands. -/
def Terms.withLinks (book : AccountBook) (hasLinks : Bool) (t : Terms) : Terms :=
  { t with book := book, hasLinks := hasLinks }

theorem Terms.after_prefer (change : Preferences → Preferences) (t : Terms) (e : Event) :
    (t.prefer change).after e = (t.after e).prefer change := by
  unfold after
  split <;> rfl

theorem Terms.after_withLinks (book : AccountBook) (hasLinks : Bool) (t : Terms) (e : Event) :
    (t.withLinks book hasLinks).after e = (t.after e).withLinks book hasLinks := by
  unfold after
  split <;> rfl

/-! ## What a setting decides -/

namespace Event

/-- The message of a finished sync or of an upload. -/
def syncMessage? : Event → Option TrayMessage
  | notification (.syncDone c) =>
    some (Notification.commitMessage (Wording.synchronizedTitle c.repoName) c)
  | notification (.multipartUpload c) =>
    some (Notification.commitMessage (Wording.uploadingTitle c.repoName) c)
  | _ => none

/-- The message of a sync error about a path that Windows cannot hold, which is error 25. -/
def windowsPathMessage? : Event → Option TrayMessage
  | notification (.syncError c errorId path description) =>
    if errorId = 25 then some (Notification.errorMessage c path description) else none
  | _ => none

/-- An event and what is done upon it, which is nothing if the event has a certain message. -/
def hushed (message? : Event → Option TrayMessage) (d : Event × List Output) :
    Event × List Output :=
  (d.1, if (message? d.1).isSome then [] else d.2)

/-- An event and what is done upon it besides link commands. -/
def apartFromLinks (d : Event × List Output) : Event × List Output :=
  (d.1, d.2.filter fun o => match o with
    | .effect (.link ..) => false
    | _ => true)

/-- That between two settings nothing differs but whether the messages of certain events are shown.
With the setting on such an event shows its message and no more, with it off nothing, and all other
events lead to the same. -/
structure Shows (on off : Preferences → Preferences) (message? : Event → Option TrayMessage) :
    Prop where
  shown : ∀ (t : Terms) (e : Event) (m : TrayMessage), message? e = some m →
    e.deeds (t.prefer on) = [.effect (.message m)]
  hushed : ∀ (t : Terms) (e : Event),
    hushed message? (e, e.deeds (t.prefer on)) = (e, e.deeds (t.prefer off))

/-- The messages of syncs and uploads are shown when they are to be announced. -/
theorem shows_announcing : Shows (.announcing true) (.announcing false) syncMessage? where
  shown t e m message := by
    cases e with
    | drive | status | errors => cases message
    | notification n => cases n <;> cases message <;> rfl
  hushed t e := by
    cases e with
    | drive | status | errors => rfl
    | notification n => cases n <;> rfl

/-- The messages about paths that Windows cannot hold are shown when they are not hidden. -/
theorem shows_hiding : Shows (.hiding false) (.hiding true) windowsPathMessage? where
  shown t e m message := by
    cases e with
    | drive | status | errors => cases message
    | notification n =>
      cases n with
      | syncError c errorId path description =>
        simp only [windowsPathMessage?, Option.ite_none_right_eq_some] at message
        obtain ⟨_, same⟩ := message
        cases same
        simp [deeds_syncError, Terms.prefer, Preferences.hiding]
      | _ => cases message
  hushed t e := by
    cases e with
    | drive | status | errors => rfl
    | notification n =>
      cases n with
      | syncError c errorId path description =>
        simp only [deeds_syncError, Event.hushed, windowsPathMessage?, Terms.prefer,
          Preferences.hiding]
        by_cases code : errorId = 25 <;> simp [code]
      | _ => rfl

/-- A setting that decides whether certain messages are shown decides just that for many events. -/
theorem Shows.deedsEach {on off : Preferences → Preferences}
    {message? : Event → Option TrayMessage} (shows : Shows on off message?) (t : Terms)
    (es : List Event) :
    (t.prefer off).deedsEach es = ((t.prefer on).deedsEach es).map (Event.hushed message?) ∧
      ∀ d ∈ (t.prefer on).deedsEach es, ∀ m, message? d.1 = some m →
        d.2 = [.effect (.message m)] := by
  constructor
  · have alike := Terms.deedsEach_alike (f := id) (Terms.after_prefer on) (Terms.after_prefer off)
      (fun t e => (shows.hushed t e).symm) t es
    rw [List.map_id] at alike
    exact alike
  · intro d mem m message
    obtain ⟨u, done⟩ := Terms.exists_of_mem_deedsEach (Terms.after_prefer on) mem
    exact done.trans (shows.shown u d.1 m message)

/-- Accounts and link commands decide on link commands alone. -/
theorem deeds_withLinks (book : AccountBook) (hasLinks : Bool) (t : Terms) (e : Event) :
    apartFromLinks (e, e.deeds (t.withLinks book hasLinks)) = apartFromLinks (e, e.deeds t) := by
  have preferences : (t.withLinks book hasLinks).preferences = t.preferences := rfl
  simp only [apartFromLinks, deeds, preferences, List.filter_append]
  cases (e.react t.preferences).followUp with
  | none => rfl
  | some f =>
    cases f with
    | askUser id text question => rfl
    | runLink request =>
      -- Whichever account there is, a link command is all that is done.
      simp only [FollowUp.deeds]
      cases (t.withLinks book hasLinks).accountFor? request <;>
        cases t.accountFor? request <;> rfl

end Event

/-! ## Settings and capabilities -/

/-- **Every setting and capability decides its own.**  All that is done for some events is what is
done upon each, in turn.  Between announcing syncs and not announcing them, nothing differs but that
the messages of finished syncs and of uploads are left out; between showing and hiding errors about
paths that Windows cannot hold, nothing differs but that their messages are left out; and whatever
the accounts are, whether there are link commands and how these end, all that is done besides link
commands is the same. -/
theorem settings_separate [Channel σ] (es : List (Nat × Event)) (now : Nat) (s : Station σ) :
    let upon := fun s : Station σ => Event.doneUponEach es now s
    let announced := upon { s with preferences := s.preferences.announcing true }
    let unannounced := upon { s with preferences := s.preferences.announcing false }
    let shown := upon { s with preferences := s.preferences.hiding false }
    let hidden := upon { s with preferences := s.preferences.hiding true }
    (∀ s, Output.deeds (Event.handleAll es now s).history.outputs = (upon s).flatMap fun d => d.2) ∧
    (unannounced = announced.map (Event.hushed Event.syncMessage?) ∧
      ∀ d ∈ announced, ∀ m, d.1.syncMessage? = some m → d.2 = [.effect (.message m)]) ∧
    (hidden = shown.map (Event.hushed Event.windowsPathMessage?) ∧
      ∀ d ∈ shown, ∀ m, d.1.windowsPathMessage? = some m → d.2 = [.effect (.message m)]) ∧
    ∀ book links, (upon { s with book := book, links := links }).map Event.apartFromLinks =
      (upon s).map Event.apartFromLinks := by
  intro upon announced unannounced shown hidden
  have terms : ∀ s : Station σ, upon s = s.terms.deedsEach (es.map fun e => e.2) :=
    Terms.deedsEach_terms es now
  refine ⟨Event.deeds_handleAll es now, ?_, ?_, ?_⟩
  · simp only [announced, unannounced, terms]
    exact Event.shows_announcing.deedsEach s.terms _
  · simp only [shown, hidden, terms]
    exact Event.shows_hiding.deedsEach s.terms _
  · intro book links
    rw [terms, terms]
    exact Terms.deedsEach_alike (a := id) (fun _ _ => rfl)
      (Terms.after_withLinks book links.isSome) (Event.deeds_withLinks book links.isSome) s.terms _

end DaemonWatch
