/-
  Reports that end otherwise.

  How the report of an answer ends is told by the channel, which goes on from there.  To speak of
  other ends for the same course of things, the ends are taken from the channel and given
  beforehand.

  1. **Ruling over reports** (`Ruled`): a channel whose reports end as given, while it goes on as it
     does: it says the same about the daemon, and its calls take as long.

  2. **The crux (`Ruled.lockstep_isKept`)**: a station over the ruled channel goes in lockstep with
     the station over the channel itself.  No output has to be the same, as the end of a report may
     be logged in one way or the other; what counts are the times and the stations.

  3. **Result** (`Session.heard_ruled`): both stations are told the same all along, so by
     `Session.run_alike` their effects are the same.
-/
import DaemonWatch.Proofs.Lockstep

namespace DaemonWatch

variable {σ : Type}

/-! ## Ruling over reports -/

/-- A channel whose reports end as given, one after the other, and then with success.  Everything
else is as with the channel inside, which the reports have reached all the same. -/
structure Ruled (σ : Type) where
  channel : σ
  outcomes : List (Except Failure Unit)

instance [Channel σ] : Channel (Ruled σ) where
  connected now r :=
    let (answer, channel) := Channel.connected now r.channel
    (answer, { r with channel := channel })
  query q now r :=
    let (reply, channel) := Channel.query q now r.channel
    (reply, { r with channel := channel })
  confirm id cancelled now r :=
    let (reply, channel) := Channel.confirm id cancelled now r.channel
    ({ reply with result := r.outcomes.headD (.ok ()) }, ⟨channel, r.outcomes.tail⟩)

namespace Station

/-- The station over its channel with reports that end as given. -/
def ruled (s : Station σ) (outcomes : List (Except Failure Unit)) : Station (Ruled σ) :=
  s.seen fun c => ⟨c, outcomes⟩

/-- The station over the channel itself. -/
def unruled (r : Station (Ruled σ)) : Station σ := r.seen Ruled.channel

end Station

/-! ## Keeping step -/

/-- A station over a ruled channel goes with the station over the channel itself.  The end of a
report may be logged in one way or the other, so no output has to be the same. -/
def Ruled.lockstep (σ : Type) : Lockstep (Ruled σ) σ := ⟨fun _ => false, fun r s => r.unruled = s⟩

/-- How a report ends is the last of it: the errand is over then, and nothing that a station does
later looks at the outcome.  All else is done alike because the channel is asked the same. -/
theorem Ruled.lockstep_isKept [Channel σ] : (lockstep σ).IsKept where
  preferences related := related ▸ rfl
  clock related := related ▸ rfl
  remembering related e := congrArg (Station.remembering · e) related
  connected related now := by
    subst related
    exact ⟨rfl, rfl⟩
  query related q now := by
    subst related
    exact ⟨rfl, rfl⟩
  followUp := by
    rintro r _ rfl f now
    have begun : (f.begin r).map Station.unruled = f.begin r.unruled :=
      FollowUp.begin_seen Ruled.channel r f
    have silent (h : History) : h.counted (fun _ => false) = [] :=
      List.filter_eq_nil_iff.mpr fun _ _ => Bool.false_ne_true
    refine ⟨(silent _).trans (silent _).symm, ?_, ?_⟩
    · show (f.run now r).station.unruled = (f.run now r.unruled).station
      simp only [FollowUp.run, ← begun, Step.map]
      rcases (f.begin r).next with _ | ⟨delay, errand⟩
      · rfl
      · cases errand <;> rfl
    · simp only [FollowUp.run, ← begun, Step.map]
      rcases (f.begin r).next with _ | ⟨delay, errand⟩
      · rfl
      · cases errand <;> rfl

/-! ## What is told -/

section Heard

variable [Channel σ]

theorem Turn.heard_begunAll (qs : List Query) (now : Nat) (r : Station (Ruled σ)) :
    (begunAll qs now r).map BegunTurn.heard =
      (begunAll qs now r.unruled).map BegunTurn.heard := by
  induction qs generalizing now r with
  | nil => rfl
  | cons q qs ih =>
    have step := Ruled.lockstep_isKept.turn q now (s := r) rfl
    have station : (run q now r).station.unruled = (run q now r.unruled).station := step.station
    simp only [begunAll, List.map_cons, ih, station, step.time]
    rfl

theorem Occasion.heard_turns (o : Occasion) (now : Nat) (r : Station (Ruled σ)) :
    (o.turns now r).map BegunTurn.heard = (o.turns now r.unruled).map BegunTurn.heard := by
  cases o with
  | poll => exact Turn.heard_begunAll _ now r
  | lull | arrival => rfl

/-- **However the reports end, the station is told the same** as long as the channel goes on as it
does.  The outcome of a report is logged, and no later step looks at it. -/
theorem Session.heard_ruled (os : List Occasion) (now : Nat) (r : Station (Ruled σ)) :
    (turns os now r).map BegunTurn.heard = (turns os now r.unruled).map BegunTurn.heard := by
  induction os generalizing now r with
  | nil => rfl
  | cons o os ih =>
    have step := Ruled.lockstep_isKept.occasion o now (s := r) rfl fun _ _ => rfl
    have station : (o.run now r).station.unruled = (o.run now r.unruled).station := step.station
    simp only [turns, gather, List.map_append, o.heard_turns] at ih ⊢
    rw [ih, station, step.time]

end Heard

end DaemonWatch
