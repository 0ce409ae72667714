import SchedLatency.Runner
import SchedLatency.Proofs.Protocol

/-! Runs within a session. The changes of a session fix a runner's set-up and its runs leave only a
phase behind, which shows in one message of the next run. Main statement: `run_after_session`. -/
namespace SchedLatency

/-- The phase that a journal starts from shows in the first report of a change and nowhere else. -/
theorem messages_first_change (events : List Event) (entered : phases events ≠ [])
    (quiet : Quiet events) :
    ∃ before next after, (∀ m ∈ before, isPhaseChange m = false) ∧
      ∀ start, messages start events = before ++ phaseChange start next :: after := by
  induction events with
  | nil => exact absurd rfl entered
  | cons e events ih =>
    have rest : Quiet events := fun m member => quiet m (List.mem_cons_of_mem e member)
    cases e with
    | entered next => exact ⟨[], next, messages next events, by simp, fun start => rfl⟩
    | logged m =>
      obtain ⟨before, next, after, plain, same⟩ := ih entered rest
      have first : isPhaseChange m = false := quiet m List.mem_cons_self
      refine ⟨m :: before, next, after, List.forall_mem_cons.mpr ⟨first, plain⟩, fun start => ?_⟩
      simp [messages, same start]
    | asked | launchedLoad | launchedProbe | probeEnded | awaitedLoad =>
      obtain ⟨before, next, after, plain, same⟩ := ih entered rest
      exact ⟨before, next, after, plain, same⟩

theorem Course.phases_ne_nil {r : Runner} {host : Host} (course : Course r host events value) :
    phases events ≠ [] := by
  cases course <;> simp

def Step.change? : Step → Option Change
  | .change c => some c
  | .run _ => none

def changes (steps : List Step) : List Change := steps.filterMap Step.change?

namespace Runner

def renew (r : Runner) : Runner := { r with phase := .idle }

def amend (r : Runner) (cs : List Change) : Runner := cs.foldl change r

theorem renew_run (r : Runner) (host : Host) : (r.run host).2.renew = r.renew := rfl

theorem renew_change (r : Runner) (c : Change) : (r.change c).renew = r.renew.change c := by
  cases c <;> rfl

theorem phase_amend (r : Runner) (cs : List Change) : (r.amend cs).phase = r.phase := by
  induction cs generalizing r with
  | nil => rfl
  | cons c cs ih => exact (ih (r.change c)).trans (phase_change r c)

/-- The set-up after a session is what the changes alone would have made of it. -/
theorem renew_play (r : Runner) (steps : List Step) :
    (r.play steps).renew = r.renew.amend (changes steps) := by
  induction steps generalizing r with
  | nil => rfl
  | cons s steps ih =>
    rw [play_cons, ih]
    cases s with
    | change c => exact congrArg (amend · (changes steps)) (renew_change r c)
    | run host => exact congrArg (amend · (changes steps)) (renew_run r host)

/-- The phase has no part in what a run does. -/
theorem attempt_renew (r : Runner) (host : Host) : r.renew.attempt host = r.attempt host := rfl

end Runner

/-- A run of one runner and the same run of another, which differ in the phase that they start from. -/
structure SameRun (used new : Runner) (host : Host) : Prop where
  value : (used.run host).1.value = (new.run host).1.value
  /-- Programs are started with the same arguments in the same directory, and the same is asked, all
  in the same order. -/
  events : (used.run host).1.events = (new.run host).1.events
  messages : ∃ before next after, (∀ m ∈ before, isPhaseChange m = false) ∧
    used.messages host = before ++ phaseChange used.phase next :: after ∧
    new.messages host = before ++ phaseChange new.phase next :: after
  /-- A run changes nothing of its runner but the phase. -/
  left : (used.run host).2 =
    { used with phase := if (used.run host).1.value.isOk then .done else .failed }

theorem Runner.sameRun_renew (r : Runner) (host : Host) : SameRun r r.renew host := by
  have course := r.attempt_course host
  obtain ⟨before, next, after, plain, said⟩ :=
    messages_first_change _ course.phases_ne_nil course.quiet
  exact {
    value := congrArg Traced.value (r.attempt_renew host).symm
    events := congrArg Traced.events (r.attempt_renew host).symm
    messages := ⟨before, next, after, plain, said r.phase, said r.renew.phase⟩
    left := r.run_snd host }

/-- Whatever changes and runs came before, a run is that of a new runner with the same set-up, which
is what the changes made of it. Of earlier runs no more is seen than the phase that is left first. -/
theorem run_after_session (r : Runner) (steps : List Step) (host : Host) :
    let used := r.play steps
    let new := r.renew.amend (changes steps)
    new.phase = .idle ∧ used = { new with phase := used.phase } ∧ SameRun used new host := by
  intro used new
  have setup : used.renew = new := r.renew_play steps
  refine ⟨Runner.phase_amend r.renew (changes steps), ?_, ?_⟩
  · rw [← setup]
    rfl
  · rw [← setup]
    exact used.sameRun_renew host

end SchedLatency
