import AnalysisEngines.Proofs.Run.Waiting

/-!
# How a stop ends

A stop asks the process to terminate and kills it once the grace period is over.  Where the process
obeys the kill signal, a stop that returns leaves no living process behind.  A cancellation takes
effect in the middle of a stop and leaves the process in the state that it has by then.
-/

set_option autoImplicit false

namespace AnalysisEngines

namespace Process

/-- A process that is killed at an instant unless it has exited. -/
def killed (now : Rat) (process : Process) : Process :=
  if process.hasExited now then process else process.react .kill now

/-- A process at `now` that has been asked at `began` to terminate, with a grace period. -/
def stopping (grace : Option Rat) (began now : Rat) (process : Process) : Process :=
  let asked := process.react .terminate began
  match grace with
  | none => asked
  | some span =>
      if 0 < span ∧ now ≤ began + span then asked else asked.killed (began + max span 0)

theorem exit?_killed {process : Process} (killable : process.IsKillable) (now : Rat) :
    ∃ exit, (process.killed now).exit? = some exit := by
  unfold killed
  split
  · rename_i exited
    obtain ⟨instant, status, found, -⟩ := hasExited_iff.mp exited
    exact ⟨_, found⟩
  · obtain ⟨delay, status, reaction⟩ := killable
    simp only [react, Process.reaction, reaction, exit?, Process.schedule,
      Timeline.exit?_schedule_exit]
    split
    · split <;> simp
    · simp

theorem hasExited_killed {process : Process} {now : Rat} (exited : process.hasExited now = true) :
    process.killed now = process := by
  simp [killed, exited]

/-- Once the grace period is over, a process is killed. -/
theorem stopping_of_passed {process : Process} {span began now : Rat}
    (passed : 0 < span → began + span < now) :
    process.stopping (some span) began now =
      (process.react .terminate began).killed (began + max span 0) := by
  have spent : ¬ (0 < span ∧ now ≤ began + span) := fun ⟨positive, within⟩ =>
    absurd within (not_le.mpr (passed positive))
  simp [stopping, spent]

/-- As long as the grace period lasts, or once it has exited, a process is not killed. -/
theorem stopping_of_waiting {process : Process} {grace : Option Rat} {began instant : Rat}
    (waiting : ∀ span, grace = some span → 0 < span ∧
      ((process.react .terminate began).hasExited (began + span) = false →
        instant ≤ began + span)) :
    process.stopping grace began (max began instant) = process.react .terminate began := by
  unfold stopping
  cases grace with
  | none => rfl
  | some span =>
      obtain ⟨positive, before⟩ := waiting span rfl
      dsimp only
      rw [max_eq_left positive.le]
      cases exited : (process.react .terminate began).hasExited (began + span) with
      | true => rw [hasExited_killed exited, ite_self]
      | false =>
          have within : max began instant ≤ began + span :=
            max_le (le_add_of_nonneg_right positive.le) (before exited)
          rw [if_pos ⟨positive, within⟩]

end Process

/-- A cancellation after the grace period does not come earlier for the end of that period. -/
theorem max_grace_end {began span instant : Rat} (passed : 0 < span → began + span < instant) :
    max (began + max span 0) instant = max began instant := by
  rcases le_or_gt span 0 with short | long
  · rw [max_eq_right short, add_zero]
  · have before := passed long
    rw [max_eq_left long.le, max_eq_right before.le,
      max_eq_right ((le_add_of_nonneg_right long.le).trans before.le)]

namespace Activity

variable {scene last : Scene} {role : Role} {grace : Number}

/-! ## Signals -/

theorem send_of_exited (signal : Signal)
    (exited : (scene.process role).hasExited scene.now.instant = true) :
    send role signal scene = .ok false scene := by
  unfold send
  simp [bind_of_ok (get_apply scene), exited]

theorem send_of_alive {signal : Signal}
    (alive : (scene.process role).hasExited scene.now.instant = false)
    (reachable : (scene.process role).reaction signal ≠ .vanished) :
    ∃ asked, asked.now = scene.now ∧ asked.cancelAt = scene.cancelAt ∧
      asked.process role = (scene.process role).react signal scene.now.instant ∧
      asked.notes = scene.notes ++ [(scene.now, .signal (scene.process role).name signal)] ∧
        send role signal scene = .ok true asked := by
  unfold send
  simp only [bind_of_ok (get_apply scene), alive, Bool.false_eq_true, if_false,
    bind_of_ok (note_apply _ scene)]
  cases reaction : (scene.process role).reaction signal with
  | vanished => exact absurd reaction reachable
  | exits delay status => exact ⟨_, by simp, by simp, by simp, by cases role <;> rfl, rfl⟩
  | ignores => exact ⟨_, by simp, by simp, by simp, by cases role <;> rfl, rfl⟩

/-! ## The kill at the end of the grace period -/

theorem send_kill (killable : (scene.process role).IsKillable) :
    ∃ answer middle, send role .kill scene = .ok answer middle ∧ middle.now = scene.now ∧
      middle.cancelAt = scene.cancelAt ∧
        middle.process role = (scene.process role).killed scene.now.instant := by
  by_cases exited : (scene.process role).hasExited scene.now.instant = true
  · exact ⟨false, scene, send_of_exited .kill exited, rfl, rfl,
      (Process.hasExited_killed exited).symm⟩
  · rw [Bool.not_eq_true] at exited
    obtain ⟨delay, status, reaction⟩ := killable
    have reachable : (scene.process role).reaction .kill ≠ .vanished := by
      simp [Process.reaction, reaction]
    obtain ⟨asked, now, cancelAt, reacts, -, sent⟩ := send_of_alive exited reachable
    exact ⟨true, asked, sent, now, cancelAt, by simpa [Process.killed, exited] using reacts⟩

/-- A kill is a signal to what has not exited, and a wait for the exit. -/
theorem kill_eq (killable : (scene.process role).IsKillable) :
    ∃ middle, middle.now.instant = scene.now.instant ∧ middle.cancelAt = scene.cancelAt ∧
      middle.process role = (scene.process role).killed scene.now.instant ∧
        kill role grace scene = (awaitExit role 1 >>= fun _ => pure ()) middle := by
  let noted : Scene := { scene with notes := scene.notes ++
    [(scene.now, .notice (.killEscalated (scene.process role).pid grace))] }
  have process : noted.process role = scene.process role := by cases role <;> rfl
  obtain ⟨answer, middle, sent, now, cancelAt, killed⟩ :=
    @send_kill noted role (by rw [process]; exact killable)
  rw [process] at killed
  have unfolded : kill role grace scene = (do
      if answer then
        if ← hasExited role then pass 2
      discard (awaitExit role 1)) middle := by
    unfold kill
    rw [bind_of_ok (get_apply scene), bind_of_ok (log_apply _ scene), bind_of_ok sent]
  rw [unfolded]
  by_cases passes : answer = true ∧ (middle.process role).hasExited middle.now.instant = true
  · refine ⟨{ middle with now := middle.now.pass 2 }, by simp [now, noted], cancelAt, ?_, ?_⟩
    · rw [← killed]
      cases role <;> rfl
    · simp only [passes.1, if_true, bind_of_ok (hasExited_apply role middle), passes.2]
      rfl
  · refine ⟨middle, by simp [now, noted], cancelAt, killed, ?_⟩
    cases answer with
    | false => rfl
    | true =>
        have alive : (middle.process role).hasExited middle.now.instant = false := by
          simpa using passes
        simp only [if_true, bind_of_ok (hasExited_apply role middle), alive, Bool.false_eq_true,
          if_false]
        rfl

theorem kill_ok (killable : (scene.process role).IsKillable)
    (returns : kill role grace scene = .ok () last) :
    (last.process role).hasExited last.now.instant = true ∧
      ∀ cancelledAt, scene.cancelAt = some cancelledAt →
        ((scene.process role).killed scene.now.instant).hasExited
          (max scene.now.instant cancelledAt) = true := by
  obtain ⟨middle, now, cancelAt, killed, unfolded⟩ := @kill_eq scene role grace killable
  rw [unfolded] at returns
  obtain ⟨status, _, awaited, ends⟩ := bind_eq_ok.mp returns
  cases ends
  obtain ⟨instant, exits, ended, before⟩ := awaitExit_ok awaited
  rw [now] at ended before
  rw [cancelAt] at before
  have process := ((waits_awaitExit role 1).ok awaited).process_eq role
  refine ⟨?_, fun cancelledAt pending => ?_⟩
  · rw [process]
    exact Process.hasExited_iff.mpr ⟨instant, status, exits, ended ▸ le_max_right _ _⟩
  · rw [← killed]
    refine Process.hasExited_iff.mpr ⟨instant, status, exits, ?_⟩
    exact le_max_iff.mpr ((before cancelledAt pending).imp_right le_of_lt)

theorem kill_error (killable : (scene.process role).IsKillable) {problem : RunProblem}
    (raises : kill role grace scene = .error problem last) :
    problem = .cancelled ∧ ∃ cancelledAt, scene.cancelAt = some cancelledAt ∧
      (scene.process role).hasExited scene.now.instant = false ∧
        last.now.instant = max scene.now.instant cancelledAt ∧
          last.process role = (scene.process role).killed scene.now.instant := by
  obtain ⟨middle, now, cancelAt, killed, unfolded⟩ := @kill_eq scene role grace killable
  rw [unfolded] at raises
  rcases bind_eq_error.mp raises with awaited | ⟨_, _, _, ends⟩
  · rcases awaitExit_error awaited with ⟨-, -, endless⟩ | ⟨rfl, ⟨cancelledAt, struck⟩, alive⟩
    · obtain ⟨exit, exits⟩ := Process.exit?_killed killable scene.now.instant
      rw [killed, exits] at endless
      cases endless
    · refine ⟨rfl, cancelledAt, cancelAt ▸ struck.pending, ?_, now ▸ struck.instant, ?_⟩
      · rw [killed, now] at alive
        by_contra exited
        rw [Bool.not_eq_false] at exited
        rw [Process.hasExited_killed exited, exited] at alive
        cases alive
      · rw [struck.process, killed]
  · cases ends

/-! ## Termination -/

theorem terminate_of_exited (exited : (scene.process role).hasExited scene.now.instant = true) :
    terminate role grace scene = .ok () scene := by
  unfold terminate
  simp [bind_of_ok (hasExited_apply role scene), exited]

theorem terminate_of_alive (alive : (scene.process role).hasExited scene.now.instant = false)
    (reachable : (scene.process role).onTerminate ≠ .vanished) :
    ∃ asked, asked.now = scene.now ∧ asked.cancelAt = scene.cancelAt ∧
      asked.process role = (scene.process role).react .terminate scene.now.instant ∧
      asked.notes = scene.notes ++ [(scene.now, .signal (scene.process role).name .terminate)] ∧
        terminate role grace scene = (do
          if ← exitsWithin role grace.span then return
          kill role grace) asked := by
  obtain ⟨asked, now, cancelAt, reacts, notes, sent⟩ :=
    @send_of_alive scene role .terminate alive reachable
  refine ⟨asked, now, cancelAt, reacts, notes, ?_⟩
  unfold terminate
  simp [bind_of_ok (hasExited_apply role scene), alive, bind_of_ok sent]

/-- A stop that returns leaves a process that has exited.  A pending cancellation was to come when
the process that is being stopped would have exited anyway. -/
theorem terminate_ok (obeys : (scene.process role).Obeys)
    (returns : terminate role grace scene = .ok () last) :
    (last.process role).hasExited last.now.instant = true ∧
      ∀ cancelledAt, scene.cancelAt = some cancelledAt →
        (scene.process role).hasExited scene.now.instant = true ∨
          ((scene.process role).stopping grace.span scene.now.instant
            (max scene.now.instant cancelledAt)).hasExited
              (max scene.now.instant cancelledAt) = true := by
  by_cases exited : (scene.process role).hasExited scene.now.instant = true
  · rw [terminate_of_exited exited] at returns
    cases returns
    exact ⟨exited, fun _ _ => .inl exited⟩
  rw [Bool.not_eq_true] at exited
  obtain ⟨asked, now, cancelAt, reacts, -, unfolded⟩ :=
    @terminate_of_alive scene role grace exited obeys.reachable
  rw [unfolded] at returns
  obtain ⟨answer, middle, waited, rest⟩ := bind_eq_ok.mp returns
  rw [← now, ← cancelAt]
  have watched := ((waits_exitsWithin role grace.span).ok waited).process_eq role
  cases answer with
  | true =>
      obtain ⟨instant, status, exits, inTime, unstruck, rfl⟩ := (exitsWithin_ok waited).true
      cases rest
      refine ⟨exited_of_waitFor 3 exits, fun cancelledAt pending => .inr ?_⟩
      have exitsBy : ∀ later, instant ≤ later → (asked.process role).hasExited later = true :=
        fun later order => Process.hasExited_iff.mpr ⟨instant, status, exits, order⟩
      have early : instant ≤ max asked.now.instant cancelledAt :=
        le_max_of_le_right (unstruck cancelledAt pending).le
      rw [now, reacts] at *
      unfold Process.stopping
      cases limited : grace.span with
      | none => exact exitsBy _ early
      | some span =>
          obtain ⟨positive, bound⟩ := inTime span limited
          dsimp only
          rw [Process.hasExited_killed (exitsBy _ (by rw [max_eq_left positive.le]; exact bound))]
          simpa using exitsBy _ early
  | false =>
      obtain ⟨span, limited, ended, kept, unstruck⟩ := (exitsWithin_ok waited).false
      have killable : (middle.process role).IsKillable := by
        rw [watched, reacts]
        exact Process.isKillable_react obeys.killable _ _
      obtain ⟨exited, before⟩ := kill_ok killable rest
      refine ⟨exited, fun cancelledAt pending => .inr ?_⟩
      have passed := unstruck cancelledAt pending
      have exitedBy := before cancelledAt (kept ▸ pending)
      rw [ended, max_grace_end passed, watched, reacts, now] at exitedBy
      rw [limited, Process.stopping_of_passed (fun positive => ?_), now]
      · exact exitedBy
      · exact lt_max_of_lt_right (passed positive)

/-- A stop is interrupted only by a cancellation, and that finds the process as it is by then. -/
theorem terminate_error (obeys : (scene.process role).Obeys) {problem : RunProblem}
    (raises : terminate role grace scene = .error problem last) :
    (problem = .unending ∧ scene.cancelAt = none ∧ grace.span = none) ∨
      (problem = .cancelled ∧ ∃ cancelledAt, scene.cancelAt = some cancelledAt ∧
        (scene.process role).hasExited scene.now.instant = false ∧
          last.now.instant = max scene.now.instant cancelledAt ∧
            last.process role = (scene.process role).stopping grace.span scene.now.instant
              last.now.instant) := by
  by_cases exited : (scene.process role).hasExited scene.now.instant = true
  · rw [terminate_of_exited exited] at raises
    cases raises
  rw [Bool.not_eq_true] at exited
  obtain ⟨asked, now, cancelAt, reacts, -, unfolded⟩ :=
    @terminate_of_alive scene role grace exited obeys.reachable
  rw [unfolded] at raises
  rcases bind_eq_error.mp raises with waited | ⟨answer, middle, waited, rest⟩
  · cases exitsWithin_error waited with
    | unending limitless unset endless =>
        exact .inl ⟨rfl, cancelAt ▸ unset, limitless⟩
    | struck struck before =>
        rename_i cancelledAt
        refine .inr ⟨rfl, cancelledAt, cancelAt ▸ struck.pending, exited, now ▸ struck.instant, ?_⟩
        rw [now, reacts] at before
        rw [struck.process, reacts, struck.instant, now, Process.stopping_of_waiting before]
  · cases answer with
    | true => cases rest
    | false =>
        obtain ⟨span, limited, ended, kept, unstruck⟩ := (exitsWithin_ok waited).false
        have watched := ((waits_exitsWithin role grace.span).ok waited).process_eq role
        have killable : (middle.process role).IsKillable := by
          rw [watched, reacts]
          exact Process.isKillable_react obeys.killable _ _
        obtain ⟨rfl, cancelledAt, pending, -, instant, process⟩ := kill_error killable rest
        rw [kept] at pending
        have passed := unstruck cancelledAt pending
        rw [ended, max_grace_end passed, now] at instant
        refine .inr ⟨rfl, cancelledAt, cancelAt ▸ pending, exited, instant, ?_⟩
        rw [process, watched, reacts, ended, limited, Process.stopping_of_passed, now]
        intro positive
        rw [instant, ← now]
        exact lt_max_of_lt_right (passed positive)

end Activity

end AnalysisEngines
