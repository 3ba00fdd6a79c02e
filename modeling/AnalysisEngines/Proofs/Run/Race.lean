import AnalysisEngines.Run.Race
import AnalysisEngines.Proofs.Run.Clock

/-!
# What ends a race

The loop of a race looks at the tasks only when one of them completes, and forgets tasks that it has
seen complete.  It nevertheless ends with the first instant at which the tasks give an ending, or
with the time limit if that comes first: `Field.run_ends`.
-/

set_option autoImplicit false

namespace AnalysisEngines

namespace Field

/-- What the state of all tasks at an instant means for a run. -/
def endingBy (field : Field) (now : Rat) : Option RaceEnd :=
  field.judge? now (field.racers.filter (field.isDone now))

/-- How a race that starts at `now` may end. -/
inductive Ends (field : Field) (deadline : Option Rat) (now : Rat) :
    Option (Rat × RaceEnd) → Prop where
  /-- The time limit had passed before the race. -/
  | late {last} : deadline = some last → last ≤ now →
      Ends field deadline now (some (now, .verdict .timeout))
  | timeout {last} : deadline = some last → now < last →
      (∀ time, now ≤ time → time ≤ last → field.endingBy time = none) →
      Ends field deadline now (some (last, .verdict .timeout))
  | event {instant ending} : now ≤ instant → (∀ last, deadline = some last → now < last) →
      (∀ last, deadline = some last → instant ≤ last) →
      field.endingBy instant = some ending →
      (∀ time, now ≤ time → time < instant → field.endingBy time = none) →
      Ends field deadline now (some (instant, ending))
  | never : deadline = none → (∀ time, now ≤ time → field.endingBy time = none) →
      Ends field deadline now none

/-- What the loop knows of the tasks that it no longer waits for. -/
structure Pending (field : Field) (now : Rat) (pending : List Racer) : Prop where
  racers : ∀ racer ∈ pending, racer ∈ field.racers
  done : ∀ racer ∈ field.racers, racer ∉ pending → field.isDone now racer = true
  closed : .output ∉ pending → field.output.map (·.2) = some .closed
  abort : .abort ∈ field.racers → .abort ∈ pending
  waits : .exit ∈ pending ∨ .output ∈ pending

theorem isDone_iff {field : Field} {now : Rat} {racer : Racer} :
    field.isDone now racer = true ↔
      ∃ instant, field.completion? racer = some instant ∧ instant ≤ now := by
  unfold isDone
  split <;> simp_all

theorem output_mem_racers (field : Field) : .output ∈ field.racers := by simp [racers]

theorem exit_mem_racers (field : Field) : .exit ∈ field.racers := by simp [racers]

theorem isDone_mono {field : Field} {now later : Rat} (order : now ≤ later) {racer : Racer}
    (done : field.isDone now racer = true) : field.isDone later racer = true := by
  obtain ⟨instant, completes, early⟩ := isDone_iff.mp done
  exact isDone_iff.mpr ⟨instant, completes, early.trans order⟩

theorem pending_racers (field : Field) (now : Rat) : field.Pending now field.racers where
  racers _ member := member
  done _ member absent := absurd member absent
  closed absent := absurd field.output_mem_racers absent
  abort member := member
  waits := .inl field.exit_mem_racers

theorem contains_filter (pending : List Racer) (keeps : Racer → Bool) (racer : Racer) :
    (pending.filter keeps).contains racer = (pending.contains racer && keeps racer) := by
  rw [Bool.eq_iff_iff]
  simp

theorem endingBy_eq (field : Field) (now : Rat) :
    field.endingBy now =
      if field.isDone now .output ∧ field.output.map (·.2) = some .consumerFailed then
        some .consumerFailed
      else if field.isDone now .output ∧ field.output.map (·.2) = some .exceeded then
        some (.verdict .outputExceeded)
      else if .abort ∈ field.racers ∧ field.isDone now .abort then some (.verdict .aborted)
      else if field.isDone now .exit ∧ field.isDone now .output then some (.verdict .exited)
      else none := by
  have output : field.racers.contains .output = true := by simpa using field.output_mem_racers
  simp only [endingBy, judge?, contains_filter, output, Bool.true_and, Bool.and_eq_true, beq_iff_eq,
    List.contains_iff_mem]

theorem isDone_exit_of_endingBy {field : Field} {now : Rat}
    (exited : field.endingBy now = some (.verdict .exited)) : field.isDone now .exit = true := by
  rw [endingBy_eq] at exited
  split_ifs at exited with _ _ _ both <;> simp_all

/-- A race is open while the output has at most been closed, no abort is set, and the exit and the
end of the output have not both been seen. -/
theorem endingBy_eq_none_iff {field : Field} {now : Rat} :
    field.endingBy now = none ↔
      (field.isDone now .output = true → field.output.map (·.2) = some .closed) ∧
      (.abort ∈ field.racers → field.isDone now .abort = false) ∧
      (field.isDone now .exit = true → field.isDone now .output = false) := by
  rw [endingBy_eq]
  cases done : field.isDone now .output with
  | false => by_cases member : Racer.abort ∈ field.racers <;> simp [member]
  | true =>
      obtain ⟨instant, completes, -⟩ := isDone_iff.mp done
      simp only [completion?, Option.map_eq_some_iff] at completes
      obtain ⟨⟨time, ending⟩, found, -⟩ := completes
      by_cases member : Racer.abort ∈ field.racers <;> cases ending <;>
        cases exited : field.isDone now .exit <;> cases aborted : field.isDone now .abort <;>
        simp [member, found]

/-- Forgotten tasks do not change what the state of the tasks means. -/
theorem judge?_pending {field : Field} {now instant : Rat} {pending : List Racer}
    (known : field.Pending now pending) :
    field.judge? instant (pending.filter (field.isDone instant)) = field.endingBy instant := by
  have abort : pending.contains .abort = field.racers.contains .abort := by
    rw [Bool.eq_iff_iff]
    simpa using ⟨known.racers _, known.abort⟩
  have always : field.racers.contains .output = true := by simpa using field.output_mem_racers
  unfold endingBy judge?
  simp only [contains_filter, abort, always, Bool.true_and]
  cases member : pending.contains Racer.output with
  | true => simp only [Bool.true_and]
  | false =>
      have closed := known.closed (by simpa using member)
      simp [closed]

theorem nextCompletion?_eq_none_iff {field : Field} {now : Rat} {pending : List Racer} :
    field.nextCompletion? now pending = none ↔
      ∀ racer ∈ pending, field.completion? racer = none := by
  induction pending with
  | nil => simp [nextCompletion?]
  | cons racer rest ih =>
      cases completes : field.completion? racer with
      | none => simp [nextCompletion?, completes, ih]
      | some instant =>
          cases other : field.nextCompletion? now rest <;>
            simp [nextCompletion?, completes, other]

theorem nextCompletion?_spec {field : Field} {now instant : Rat} {pending : List Racer}
    (found : field.nextCompletion? now pending = some instant) :
    now ≤ instant ∧ (∃ racer ∈ pending, field.isDone instant racer = true) ∧
      ∀ time, now ≤ time → time < instant → ∀ racer ∈ pending, field.isDone time racer = false := by
  induction pending generalizing instant with
  | nil => simp [nextCompletion?] at found
  | cons racer rest ih =>
      simp only [nextCompletion?, Instant.later_eq_max, Instant.earlier_eq_min] at found
      split at found
      · rename_i first other completes rested
        obtain ⟨start, ⟨next, member, done⟩, quiet⟩ := ih rested
        obtain rfl := Option.some.inj found
        refine ⟨le_min (le_max_left _ _) start, ?_, ?_⟩
        · rcases le_total (max now first) other with order | order
          · refine ⟨racer, List.mem_cons_self, isDone_iff.mpr ⟨first, completes, ?_⟩⟩
            exact le_min (le_max_right _ _) ((le_max_right _ _).trans order)
          · rw [min_eq_right order]
            exact ⟨next, List.mem_cons_of_mem _ member, done⟩
        · intro time late early candidate inPending
          rcases List.mem_cons.mp inPending with rfl | inRest
          · have before : time < first := by
              have := lt_min_iff.mp early
              exact (lt_max_iff.mp this.1).resolve_left (not_lt.mpr late)
            simp [isDone, completes, before]
          · exact quiet time late (lt_min_iff.mp early).2 candidate inRest
      · rename_i first completes rested
        obtain rfl := Option.some.inj found
        refine ⟨le_max_left _ _,
          ⟨racer, List.mem_cons_self, isDone_iff.mpr ⟨first, completes, le_max_right _ _⟩⟩, ?_⟩
        intro time late early candidate inPending
        rcases List.mem_cons.mp inPending with rfl | inRest
        · have before : time < first := (lt_max_iff.mp early).resolve_left (not_lt.mpr late)
          simp [isDone, completes, before]
        · simp [isDone, nextCompletion?_eq_none_iff.mp rested candidate inRest]
      · rename_i completes
        obtain ⟨start, ⟨next, member, done⟩, quiet⟩ := ih found
        refine ⟨start, ⟨next, List.mem_cons_of_mem _ member, done⟩, ?_⟩
        intro time late early candidate inPending
        rcases List.mem_cons.mp inPending with rfl | inRest
        · simp [isDone, completes]
        · exact quiet time late early candidate inRest

/-- While none of the awaited tasks completes, nothing ends the race. -/
theorem endingBy_eq_none {field : Field} {now time : Rat} {pending : List Racer}
    (known : field.Pending now pending)
    (quiet : ∀ racer ∈ pending, field.isDone time racer = false) :
    field.endingBy time = none := by
  have nothing : pending.filter (field.isDone time) = [] :=
    List.filter_eq_nil_iff.mpr fun racer member => by simp [quiet racer member]
  rw [← judge?_pending known, nothing]
  rcases known.waits with member | member <;> simp [judge?, quiet _ member]

/-- What the loop knows after a wait that ended nothing. -/
theorem Pending.next {field : Field} {now instant : Rat} {pending : List Racer}
    (known : field.Pending now pending) (order : now ≤ instant)
    (unended : field.endingBy instant = none) :
    field.Pending instant (pending.filter fun racer => !field.isDone instant racer) := by
  have settled : ∀ racer ∈ field.racers,
      racer ∉ pending.filter (fun racer => !field.isDone instant racer) →
        field.isDone instant racer = true := by
    intro racer member absent
    by_cases awaited : racer ∈ pending
    · simpa [awaited] using absent
    · exact isDone_mono order (known.done racer member awaited)
  obtain ⟨closed, unset, apart⟩ := endingBy_eq_none_iff.mp unended
  refine ⟨fun racer member => known.racers racer (List.mem_filter.mp member).1, settled, ?_, ?_, ?_⟩
  · intro absent
    exact closed (settled _ field.output_mem_racers absent)
  · intro member
    exact List.mem_filter.mpr ⟨known.abort member, by simp [unset member]⟩
  · by_contra neither
    rw [not_or] at neither
    have exited := settled _ field.exit_mem_racers neither.1
    have ended := settled _ field.output_mem_racers neither.2
    simp [apart exited] at ended

/-! ## One round -/

/-- The time limit has been reached. -/
def IsOver (deadline : Option Rat) (now : Rat) : Prop := ∃ last, deadline = some last ∧ last ≤ now

theorem isSpent_iff {deadline : Option Rat} {now : Rat} :
    isSpent (deadline.map (· - now)) = true ↔ IsOver deadline now := by
  cases deadline <;> simp [isSpent, IsOver]

theorem not_isOver {deadline : Option Rat} {now last : Rat} (limit : deadline = some last)
    (before : now < last) : ¬ IsOver deadline now := by
  rintro ⟨_, limited, passed⟩
  cases limit.symm.trans limited
  exact absurd before (not_lt.mpr passed)

theorem lt_of_not_isOver {deadline : Option Rat} {now : Rat} (early : ¬ IsOver deadline now) :
    ∀ last, deadline = some last → now < last :=
  fun last limit => not_le.mp fun passed => early ⟨last, limit, passed⟩

/-- A wait for some tasks returns at an instant: when the first of them completes, or at the time
limit. -/
structure Returns (field : Field) (deadline : Option Rat) (now : Rat) (pending : List Racer)
    (instant : Rat) : Prop where
  order : now ≤ instant
  inTime : ∀ last, deadline = some last → instant ≤ last
  prompt : ∀ time, now ≤ time → time < instant →
    ∀ racer ∈ pending, field.isDone time racer = false

theorem returns_of_quiet {field : Field} {deadline : Option Rat} {now last : Rat}
    {pending : List Racer} (limit : deadline = some last) (before : now < last)
    (quiet : ∀ time, now ≤ time → time ≤ last → ∀ racer ∈ pending,
      field.isDone time racer = false) : field.Returns deadline now pending last := by
  refine ⟨before.le, ?_, fun time start early => quiet time start early.le⟩
  intro _ limited
  cases limit.symm.trans limited
  exact le_refl last

/-- The wait for some tasks that reports what is done at an instant. -/
def waitFor (field : Field) (deadline : Option Rat) (now : Rat) (pending : List Racer)
    (instant : Rat) : Wait where
  pending := pending
  allowance := deadline.map (· - now)
  done := pending.filter (field.isDone instant)

/-- What one round of a race comes to, with the rest of the race where it goes on. -/
inductive Round (field : Field) (deadline : Option Rat) (next : List Racer → Rat → Race)
    (pending : List Racer) (now : Rat) : Race → Prop where
  | late : IsOver deadline now →
      Round field deadline next pending now ⟨[], some (now, .verdict .timeout)⟩
  | unending : deadline = none → (∀ racer ∈ pending, field.completion? racer = none) →
      Round field deadline next pending now ⟨[⟨pending, none, []⟩], none⟩
  | timedOut {last} : deadline = some last → now < last →
      (∀ time, now ≤ time → time ≤ last → ∀ racer ∈ pending, field.isDone time racer = false) →
      Round field deadline next pending now
        ⟨[field.waitFor deadline now pending last], some (last, .verdict .timeout)⟩
  | settled {instant ending} : ¬ IsOver deadline now →
      field.Returns deadline now pending instant →
      field.judge? instant (pending.filter (field.isDone instant)) = some ending →
      Round field deadline next pending now
        ⟨[field.waitFor deadline now pending instant], some (instant, ending)⟩
  | onward {instant} : ¬ IsOver deadline now → field.Returns deadline now pending instant →
      (∃ racer ∈ pending, field.isDone instant racer = true) →
      field.judge? instant (pending.filter (field.isDone instant)) = none →
      Round field deadline next pending now
        { next (pending.filter fun racer => !field.isDone instant racer) instant with
          waits := field.waitFor deadline now pending instant ::
            (next (pending.filter fun racer => !field.isDone instant racer) instant).waits }

/-- Nothing is done by a time limit that passes before the next task completes. -/
theorem quiet_of_unmet {field : Field} {now last : Rat} {pending : List Racer}
    (unmet : ∀ instant, field.nextCompletion? now pending = some instant → last < instant) :
    ∀ time, now ≤ time → time ≤ last → ∀ racer ∈ pending, field.isDone time racer = false := by
  intro time start bound racer member
  cases next : field.nextCompletion? now pending with
  | none => simp [isDone, nextCompletion?_eq_none_iff.mp next racer member]
  | some instant =>
      obtain ⟨-, -, quiet⟩ := nextCompletion?_spec next
      exact quiet time start (lt_of_le_of_lt bound (unmet instant next)) racer member

theorem race_round (field : Field) (deadline : Option Rat) (rounds : Nat) (pending : List Racer)
    (now : Rat) :
    Round field deadline (field.race deadline rounds) pending now
      (field.race deadline (rounds + 1) pending now) := by
  unfold race
  by_cases spent : isSpent (deadline.map (· - now)) = true
  · rw [if_pos spent]
    exact .late (isSpent_iff.mp spent)
  · have early : ¬ IsOver deadline now := mt isSpent_iff.mpr spent
    simp only [if_neg spent]
    cases next : (field.nextCompletion? now pending).filter
        (fun instant => deadline.all (instant ≤ ·)) with
    | none =>
        cases deadline with
        | none =>
            have never : field.nextCompletion? now pending = none :=
              Option.eq_none_iff_forall_ne_some.mpr (by simpa using next)
            exact .unending rfl (nextCompletion?_eq_none_iff.mp never)
        | some last =>
            have before := lt_of_not_isOver early last rfl
            have unmet : ∀ instant, field.nextCompletion? now pending = some instant →
                last < instant := by
              simpa using next
            have quiet := quiet_of_unmet unmet
            have nothing : pending.filter (field.isDone last) = [] :=
              List.filter_eq_nil_iff.mpr fun racer member => by
                simp [quiet last before.le (le_refl last) racer member]
            have wait : (⟨pending, some (last - now), []⟩ : Wait) =
                field.waitFor (some last) now pending last := by
              rw [waitFor, nothing]
              rfl
            simp only [Option.map_some, wait]
            exact .timedOut rfl before quiet
    | some instant =>
        obtain ⟨completes, inTime⟩ := Option.filter_eq_some_iff.mp next
        obtain ⟨order, done, prompt⟩ := nextCompletion?_spec completes
        have returns : field.Returns deadline now pending instant := by
          refine ⟨order, ?_, prompt⟩
          rintro last rfl
          simpa using inTime
        dsimp only
        cases judged : field.judge? instant (pending.filter (field.isDone instant)) with
        | some ending => exact .settled early returns judged
        | none => exact .onward early returns done judged

/-! ## The end of a race -/

/-- A race that is still open at a later instant ends as one that starts there. -/
theorem Ends.of_later {field : Field} {deadline : Option Rat} {now instant : Rat}
    {finish : Option (Rat × RaceEnd)} (order : now ≤ instant)
    (early : ∀ last, deadline = some last → now < last)
    (reached : ∀ last, deadline = some last → instant ≤ last)
    (quiet : ∀ time, now ≤ time → time ≤ instant → field.endingBy time = none)
    (ends : field.Ends deadline instant finish) : field.Ends deadline now finish := by
  cases ends with
  | @late last limit passed =>
      have same : last = instant := le_antisymm passed (reached last limit)
      subst same
      exact .timeout limit (early _ limit) quiet
  | timeout limit before nothing =>
      refine .timeout limit (early _ limit) fun time start bound => ?_
      rcases le_total time instant with past | future
      · exact quiet time start past
      · exact nothing time future bound
  | event start _ bound found nothing =>
      refine .event (order.trans start) early bound found fun time begun bound => ?_
      rcases le_total time instant with past | future
      · exact quiet time begun past
      · exact nothing time future bound
  | never unlimited nothing =>
      refine .never unlimited fun time start => ?_
      rcases le_total time instant with past | future
      · exact quiet time start past
      · exact nothing time future

/-- A wait that ends nothing leaves fewer tasks to wait for. -/
theorem length_pending_lt {field : Field} {instant : Rat} {pending : List Racer}
    (done : ∃ racer ∈ pending, field.isDone instant racer = true) :
    (pending.filter fun racer => !field.isDone instant racer).length < pending.length := by
  obtain ⟨racer, member, done⟩ := done
  exact List.length_filter_lt_length_iff_exists.mpr ⟨racer, member, by simp [done]⟩

theorem race_ends (field : Field) (deadline : Option Rat) {rounds : Nat} {pending : List Racer}
    {now : Rat} (known : field.Pending now pending) (enough : pending.length < rounds) :
    field.Ends deadline now (field.race deadline rounds pending now).finish := by
  induction rounds generalizing pending now with
  | zero => exact absurd enough (Nat.not_lt_zero _)
  | succ rounds ih =>
      have round := field.race_round deadline rounds pending now
      generalize field.race deadline (rounds + 1) pending now = race at round
      cases round with
      | late isOver =>
          obtain ⟨last, limit, passed⟩ := isOver
          exact .late limit passed
      | unending unlimited never =>
          refine .never unlimited fun time _ => endingBy_eq_none known fun racer member => ?_
          rw [isDone, never racer member]
      | timedOut limit before quiet =>
          exact .timeout limit before fun time start bound =>
            endingBy_eq_none known (quiet time start bound)
      | settled early returns settles =>
          have ending := (judge?_pending known).symm.trans settles
          exact .event returns.order (lt_of_not_isOver early) returns.inTime ending
            fun time start before => endingBy_eq_none known (returns.prompt time start before)
      | @onward instant early returns done undecided =>
          have unended := (judge?_pending known).symm.trans undecided
          refine Ends.of_later returns.order (lt_of_not_isOver early) returns.inTime ?_
            (ih (known.next returns.order unended) ?_)
          · intro time start bound
            rcases lt_or_eq_of_le bound with before | rfl
            · exact endingBy_eq_none known (returns.prompt time start before)
            · exact unended
          · exact lt_of_lt_of_le (length_pending_lt done) (Nat.le_of_lt_succ enough)

/-- However the tasks complete, a race ends with their first ending or with the time limit. -/
theorem run_ends (field : Field) (deadline : Option Rat) (now : Rat) :
    field.Ends deadline now (field.run deadline now).finish :=
  field.race_ends deadline (field.pending_racers now) (Nat.lt_succ_self _)

/-- A race waits for nothing if the time limit has passed. -/
theorem waits_run_eq_nil_iff {field : Field} {deadline : Option Rat} {now : Rat} :
    (field.run deadline now).waits = [] ↔ IsOver deadline now := by
  unfold run
  have round := field.race_round deadline field.racers.length field.racers now
  generalize field.race deadline (field.racers.length + 1) field.racers now = race at round ⊢
  cases round with
  | late isOver => exact iff_of_true rfl isOver
  | unending unlimited =>
      refine iff_of_false (List.cons_ne_nil _ _) ?_
      rintro ⟨last, limit, -⟩
      cases unlimited.symm.trans limit
  | timedOut limit before => exact iff_of_false (List.cons_ne_nil _ _) (not_isOver limit before)
  | settled early => exact iff_of_false (List.cons_ne_nil _ _) early
  | onward early => exact iff_of_false (List.cons_ne_nil _ _) early

theorem Ends.eq_of_isOver {field : Field} {deadline : Option Rat} {now : Rat}
    {finish : Option (Rat × RaceEnd)} (ends : field.Ends deadline now finish)
    (spent : IsOver deadline now) : finish = some (now, .verdict .timeout) := by
  obtain ⟨last, limited, passed⟩ := spent
  cases ends with
  | late => rfl
  | timeout limited' before =>
      cases limited.symm.trans limited'
      exact absurd before (not_lt.mpr passed)
  | event _ early => exact absurd (early last limited) (not_lt.mpr passed)
  | never unlimited => simp [unlimited] at limited

/-- A race ends no earlier than it starts. -/
theorem Ends.le {field : Field} {deadline : Option Rat} {now instant : Rat} {ending : RaceEnd}
    (ends : field.Ends deadline now (some (instant, ending))) : now ≤ instant := by
  cases ends with
  | late => exact le_refl _
  | timeout _ before => exact before.le
  | event start => exact start

/-- Unless the time limit ends a race, the tasks do. -/
theorem Ends.endingBy_eq {field : Field} {deadline : Option Rat} {now instant : Rat}
    {ending : RaceEnd} (ends : field.Ends deadline now (some (instant, ending)))
    (inTime : ending ≠ .verdict .timeout) : field.endingBy instant = some ending := by
  cases ends with
  | late => exact absurd rfl inTime
  | timeout => exact absurd rfl inTime
  | event _ _ _ found => exact found

theorem output_of_exceeded {field : Field} {now : Rat}
    (exceeded : field.endingBy now = some (.verdict .outputExceeded)) :
    ∃ instant, field.output = some (instant, .exceeded) ∧ instant ≤ now := by
  rw [endingBy_eq] at exceeded
  split_ifs at exceeded with _ both <;> cases exceeded
  obtain ⟨instant, completes, early⟩ := isDone_iff.mp both.1
  obtain ⟨⟨_, ending⟩, output, rfl⟩ := Option.map_eq_some_iff.mp completes
  have isExceeded := both.2
  rw [output, Option.map_some, Option.some.injEq] at isExceeded
  exact ⟨_, isExceeded ▸ output, early⟩

theorem output_of_exited {field : Field} {now : Rat}
    (exited : field.endingBy now = some (.verdict .exited)) :
    ∃ instant, field.output = some (instant, .closed) ∧ instant ≤ now := by
  rw [endingBy_eq] at exited
  split_ifs at exited with failed exceeded _ both <;> cases exited
  obtain ⟨instant, completes, early⟩ := isDone_iff.mp both.2
  obtain ⟨⟨_, ending⟩, output, rfl⟩ := Option.map_eq_some_iff.mp completes
  cases ending with
  | closed => exact ⟨_, output, early⟩
  | exceeded => exact absurd ⟨both.2, by rw [output]; rfl⟩ exceeded
  | consumerFailed => exact absurd ⟨both.2, by rw [output]; rfl⟩ failed

end Field

/-! ## An abort that never comes -/

/-- Races that end alike, after waits that report the same. -/
structure Race.Agrees (left right : Race) : Prop where
  finish : left.finish = right.finish
  waits : left.waits.map (·.done) = right.waits.map (·.done)

theorem Race.Agrees.isEmpty_waits {left right : Race} (agrees : left.Agrees right) :
    left.waits.isEmpty = right.waits.isEmpty := by
  simpa using congrArg List.isEmpty agrees.waits

theorem Race.Agrees.turns {left right : Race} (agrees : left.Agrees right) :
    left.turns = right.turns := by
  have last := congrArg List.getLast? agrees.waits
  rw [List.getLast?_map, List.getLast?_map] at last
  unfold Race.turns
  cases leftLast : left.waits.getLast? <;> cases rightLast : right.waits.getLast? <;> simp_all

namespace Field

/-- The same tasks with an abort that is possible but never comes. -/
def withSilentAbort (field : Field) : Field := { field with canAbort := true, abort := none }

/-- The same tasks without an abort. -/
def withoutAbort (field : Field) : Field := { field with canAbort := false }

theorem completion?_withSilentAbort (field : Field) {racer : Racer} (other : racer ≠ .abort) :
    field.withSilentAbort.completion? racer = field.withoutAbort.completion? racer := by
  cases racer with
  | abort => exact absurd rfl other
  | output => rfl
  | exit => rfl

theorem isDone_withSilentAbort (field : Field) (now : Rat) {racer : Racer}
    (other : racer ≠ .abort) :
    field.withSilentAbort.isDone now racer = field.withoutAbort.isDone now racer := by
  unfold isDone
  rw [field.completion?_withSilentAbort other]

theorem nextCompletion?_withSilentAbort (field : Field) (now : Rat) {pending : List Racer}
    (others : .abort ∉ pending) :
    field.withSilentAbort.nextCompletion? now (pending ++ [.abort]) =
      field.withoutAbort.nextCompletion? now pending := by
  induction pending with
  | nil => rfl
  | cons racer rest ih =>
      obtain ⟨other, rest'⟩ := not_or.mp (mt List.mem_cons.mpr others)
      simp only [List.cons_append, nextCompletion?, ih rest',
        field.completion?_withSilentAbort fun same => other same.symm]

theorem filter_withSilentAbort (field : Field) (now : Rat) {pending : List Racer}
    (others : .abort ∉ pending) :
    (pending ++ [Racer.abort]).filter (field.withSilentAbort.isDone now) =
        pending.filter (field.withoutAbort.isDone now) ∧
      (pending ++ [Racer.abort]).filter (fun racer => !field.withSilentAbort.isDone now racer) =
        pending.filter (fun racer => !field.withoutAbort.isDone now racer) ++ [.abort] := by
  have same : ∀ racer ∈ pending,
      field.withSilentAbort.isDone now racer = field.withoutAbort.isDone now racer :=
    fun racer member => field.isDone_withSilentAbort now fun isAbort => others (isAbort ▸ member)
  have silent : field.withSilentAbort.isDone now .abort = false := rfl
  rw [List.filter_append, List.filter_append, List.filter_congr same,
    List.filter_congr fun racer member => congrArg (!·) (same racer member)]
  simp [silent]

/-- An abort that never comes changes neither the end of a race nor what its waits report. -/
theorem race_withSilentAbort (field : Field) (deadline : Option Rat) {rounds : Nat}
    {pending : List Racer} {now : Rat} (others : .abort ∉ pending)
    (enough : pending.length < rounds) :
    (field.withSilentAbort.race deadline (rounds + 1) (pending ++ [.abort]) now).Agrees
      (field.withoutAbort.race deadline rounds pending now) := by
  induction rounds generalizing pending now with
  | zero => omega
  | succ rounds ih =>
      unfold race
      rw [nextCompletion?_withSilentAbort field now others]
      by_cases spent : isSpent (deadline.map (· - now)) = true
      · simp only [spent, if_true]
        exact ⟨rfl, rfl⟩
      · simp only [spent]
        cases next : (field.withoutAbort.nextCompletion? now pending).filter
            (fun instant => deadline.all (instant ≤ ·)) with
        | none => exact ⟨rfl, rfl⟩
        | some instant =>
            obtain ⟨done, left⟩ := filter_withSilentAbort field instant others
            have judged : field.withSilentAbort.judge? instant
                (pending.filter (field.withoutAbort.isDone instant)) =
              field.withoutAbort.judge? instant
                (pending.filter (field.withoutAbort.isDone instant)) := rfl
            simp only [done, left, judged]
            cases field.withoutAbort.judge? instant
                (pending.filter (field.withoutAbort.isDone instant)) with
            | some ending => exact ⟨rfl, rfl⟩
            | none =>
                have completes := (Option.filter_eq_some_iff.mp next).1
                have fewer := length_pending_lt (nextCompletion?_spec completes).2.1
                have rest := @ih (pending.filter fun racer =>
                  !field.withoutAbort.isDone instant racer) instant
                  (fun member => others (List.mem_filter.mp member).1) (by omega)
                exact ⟨rest.finish,
                  congrArg (pending.filter (field.withoutAbort.isDone instant) :: ·) rest.waits⟩

theorem run_withSilentAbort (field : Field) (deadline : Option Rat) (now : Rat) :
    (field.withSilentAbort.run deadline now).Agrees (field.withoutAbort.run deadline now) :=
  @race_withSilentAbort field deadline 3 [.output, .exit] now (by simp) (by simp)

end Field

end AnalysisEngines
