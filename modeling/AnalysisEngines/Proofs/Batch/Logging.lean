import AnalysisEngines.Proofs.Batch.Attribution
import AnalysisEngines.Proofs.Listener

/-!
# The log of a batch without variables

A caller that has nothing bound finds in the log what the batch reports: each notice of a run with
the engine of the run, and everything else as it is written (`aftermath_eq`).
-/

set_option autoImplicit false

namespace AnalysisEngines

open Log Log.Step

/-! ## Entries as they are written -/

/-- The fields of an entry have different names. -/
def Log.Entry.IsPlain (entry : Entry) : Prop := (entry.fields.map (·.1)).Nodup

theorem Log.assignField_of_notMem {name : String} {fields : Fields}
    (fresh : name ∉ fields.map (·.1)) (value : Value) :
    assignField name value fields = fields ++ [(name, value)] := by
  induction fields with
  | nil => rfl
  | cons field rest ih =>
      rw [List.map_cons, List.mem_cons, not_or] at fresh
      rw [assignField, if_neg (Ne.symm fresh.1), ih fresh.2, List.cons_append]

theorem Log.assignFields_of_nodup {fields known : Fields}
    (distinct : ((known ++ fields).map (·.1)).Nodup) :
    assignFields fields known = known ++ fields := by
  induction fields generalizing known with
  | nil => exact (List.append_nil _).symm
  | cons field rest ih =>
      have fresh : field.1 ∉ known.map (·.1) := by
        rw [List.map_append, List.nodup_append] at distinct
        intro member
        exact distinct.2.2 _ member field.1 (by simp) rfl
      have assigned : assignFields (field :: rest) known =
          assignFields rest (known ++ [field]) := by
        rw [← assignField_of_notMem fresh field.2]
        rfl
      rw [assigned, ih (by simpa using distinct), List.append_assoc, List.singleton_append]

/-- Without variables, an entry is as it is written. -/
theorem Log.Entry.IsPlain.under_nil {entry : Entry} (plain : entry.IsPlain) :
    entry.under [] = entry := by
  have same := @assignFields_of_nodup entry.fields [] plain
  unfold Entry.under
  rw [same, List.nil_append]

theorem BatchNote.isPlain_entry? {note : BatchNote} (other : note.isOfRun = false)
    {entry : Entry} (written : note.written? = some entry) : entry.IsPlain := by
  cases note with
  | run => cases other
  | happening => cases written
  | skipped => cases written; simp [Entry.IsPlain]
  | failed => cases written; simp [Entry.IsPlain]
  | complete => cases written; simp [Entry.IsPlain]

namespace Listener

variable {happening : Happening} {Holds : Entry → Prop}

/-- What listeners log, of happenings and of what other listeners raise, has a property. -/
structure Writes (Holds : Entry → Prop) : Prop where
  heard : ∀ happening, Holds (logEntry happening)
  raised : ∀ listener happening problem, Holds (problemEntry listener happening problem)

theorem writes_isPlain : Writes Entry.IsPlain where
  heard happening := by cases happening <;> simp [logEntry, Entry.IsPlain]
  raised _ _ _ := by simp [problemEntry, Entry.IsPlain]

/-- Everything that an audience has logged has a property. -/
def LogsOnly (Holds : Entry → Prop) (audience : Audience) : Prop :=
  ∀ entry ∈ audience.logs, Holds entry

theorem LogsOnly.log {audience : Audience} {entry : Entry} (only : LogsOnly Holds audience)
    (adds : Holds entry) : LogsOnly Holds { audience with logs := audience.logs ++ [entry] } := by
  intro other member
  rcases List.mem_append.mp member with known | new
  · exact only other known
  · exact List.mem_singleton.mp new ▸ adds

theorem keepsLogs_measure (client : Option String) (tags : List String)
    (measurement : Measurement) :
    Reaction.Keeps (·.logs) (measure client tags happening measurement) := by
  have recorded : ∀ recording, Reaction.Keeps (·.logs) (record recording) := by
    intro recording audience
    unfold Reaction.after record
    cases recording audience.store <;> rfl
  unfold measure
  split
  · exact fun _ => rfl
  · exact fun _ => rfl
  · exact recorded _
  · exact recorded _

mutual

/-- What a listener logs has a property that all entries of listeners have. -/
theorem logsOnly_notify (writes : Writes Holds) (happening : Happening) (listener : Listener)
    {audience : Audience} (only : LogsOnly Holds audience) :
    LogsOnly Holds ((notify happening listener).after audience) := by
  cases listener with
  | recording id => exact only
  | failing hooks message =>
      simp only [Reaction.after, notify]
      cases hooks.contains happening.hook <;> exact only
  | logging => exact only.log (writes.heard happening)
  | measuring client repository timesTwice =>
      have kept : Reaction.Keeps (·.logs) ((measurements timesTwice happening).forM
          (measure client (tags happening.engine repository) happening)) :=
        .forM fun measurement => keepsLogs_measure client _ measurement
      have same : ((notify happening (.measuring client repository timesTwice)).after audience).logs =
          audience.logs := kept audience
      intro entry member
      rw [same] at member
      exact only entry member
  | dispatcher listeners =>
      simp only [Reaction.after, notify, notifyAll_eq]
      exact logsOnly_tell writes happening listeners only

theorem logsOnly_tell (writes : Writes Holds) (happening : Happening) (listeners : List Listener)
    {audience : Audience} (only : LogsOnly Holds audience) :
    LogsOnly Holds (listeners.foldl (tell happening) audience) := by
  cases listeners with
  | nil => exact only
  | cons listener rest =>
      have told : LogsOnly Holds (tell happening audience listener) := by
        have heard := logsOnly_notify writes happening listener only
        unfold Reaction.after at heard
        unfold tell
        cases outcome : notify happening listener audience with
        | ok _ last =>
            rw [outcome] at heard
            exact heard
        | error problem last =>
            rw [outcome] at heard
            exact heard.log (writes.raised listener happening problem)
      exact logsOnly_tell writes happening rest told

end

/-- Told with nothing in the log yet, a listener logs nothing else. -/
theorem logsOnly_notify_nil (writes : Writes Holds) (happening : Happening) (listener : Listener)
    (store : Metrics.Store Binary64) :
    LogsOnly Holds ((notify happening listener).after { store }) :=
  logsOnly_notify writes happening listener fun _ member => nomatch member

end Listener

namespace Aftermath

/-- The variables under which a caller with nothing bound finds a note. -/
def ownBound : BatchNote → Fields
  | .run _ engine _ => [("engine", .text engine)]
  | _ => []

/-- A note is heard the same with its variables as bound by its run, or written into it. -/
theorem hearUnder_ownBound (listener : Listener) (past : Aftermath) (entry : Moment × BatchNote) :
    past.hearUnder listener entry (ownBound entry.2) = hear listener past entry := by
  obtain ⟨moment, note⟩ := entry
  have written : ∀ note : BatchNote, note.isOfRun = false →
      note.written?.map (·.under []) = note.written? := by
    intro note other
    cases found : note.written? with
    | none => rfl
    | some entry => rw [Option.map_some, (note.isPlain_entry? other found).under_nil]
  have logged : ∀ note : BatchNote, note.isOfRun = false →
      ({ past with logs := past.logs ++ (note.written?.map (·.under [])).toList } : Aftermath) =
        { past with logs := past.logs ++ note.written?.toList } := by
    intro note other
    rw [written note other]
  cases note with
  | run place engine note => cases note <;> rfl
  | happening place happening =>
      have plain := Listener.logsOnly_notify_nil Listener.writes_isPlain happening listener past.store
      have same : ((listener.notify happening).after { store := past.store }).logs.map
          (·.under []) = ((listener.notify happening).after { store := past.store }).logs :=
        (List.map_congr_left fun entry member => (plain entry member).under_nil).trans
          (List.map_id' _)
      have heard := congrArg (fun logs : List Entry =>
        ({ calls := past.calls ++ ((listener.notify happening).after
              { store := past.store }).calls.map fun call => (moment.instant, call)
           logs := past.logs ++ logs
           store := ((listener.notify happening).after { store := past.store }).store } :
          Aftermath)) same
      exact heard
  | skipped place engine => exact logged (.skipped place engine) rfl
  | failed place engine message => exact logged (.failed place engine message) rfl
  | complete jobs failed skipped => exact logged (.complete jobs failed skipped) rfl

end Aftermath

namespace Log.Journal

/-- Steps that enter and leave alike lead to the same journal. -/
theorem follow_congr {ι α β : Type} {first : ι → Step α} {second : ι → Step β} {entries : List ι}
    (alike : ∀ entry ∈ entries, ∀ journal : Journal,
      journal.take (first entry) = journal.take (second entry)) (journal : Journal) :
    journal.follow (entries.map first) = journal.follow (entries.map second) := by
  induction entries generalizing journal with
  | nil => rfl
  | cons entry rest ih =>
      obtain ⟨now, later⟩ := List.forall_mem_cons.mp alike
      have rests := ih later (journal.take (first entry))
      rw [now] at rests
      simp only [follow, List.map_cons, List.foldl_cons, now] at rests ⊢
      exact rests

end Log.Journal

namespace Batch

variable {batch : Batch} {place : Nat} {grant : Grant}

/-- What a job notes of itself is noted with what its caller has bound, less `engine` after its
run. -/
theorem Takes.bound_of_not_isOfRun {steps : List (Moment × Step BatchNote)}
    (takes : batch.Takes place grant steps) {caller : Journal}
    {noted : (Moment × BatchNote) × Fields} (member : noted ∈ caller.notesUnder (steps.map keyed))
    (other : noted.1.2.isOfRun = false) :
    noted.2 = caller.bound ∨ noted.2 = (caller.unbind ["engine"]).bound := by
  have bound : ∀ {notes : List (Moment × BatchNote)} {journal : Journal},
      noted ∈ journal.notesUnder (notes.map Step.note) → noted.2 = journal.bound := by
    intro notes journal inNotes
    rw [Journal.notesUnder_map_note] at inNotes
    obtain ⟨entry, -, rfl⟩ := List.mem_map.mp inNotes
    rfl
  cases takes with
  | idle =>
      rw [keyed_ofNotes] at member
      exact .inl (bound member)
  | @run execution closing _ _ _ silent =>
      rw [List.map_append, List.map_append, keyed_ofNotes, keyed_ofNotes, keyed_map,
        Journal.notesUnder_append, Journal.notesUnder_append] at member
      rcases List.mem_append.mp member with early | behind
      · rcases List.mem_append.mp early with first | inRun
        · exact .inl (bound first)
        · obtain ⟨⟨entry, -, same⟩, -⟩ := @mem_notesUnder_steps _ _ _
            (fun entry => (entry.1, BatchNote.run place grant.job.spec.name entry.2)) _ _ inRun
          rw [same] at other
          cases other
      · by_cases unending : execution.result = .error .unending
        · rw [silent unending] at behind
          cases behind
        · have alike := @Journal.follow_congr _ _ _
            (fun entry : Moment × Step Note => entry.2.map fun note =>
              (entry.1, BatchNote.run place grant.job.spec.name note)) (·.2)
            (execution.steps (batch.request grant.job) grant.moment)
            (fun entry _ journal => by
              obtain ⟨moment, step⟩ := entry
              cases step <;> rfl) caller
          rw [Journal.follow_append, Journal.follow_map_note, alike,
            Execution.follow_steps unending] at behind
          exact .inr (bound behind)

/-- A caller with nothing bound finds notes of runs under their engines, and others under nothing. -/
theorem bound_of_mem_notesUnder {caller : Journal} (unset : caller.bound = [])
    {noted : Option Nat × (Moment × BatchNote) × Fields} (member : noted ∈ batch.notesUnder caller) :
    noted.2.2 = Aftermath.ownBound noted.2.1.2 := by
  have cleared : (caller.unbind ["engine"]).bound = [] := by
    simp [Journal.unbind, unset, dropFields]
  obtain ⟨task, entry, bound⟩ := noted
  have own := (Journals.mem_notesUnder_iff _ _ _ _ _).mp member
  cases task with
  | none =>
      obtain ⟨ofCaller, callers, silent⟩ := stepsOf_tasks_none batch
      rw [callers, Journal.notesUnder_map_note] at own
      obtain ⟨known, inNotes, same⟩ := List.mem_map.mp own
      cases same
      have about := silent entry inNotes
      obtain ⟨moment, note⟩ := entry
      cases note with
      | complete => exact unset
      | _ => cases about
  | some place =>
      have initial := stepsOf_tasks_prefix batch place
      cases found : batch.schedule.granted[place]? with
      | none =>
          rw [found] at initial
          rw [List.prefix_nil.mp initial] at own
          cases own
      | some grant =>
          rw [found] at initial
          have inJob := Journal.mem_notesUnder_of_prefix initial own
          cases ofRun : entry.2.isOfRun with
          | true =>
              obtain ⟨bindings, note, same⟩ := (takes found).bound_of_isOfRun inJob ofRun
              dsimp only at bindings same ⊢
              rw [bindings, same, unset]
              rfl
          | false =>
              have empty : bound = [] := by
                rcases (takes found).bound_of_not_isOfRun inJob ofRun with same | same
                · exact same.trans unset
                · exact same.trans cleared
              obtain ⟨moment, note⟩ := entry
              cases note with
              | run => cases ofRun
              | _ => exact empty

/-- The log of a batch whose caller has nothing bound is the one that its report leaves. -/
theorem aftermath_eq (batch : Batch) {caller : Journal} (unset : caller.bound = []) :
    batch.aftermath caller = .ofNotes batch.listener batch.report.notes := by
  have heard : ∀ noted ∈ batch.notesUnder caller, ∀ past : Aftermath,
      past.hearUnder batch.listener noted.2.1 noted.2.2 = past.hear batch.listener noted.2.1 := by
    intro noted member past
    rw [bound_of_mem_notesUnder unset member]
    exact Aftermath.hearUnder_ownBound batch.listener past noted.2.1
  unfold aftermath Aftermath.ofNotes
  rw [← map_notesUnder batch caller, List.foldl_map]
  exact List.foldl_ext _ _ _ fun past noted member => heard noted member past

end Batch

end AnalysisEngines
