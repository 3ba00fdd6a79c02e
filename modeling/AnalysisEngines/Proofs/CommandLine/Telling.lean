import AnalysisEngines.CommandLine.Program
import AnalysisEngines.Proofs.Composition
import AnalysisEngines.Proofs.Console.Escaping

/-!
# What a session tells

A warning or a failure is told behind a label, with its text escaped, so that it can be told
whatever is in it.  A warning lets the session go on, and a failure ends it.
-/

set_option autoImplicit false

namespace AnalysisEngines.CommandLine

/-- Nothing was printed in between, and no installation recorded. -/
structure Session.Keeps (before after : Session) : Prop where
  output : after.output = before.output
  installation : after.installation = before.installation

theorem Session.Keeps.trans {first second third : Session} (before : first.Keeps second)
    (after : second.Keeps third) : first.Keeps third :=
  ⟨after.output.trans before.output, after.installation.trans before.installation⟩

/-- A session has failed with a message: its line has been told and nothing else, and the session
ends with status 1. -/
structure Session.Fails (before : Session) (message : String) (ending : Ending)
    (after : Session) : Prop where
  failed : ending = .failed
  status : ending.status = 1
  line : ∃ lines,
    Console.printMarkup false ("[bold red]Error[/bold red]: " ++ Console.escape message) =
        .ok lines ∧
      after = { before with messages := before.messages ++ lines }

theorem Session.Fails.keeps {before after : Session} {message : String} {ending : Ending}
    (fails : before.Fails message ending after) : before.Keeps after := by
  obtain ⟨lines, -, rfl⟩ := fails.line
  exact ⟨rfl, rfl⟩

namespace Act

theorem log_keeps (time : String) (entry : Log.Entry) (session : Session) :
    ∃ after, log time entry session = .ok ⟨⟩ after ∧ session.Keeps after :=
  ⟨_, rfl, rfl, rfl⟩

/-- A label with a text behind it is told in lines of its own, whatever the text is. -/
theorem tellLabelled_eq {style word gap label : String} (isStyle : Console.IsStyle style)
    (plainly : ∀ c ∈ word.toList ++ gap.toList, c ≠ '[' ∧ c ≠ '\\')
    (shape : label.toList = Console.styled style word gap.toList) (message : String)
    (session : Session) :
    ∃ lines, Console.printMarkup false (label ++ Console.escape message) = .ok lines ∧
      tellLabelled label message session =
        .ok ⟨⟩ { session with messages := session.messages ++ lines } := by
  obtain ⟨lines, printed⟩ := Console.printMarkup_escape isStyle plainly shape message false
  refine ⟨lines, printed, ?_⟩
  unfold tellLabelled
  rw [printed]
  rfl

theorem warn_keeps (message : String) (session : Session) :
    ∃ after, warn message session = .ok ⟨⟩ after ∧ session.Keeps after := by
  obtain ⟨lines, -, told⟩ := @tellLabelled_eq "yellow" "WARNING:" " " "[yellow]WARNING:[/yellow] "
    (Console.IsWords.isStyle ⟨by decide, by decide, by decide⟩)
    (List.all_iff_forall_prop.mp (by decide)) rfl message session
  exact ⟨_, told, rfl, rfl⟩

/-- To tell a failure ends the session, whatever its message is. -/
theorem fail_fails (α : Type) (message : String) (session : Session) :
    ∃ ending after, (fail message : Act α) session = .error ending after ∧
      session.Fails message ending after := by
  obtain ⟨lines, printed, told⟩ := @tellLabelled_eq "bold red" "Error" ": "
    "[bold red]Error[/bold red]: "
    (Console.IsWords.isStyle ⟨by decide, by decide, by decide⟩)
    (List.all_iff_forall_prop.mp (by decide)) rfl message session
  refine ⟨.failed, _, ?_, rfl, rfl, lines, printed, rfl⟩
  unfold fail
  rw [bind_of_ok told]
  rfl

theorem fail_keeps {α : Type} (message : String) (session : Session) :
    ∃ ending after, (fail message : Act α) session = .error ending after ∧ ending.status = 1 ∧
      session.Keeps after := by
  obtain ⟨ending, after, fails, ended⟩ := fail_fails α message session
  exact ⟨ending, after, fails, ended.status, ended.keeps⟩

/-- An act tells a failure: it fails with the message of the failure. -/
structure Tells {α : Type} (act : Act α) (session : Session) (failure : Failure) : Prop where
  told : act session = fail failure.message session
  ended : ∃ ending after, act session = .error ending after ∧
    session.Fails failure.message ending after

variable {α : Type} {act : Act α} {session : Session} {failure : Failure}

theorem tells_of_fail (told : act session = fail failure.message session) :
    act.Tells session failure := by
  obtain ⟨ending, after, fails, ended⟩ := fail_fails α failure.message session
  exact ⟨told, ending, after, told.trans fails, ended⟩

theorem Tells.ending_eq (tells : act.Tells session failure) {ending : Ending} {after : Session}
    (raises : act session = .error ending after) : ending = .failed := by
  obtain ⟨_, _, ends, ended⟩ := tells.ended
  cases raises.symm.trans ends
  exact ended.failed

/-- Acts that print nothing and record no installation, one after the other. -/
theorem forIn_keeps {act : α → Act PUnit} (items : List α)
    (each : ∀ item session, ∃ after, act item session = .ok ⟨⟩ after ∧ session.Keeps after)
    (session : Session) :
    ∃ after, (forIn items PUnit.unit fun item _ => do
        act item
        pure (ForInStep.yield PUnit.unit) : Act PUnit) session = .ok ⟨⟩ after ∧
      session.Keeps after := by
  induction items generalizing session with
  | nil => exact ⟨session, rfl, rfl, rfl⟩
  | cons item rest ih =>
      obtain ⟨middle, acts, kept⟩ := each item session
      obtain ⟨after, others, keptThen⟩ := ih middle
      refine ⟨after, ?_, kept.trans keptThen⟩
      have first :
          (do act item; pure (ForInStep.yield PUnit.unit) : Act (ForInStep PUnit)) session =
            .ok (.yield ⟨⟩) middle := bind_of_ok acts
      rw [List.forIn_cons]
      exact (bind_of_ok first).trans others

theorem forIn_option_keeps {act : α → Act PUnit} (item? : Option α)
    (each : ∀ item session, ∃ after, act item session = .ok ⟨⟩ after ∧ session.Keeps after)
    (session : Session) :
    ∃ after, (forIn item? PUnit.unit fun item _ => do
        act item
        pure (ForInStep.yield PUnit.unit) : Act PUnit) session = .ok ⟨⟩ after ∧
      session.Keeps after := by
  rw [← Option.forIn_toList]
  exact forIn_keeps item?.toList each session

end Act

end AnalysisEngines.CommandLine
