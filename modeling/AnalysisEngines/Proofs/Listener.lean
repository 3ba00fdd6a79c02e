import AnalysisEngines.Listener
import AnalysisEngines.Proofs.Composition

/-!
# What listeners hear

A dispatcher tells each of its listeners, whatever the others raise.  What the recording listeners
of a name hear is all there is to hear: each of them hears a happening once.
-/

set_option autoImplicit false

namespace AnalysisEngines

/-- What the recording listeners of a name hear in a call. -/
def Call.heardBy? (id : String) : Call → Option Happening
  | .heard other happening => if other = id then some happening else none
  | _ => none

/-- What the recording listeners of a name have heard, in order. -/
def Audience.heardBy (id : String) (audience : Audience) : List Happening :=
  audience.calls.filterMap (·.heardBy? id)

namespace Listener

variable {id : String} {happening : Happening}

mutual

/-- How many recording listeners of a name a listener reaches. -/
def ears (id : String) : Listener → Nat
  | .recording other => if other = id then 1 else 0
  | .dispatcher listeners => earsOf id listeners
  | _ => 0

def earsOf (id : String) : List Listener → Nat
  | [] => 0
  | listener :: rest => ears id listener + earsOf id rest

end

namespace Reaction

/-- What is left behind, whether or not something is raised. -/
def after (reaction : Reaction Unit) (audience : Audience) : Audience :=
  match reaction audience with
  | .ok _ audience => audience
  | .error _ audience => audience

/-- A reaction that does not change what is seen of what listeners leave behind. -/
def Keeps {α : Type} (view : Audience → α) (reaction : Reaction Unit) : Prop :=
  ∀ audience, view (reaction.after audience) = view audience

variable {α : Type} {view : Audience → α}

theorem Keeps.bind {first next : Reaction Unit} (keeps : first.Keeps view)
    (keeps' : next.Keeps view) : Keeps view (first >>= fun _ => next) := by
  intro audience
  have before := keeps audience
  unfold after at before ⊢
  cases outcome : first audience with
  | ok value middle =>
      rw [outcome] at before
      rw [bind_of_ok outcome]
      exact (keeps' middle).trans before
  | error problem last =>
      rw [outcome] at before
      rw [bind_of_error outcome]
      exact before

theorem Keeps.forM {items : List Measurement} {react : Measurement → Reaction Unit}
    (keeps : ∀ item, (react item).Keeps view) : Keeps view (items.forM react) := by
  induction items with
  | nil => exact fun _ => rfl
  | cons item rest ih => exact (keeps item).bind ih

end Reaction

theorem keepsHeard_log (entry : Log.Entry) : Reaction.Keeps (Audience.heardBy id) (log entry) :=
  fun _ => rfl

theorem keepsHeard_measure (client : Option String) (tags : List String)
    (measurement : Measurement) :
    Reaction.Keeps (Audience.heardBy id) (measure client tags happening measurement) := by
  have called : ∀ call : Call, call.heardBy? id = none →
      Reaction.Keeps (Audience.heardBy id) (Listener.call call) := by
    intro call unheard audience
    show (audience.calls ++ [call]).filterMap _ = _
    rw [List.filterMap_append, List.filterMap_cons_none unheard, List.filterMap_nil, List.append_nil]
    rfl
  have recorded : ∀ recording, Reaction.Keeps (Audience.heardBy id) (record recording) := by
    intro recording audience
    unfold Reaction.after record
    cases recording audience.store <;> rfl
  unfold measure
  split
  · exact called _ rfl
  · exact called _ rfl
  · exact recorded _
  · exact recorded _

/-- What is left behind when a dispatcher has told a listener; what it raises is logged. -/
def tell (happening : Happening) (audience : Audience) (listener : Listener) : Audience :=
  match notify happening listener audience with
  | .ok _ last => last
  | .error problem last =>
      { last with logs := last.logs ++ [problemEntry listener happening problem] }

/-- A dispatcher tells all of its listeners and raises nothing. -/
theorem notifyAll_eq (listeners : List Listener) (audience : Audience) :
    notifyAll happening listeners audience = .ok () (listeners.foldl (tell happening) audience) := by
  induction listeners generalizing audience with
  | nil => rfl
  | cons listener rest ih =>
      have told : tryCatch (notify happening listener)
          (fun problem => log (problemEntry listener happening problem)) audience =
            .ok () (tell happening audience listener) := by
        rw [tryCatch_apply, tell]
        cases notify happening listener audience <;> rfl
      rw [notifyAll, bind_of_ok told, ih, List.foldl_cons]

/-- What is seen of a listener that was told is what it has left behind, but for the log. -/
theorem tell_view {α : Type} {view : Audience → α}
    (unlogged : ∀ audience logs, view { audience with logs } = view audience)
    (listener : Listener) (audience : Audience) :
    view (tell happening audience listener) = view ((notify happening listener).after audience) := by
  rw [tell, Reaction.after]
  cases notify happening listener audience with
  | ok _ last => rfl
  | error problem last => exact unlogged last _

mutual

/-- The recording listeners of a name each hear what a listener is told, once. -/
theorem heardBy_notify (id : String) (happening : Happening) (listener : Listener)
    (audience : Audience) :
    ((notify happening listener).after audience).heardBy id =
      audience.heardBy id ++ List.replicate (listener.ears id) happening := by
  cases listener with
  | recording other =>
      show (audience.calls ++ [Call.heard other happening]).filterMap _ = _
      rw [List.filterMap_append, ears]
      by_cases own : other = id
      · simp [own, Call.heardBy?, Audience.heardBy]
      · simp [own, Call.heardBy?, Audience.heardBy]
  | failing hooks message =>
      simp only [ears, List.replicate_zero, List.append_nil, Reaction.after, notify]
      cases hooks.contains happening.hook <;> rfl
  | logging =>
      simp only [ears, List.replicate_zero, List.append_nil]
      exact keepsHeard_log _ audience
  | measuring client repository timesTwice =>
      simp only [ears, List.replicate_zero, List.append_nil]
      exact Reaction.Keeps.forM (fun measurement => keepsHeard_measure client _ measurement) audience
  | dispatcher listeners =>
      simp only [Reaction.after, notify, notifyAll_eq, ears]
      exact heardBy_tell id happening listeners audience

/-- Of a dispatcher they hear it from each listener in turn. -/
theorem heardBy_tell (id : String) (happening : Happening) (listeners : List Listener)
    (audience : Audience) :
    (listeners.foldl (tell happening) audience).heardBy id =
      audience.heardBy id ++ List.replicate (earsOf id listeners) happening := by
  cases listeners with
  | nil => simp [earsOf]
  | cons listener rest =>
      have unlogged (audience : Audience) (logs : List Log.Entry) :
          Audience.heardBy id { audience with logs } = audience.heardBy id := rfl
      rw [List.foldl_cons, heardBy_tell id happening rest, tell_view unlogged,
        heardBy_notify id happening listener, earsOf, List.append_assoc,
        List.replicate_append_replicate]

end

end Listener

end AnalysisEngines
