import AnalysisEngines.Proofs.Listener

/-!
# What a tree of listeners comes to

Dispatchers may stand within dispatchers.  What such a tree does is what one dispatcher over its
leaves does: each of them is told once, from left to right, and what one raises is logged under its
own name and kept from all others.
-/

set_option autoImplicit false

namespace AnalysisEngines.Listener

/-! ## Leaves -/

mutual

/-- What is no dispatcher in a tree of listeners, from left to right. -/
def leaves : Listener → List Listener
  | .dispatcher listeners => leavesOf listeners
  | leaf => [leaf]

def leavesOf : List Listener → List Listener
  | [] => []
  | listener :: rest => leaves listener ++ leavesOf rest

end

theorem leavesOf_append (listeners others : List Listener) :
    leavesOf (listeners ++ others) = leavesOf listeners ++ leavesOf others := by
  induction listeners with
  | nil => rfl
  | cons listener rest ih => rw [List.cons_append, leavesOf, leavesOf, ih, List.append_assoc]

theorem leavesOf_singleton (listener : Listener) : leavesOf [listener] = listener.leaves :=
  List.append_nil _

theorem mem_leavesOf {leaf : Listener} {listeners : List Listener} :
    leaf ∈ leavesOf listeners ↔ ∃ listener ∈ listeners, leaf ∈ listener.leaves := by
  induction listeners with
  | nil => simp [leavesOf]
  | cons listener rest ih => simp [leavesOf, ih]

mutual

/-- Leaves have no leaves but themselves. -/
theorem leavesOf_leaves (listener : Listener) : leavesOf listener.leaves = listener.leaves := by
  cases listener with
  | dispatcher listeners => exact leavesOf_leavesOf listeners
  | recording | failing | logging | measuring => rfl

theorem leavesOf_leavesOf (listeners : List Listener) :
    leavesOf (leavesOf listeners) = leavesOf listeners := by
  cases listeners with
  | nil => rfl
  | cons listener rest =>
      rw [leavesOf, leavesOf_append, leavesOf_leaves listener, leavesOf_leavesOf rest]

end

/-! ## Telling the leaves -/

section Telling

variable {happening : Happening}

/-- What a dispatcher among its listeners raises is nothing, so that it is not logged. -/
theorem tell_dispatcher (listeners : List Listener) (audience : Audience) :
    tell happening audience (.dispatcher listeners) =
      listeners.foldl (tell happening) audience := by
  rw [tell, notify, notifyAll_eq]

mutual

/-- To tell a tree is to tell its leaves. -/
theorem tell_leaves (listener : Listener) (audience : Audience) :
    listener.leaves.foldl (tell happening) audience = tell happening audience listener := by
  cases listener with
  | dispatcher listeners => rw [tell_dispatcher, leaves, tell_leavesOf listeners audience]
  | recording | failing | logging | measuring => rfl

theorem tell_leavesOf (listeners : List Listener) (audience : Audience) :
    (leavesOf listeners).foldl (tell happening) audience =
      listeners.foldl (tell happening) audience := by
  cases listeners with
  | nil => rfl
  | cons listener rest =>
      rw [leavesOf, List.foldl_append, tell_leaves listener, tell_leavesOf rest, List.foldl_cons]

end

end Telling

/-! ## Histories of a dispatcher -/

/-- What happens to a dispatcher: a listener is added, or a happening is told. -/
inductive Turn where
  | add (listener : Listener)
  | tell (happening : Happening)

namespace Turn

/-- The listeners that are added in a history. -/
def added (turns : List Turn) : List Listener :=
  turns.flatMap fun
    | .add listener => [listener]
    | .tell _ => []

/-- A turn with the leaves of a listener in its place. -/
def flat : Turn → List Turn
  | .add listener => listener.leaves.map .add
  | .tell happening => [.tell happening]

end Turn

/-- A dispatcher goes through a history; what is raised ends it. -/
def attend (root : Listener) : List Turn → Reaction Listener
  | [] => return root
  | .add listener :: rest => attend (root.add listener) rest
  | .tell happening :: rest => do
      notify happening root
      attend root rest

/-- What is due in a history: each happening to each leaf that is there at that moment. -/
def due : List Listener → List Turn → List (Happening × Listener)
  | _, [] => []
  | known, .add listener :: rest => due (known ++ listener.leaves) rest
  | known, .tell happening :: rest => known.map (happening, ·) ++ due known rest

/-- What is left behind when all that is due has been told. -/
def tellAll (audience : Audience) (tellings : List (Happening × Listener)) : Audience :=
  tellings.foldl (fun audience telling => tell telling.1 audience telling.2) audience

theorem attend_eq (listeners : List Listener) (turns : List Turn) (audience : Audience) :
    attend (.dispatcher listeners) turns audience =
      .ok (.dispatcher (listeners ++ Turn.added turns))
        (tellAll audience (due (leavesOf listeners) turns)) := by
  induction turns generalizing listeners audience with
  | nil => rw [Turn.added, List.flatMap_nil, List.append_nil]; rfl
  | cons turn rest ih =>
      cases turn with
      | add listener =>
          rw [attend, add, ih, leavesOf_append, leavesOf_singleton, List.append_assoc]
          rfl
      | tell happening =>
          have told : notify happening (.dispatcher listeners) audience =
              .ok () (listeners.foldl (tell happening) audience) := notifyAll_eq listeners audience
          rw [attend, bind_of_ok told, ih, due, tellAll, tellAll, List.foldl_append, List.foldl_map,
            tell_leavesOf]
          rfl

theorem due_adds (known listeners : List Listener) (rest : List Turn) :
    due known (listeners.map .add ++ rest) = due (known ++ leavesOf listeners) rest := by
  induction listeners generalizing known with
  | nil => rw [leavesOf, List.append_nil]; rfl
  | cons listener others ih =>
      rw [List.map_cons, List.cons_append, due, ih, leavesOf, List.append_assoc]

theorem added_flat (turns : List Turn) :
    Turn.added (turns.flatMap Turn.flat) = leavesOf (Turn.added turns) := by
  have adds (listeners : List Listener) : Turn.added (listeners.map .add) = listeners := by
    rw [Turn.added, List.flatMap_map]
    exact List.flatMap_singleton' listeners
  induction turns with
  | nil => rfl
  | cons turn rest ih =>
      rw [List.flatMap_cons, Turn.added, List.flatMap_append, ← Turn.added, ← Turn.added, ih]
      cases turn with
      | add listener =>
          rw [Turn.flat, adds]
          rfl
      | tell happening => rfl

/-- The same is due when leaves are added in place of what they are the leaves of. -/
theorem due_flat (known : List Listener) (turns : List Turn) :
    due known (turns.flatMap Turn.flat) = due known turns := by
  induction turns generalizing known with
  | nil => rfl
  | cons turn rest ih =>
      rw [List.flatMap_cons]
      cases turn with
      | add listener => rw [Turn.flat, due_adds, leavesOf_leaves, ih, due]
      | tell happening => rw [Turn.flat, List.singleton_append, due, ih, due]

theorem mem_leavesOf_of_due {known : List Listener} {turns : List Turn}
    {telling : Happening × Listener} (member : telling ∈ due known turns) :
    telling.2 ∈ known ++ leavesOf (Turn.added turns) := by
  induction turns generalizing known with
  | nil => cases member
  | cons turn rest ih =>
      cases turn with
      | add listener =>
          have later := ih member
          rwa [List.append_assoc, ← leavesOf] at later
      | tell happening =>
          rcases List.mem_append.mp member with now | later
          · obtain ⟨leaf, held, rfl⟩ := List.mem_map.mp now
            exact List.mem_append_left _ held
          · exact ih later

/-! ## What the leaves leave behind -/

/-- A recording, a failing or a logging listener, or a dispatcher over such listeners. -/
inductive IsUnmeasured : Listener → Prop
  | recording {id : String} : IsUnmeasured (.recording id)
  | failing {hooks : List Hook} {message : String} : IsUnmeasured (.failing hooks message)
  | logging : IsUnmeasured .logging
  | dispatcher {listeners : List Listener} :
      (∀ listener ∈ listeners, IsUnmeasured listener) → IsUnmeasured (.dispatcher listeners)

/-- What is heard of a leaf that is told. -/
def heard (telling : Happening × Listener) : List Call :=
  match telling.2 with
  | .recording id => [.heard id telling.1]
  | _ => []

/-- What is logged of a leaf that is told: its own entry, or the one for what it raises. -/
def logged (telling : Happening × Listener) : List Log.Entry :=
  match telling.2, telling.2.raises? telling.1.hook with
  | .logging, _ => [logEntry telling.1]
  | leaf, some problem =>
      [⟨.warning, logger, "listener_error",
        [("listener", .text leaf.kindName), ("hook", .text telling.1.hook.name),
          ("engine", .text telling.1.engine.name), ("error", .text problem.message),
          ("exception", .text problem.lastLine)]⟩]
  | _, none => []

/-- A leaf that leaves behind what is heard and logged of it. -/
def LeavesOwn (leaf : Listener) : Prop :=
  ∀ happening audience, tell happening audience leaf =
    { audience with
      calls := audience.calls ++ heard (happening, leaf)
      logs := audience.logs ++ logged (happening, leaf) }

theorem leavesOwn_recording (id : String) : (recording id).LeavesOwn := by
  intro happening audience
  have silent : logged (happening, recording id) = [] := rfl
  rw [silent, List.append_nil]
  rfl

theorem leavesOwn_logging : logging.LeavesOwn := by
  intro happening audience
  have unheard : heard (happening, logging) = [] := rfl
  rw [unheard, List.append_nil]
  rfl

/-- A failing leaf leaves an entry behind on the hooks that it raises on, and else nothing. -/
theorem leavesOwn_failing (hooks : List Hook) (message : String) :
    (failing hooks message).LeavesOwn := by
  intro happening audience
  rw [tell, notify, heard, List.append_nil, logged, raises?]
  by_cases raising : hooks.contains happening.hook
  · rw [if_pos raising, if_pos raising]
    rfl
  · rw [if_neg raising, if_neg raising, List.append_nil]
    rfl

theorem leavesOwn_of_isUnmeasured {listener leaf : Listener} (unmeasured : listener.IsUnmeasured)
    (member : leaf ∈ listener.leaves) : leaf.LeavesOwn := by
  induction unmeasured with
  | @recording id =>
      obtain rfl := List.mem_singleton.mp member
      exact leavesOwn_recording id
  | @failing hooks message =>
      obtain rfl := List.mem_singleton.mp member
      exact leavesOwn_failing hooks message
  | logging =>
      obtain rfl := List.mem_singleton.mp member
      exact leavesOwn_logging
  | dispatcher _ ih =>
      obtain ⟨listener, within, member⟩ := mem_leavesOf.mp member
      exact ih listener within member

theorem tellAll_eq {tellings : List (Happening × Listener)}
    (own : ∀ telling ∈ tellings, telling.2.LeavesOwn) (audience : Audience) :
    tellAll audience tellings =
      { audience with
        calls := audience.calls ++ tellings.flatMap heard
        logs := audience.logs ++ tellings.flatMap logged } := by
  induction tellings generalizing audience with
  | nil => simp [tellAll]
  | cons telling rest ih =>
      have later := ih fun other member => own other (List.mem_cons_of_mem _ member)
      rw [tellAll, List.foldl_cons, own telling List.mem_cons_self, ← tellAll, later]
      simp only [List.flatMap_cons, List.append_assoc]

/-! ## Fan-out -/

/-- A dispatcher that has gone through a history as one that has the leaves for its listeners. -/
structure FansOut (listeners : List Listener) (turns : List Turn) (audience last : Audience) :
    Prop where
  /-- Nothing is raised, and the listeners are those that were there and those that were added. -/
  returns : attend (.dispatcher listeners) turns audience =
    .ok (.dispatcher (listeners ++ Turn.added turns)) last
  flat : attend (.dispatcher (leavesOf listeners)) (turns.flatMap Turn.flat) audience =
    .ok (.dispatcher (leavesOf (listeners ++ Turn.added turns))) last
  /-- Each leaf that is there is told of each happening once, one leaf after the other. -/
  inOrder : last = tellAll audience (due (leavesOf listeners) turns)
  calls : last.calls = audience.calls ++ (due (leavesOf listeners) turns).flatMap heard
  logs : last.logs = audience.logs ++ (due (leavesOf listeners) turns).flatMap logged
  store : last.store = audience.store

/-- A tree of recording, failing and logging listeners fans out, whatever its leaves raise and
whatever is added to it. -/
theorem attend_fansOut {listeners : List Listener} {turns : List Turn}
    (unmeasured : ∀ listener ∈ listeners ++ Turn.added turns, listener.IsUnmeasured)
    (audience : Audience) : ∃ last, FansOut listeners turns audience last := by
  have own : ∀ telling ∈ due (leavesOf listeners) turns, telling.2.LeavesOwn := by
    intro telling member
    have leaf := mem_leavesOf_of_due member
    rw [← leavesOf_append] at leaf
    obtain ⟨listener, within, member⟩ := mem_leavesOf.mp leaf
    exact leavesOwn_of_isUnmeasured (unmeasured listener within) member
  have told := tellAll_eq own audience
  refine ⟨_, attend_eq listeners turns audience, ?_, rfl, ?_, ?_, ?_⟩
  · have flat := attend_eq (leavesOf listeners) (turns.flatMap Turn.flat) audience
    rw [leavesOf_leavesOf, due_flat] at flat
    rw [flat, leavesOf_append, added_flat]
  · rw [told]
  · rw [told]
  · rw [told]

/-- A failing listener between two recording ones, on dispatchers of their own. -/
def nested : List Listener :=
  [.recording "first", .dispatcher [.failing [.started, .finished] "boom",
    .dispatcher [.recording "second"]], .logging]

def opening : Happening := .started ⟨"linter", .null⟩ []

def closing : Happening := .finished ⟨"linter", .null⟩ [] { exitStatus := 0, duration := .int 0 }

/-- A third recording listener is added between the two happenings. -/
theorem nested_fansOut :
    (∀ listener ∈ nested ++ Turn.added
        [.tell opening, .add (.dispatcher [.recording "third"]), .tell closing],
      listener.IsUnmeasured) ∧
    ∃ last, attend (.dispatcher nested)
        [.tell opening, .add (.dispatcher [.recording "third"]), .tell closing] {} =
          .ok (.dispatcher (nested ++ [.dispatcher [.recording "third"]])) last ∧
      last.calls = [.heard "first" opening, .heard "second" opening, .heard "first" closing,
        .heard "second" closing, .heard "third" closing] ∧
      last.logs.map (·.event) =
        ["listener_error", "engine_started", "listener_error", "engine_finished"] := by
  have unmeasured : ∀ listener ∈ nested ++ Turn.added
      [.tell opening, .add (.dispatcher [.recording "third"]), .tell closing],
      listener.IsUnmeasured := by
    have inner : (dispatcher [.recording "second"]).IsUnmeasured :=
      .dispatcher (List.forall_mem_singleton.mpr .recording)
    have middle : (dispatcher [.failing [.started, .finished] "boom",
        .dispatcher [.recording "second"]]).IsUnmeasured :=
      .dispatcher (List.forall_mem_cons.mpr ⟨.failing, List.forall_mem_singleton.mpr inner⟩)
    have third : (dispatcher [.recording "third"]).IsUnmeasured :=
      .dispatcher (List.forall_mem_singleton.mpr .recording)
    simp [nested, Turn.added, IsUnmeasured.recording, IsUnmeasured.logging, middle, third]
  obtain ⟨last, fans⟩ := attend_fansOut unmeasured {}
  refine ⟨unmeasured, last, fans.returns, ?_, ?_⟩
  · rw [fans.calls]
    rfl
  · rw [fans.logs]
    rfl

end AnalysisEngines.Listener
