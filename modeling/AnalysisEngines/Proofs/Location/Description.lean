import AnalysisEngines.Proofs.Location.Parsing
import AnalysisEngines.Proofs.SourceBuffer.LineCount

/-!
# The text that a description keeps

A description is asked for its text again and again, while its buffer and its suffix change.  It keeps
the first text that it can make, and gives that one ever after.  Until then each request fails on the
buffer of that moment, and a request that fails is as if it had not been made.
-/

set_option autoImplicit false

namespace AnalysisEngines

/-- All offsets of a location lead to a place in a buffer. -/
def Location.IsUsable (location : Location) (buffer : Option SourceBuffer) : Prop :=
  ∀ offset, .offset offset ∈ location.ends → ¬ IsUnresolved buffer offset

theorem Location.render_of_isUsable {location : Location} {buffer : Option SourceBuffer}
    (usable : location.IsUsable buffer) (suffix : String) :
    ∃ text, location.render buffer suffix = .ok text := by
  rw [render_eq_map]
  refine ((location.range_failsIff buffer).map _).accepted ?_
  rintro ⟨offset, atEnd, unresolved⟩
  exact usable offset atEnd unresolved

namespace LocationDescription

/-- What can be done with a description: two ways to ask for its text, and what can be changed. -/
inductive Step where
  | render
  | display
  | replaceBuffer (buffer : SourceBuffer)
  | dropBuffer
  | changeSuffix (suffix : String)

namespace Step

/-- Whether a step asks for the text. -/
def Asks : Step → Prop
  | .render | .display => True
  | .replaceBuffer _ | .dropBuffer | .changeSuffix _ => False

/-- The answer of a step that asks for the text, and the description behind the step. -/
def perform (description : LocationDescription) :
    Step → Option (Except LocationFault String) × LocationDescription
  | .render => description.render.map some id
  | .display => description.display.map some id
  | .replaceBuffer buffer => (none, { description with buffer := some buffer })
  | .dropBuffer => (none, { description with buffer := none })
  | .changeSuffix suffix => (none, { description with suffix })

end Step

/-- The description behind a history of steps. -/
def follow (description : LocationDescription) (steps : List Step) : LocationDescription :=
  steps.foldl (fun description step => (step.perform description).2) description

/-- What a history of steps answers, request by request. -/
def answers : LocationDescription → List Step → List (Except LocationFault String)
  | _, [] => []
  | description, step :: rest =>
      (step.perform description).1.toList ++ answers (step.perform description).2 rest

/-- What the requests of a history come to without anything being kept: the location rendered with the
buffer and the suffix of that moment. -/
def attempts (location : Location) :
    Option SourceBuffer → String → List Step → List (Except LocationFault String)
  | _, _, [] => []
  | buffer, suffix, .render :: rest | buffer, suffix, .display :: rest =>
      location.render buffer suffix :: attempts location buffer suffix rest
  | _, suffix, .replaceBuffer buffer :: rest => attempts location (some buffer) suffix rest
  | _, suffix, .dropBuffer :: rest => attempts location none suffix rest
  | buffer, _, .changeSuffix suffix :: rest => attempts location buffer suffix rest

/-- A history with its first success kept. -/
structure KeepsFirst (description : LocationDescription) (steps : List Step) : Prop where
  /-- Without a success each request comes to what it comes to on its own. -/
  fails : (∀ attempt ∈ attempts description.location description.buffer description.suffix steps,
      ∃ fault, attempt = .error fault) →
    answers description steps =
      attempts description.location description.buffer description.suffix steps
  /-- From the first success on all requests come to its text. -/
  keeps : ∀ failed text rest,
    attempts description.location description.buffer description.suffix steps =
        failed ++ .ok text :: rest →
      (∀ attempt ∈ failed, ∃ fault, attempt = .error fault) →
      answers description steps = failed ++ List.replicate (rest.length + 1) (.ok text)
  invalid : ∀ fault, .error fault ∈ answers description steps →
    fault.failure.kind = .invalidLocation
  /-- A request that fails can be left out. -/
  traceless : ∀ before step after fault, steps = before ++ step :: after →
    (step.perform (description.follow before)).1 = some (.error fault) →
      ∃ earlier later, answers description steps = earlier ++ .error fault :: later ∧
        answers description (before ++ after) = earlier ++ later
  /-- A request with a usable buffer succeeds, whatever has failed before it. -/
  succeeds : ∀ before step after, steps = before ++ step :: after → step.Asks →
    description.location.IsUsable (description.follow before).buffer →
      ∃ text, (step.perform (description.follow before)).1 = some (.ok text)

section Requests

variable {description : LocationDescription} {step : Step} {text : String} {fault : LocationFault}

theorem render_of_kept (kept : description.kept = some text) :
    description.render = (.ok text, description) := by
  rw [render, kept]

theorem render_of_ok (fresh : description.kept = none)
    (made : description.location.render description.buffer description.suffix = .ok text) :
    description.render = (.ok text, { description with kept := some text }) := by
  rw [render, fresh, made]

theorem render_of_error (fresh : description.kept = none)
    (failed : description.location.render description.buffer description.suffix = .error fault) :
    description.render = (.error fault, description) := by
  rw [render, fresh, failed]

theorem location_render (description : LocationDescription) :
    description.render.2.location = description.location := by
  rw [render]
  split
  · rfl
  · split <;> rfl

/-- Both ways to ask are one. -/
theorem perform_of_asks (asks : step.Asks) (description : LocationDescription) :
    step.perform description = (some description.render.1, description.render.2) := by
  cases step with
  | render => rfl
  | display => rfl
  | replaceBuffer | dropBuffer | changeSuffix => exact asks.elim

theorem location_perform (description : LocationDescription) (step : Step) :
    (step.perform description).2.location = description.location := by
  cases step with
  | render | display => exact location_render description
  | replaceBuffer | dropBuffer | changeSuffix => rfl

theorem location_follow (description : LocationDescription) (steps : List Step) :
    (description.follow steps).location = description.location := by
  induction steps generalizing description with
  | nil => rfl
  | cons step rest ih => exact (ih _).trans (location_perform description step)

theorem perform_of_failure (failed : (step.perform description).1 = some (.error fault)) :
    (step.perform description).2 = description := by
  have unchanged (failed : description.render.1 = .error fault) :
      description.render.2 = description := by
    cases fresh : description.kept with
    | some text =>
        rw [render_of_kept fresh] at failed
        cases failed
    | none =>
        cases made : description.location.render description.buffer description.suffix with
        | ok text =>
            rw [render_of_ok fresh made] at failed
            cases failed
        | error => rw [render_of_error fresh made]
  cases step with
  | render | display => exact unchanged (Option.some.inj failed)
  | replaceBuffer | dropBuffer | changeSuffix => cases failed

theorem perform_of_isUsable (asks : step.Asks)
    (usable : description.location.IsUsable description.buffer) :
    ∃ text, (step.perform description).1 = some (.ok text) := by
  rw [perform_of_asks asks]
  cases fresh : description.kept with
  | some text => exact ⟨text, by rw [render_of_kept fresh]⟩
  | none =>
      obtain ⟨text, made⟩ := Location.render_of_isUsable usable description.suffix
      exact ⟨text, by rw [render_of_ok fresh made]⟩

end Requests

section History

variable {description : LocationDescription} {text : String}

theorem answers_append (description : LocationDescription) (before after : List Step) :
    answers description (before ++ after) =
      answers description before ++ answers (description.follow before) after := by
  induction before generalizing description with
  | nil => rfl
  | cons step rest ih =>
      rw [List.cons_append, answers, ih, answers, List.append_assoc]
      rfl

/-- A text that is kept answers each request, and there are as many of these as there are attempts. -/
theorem answers_of_kept (kept : description.kept = some text) (location : Location)
    (buffer : Option SourceBuffer) (suffix : String) (steps : List Step) :
    answers description steps =
      List.replicate (attempts location buffer suffix steps).length (.ok text) := by
  induction steps generalizing description buffer suffix with
  | nil => rfl
  | cons step rest ih =>
      have asked (asks : step.Asks) :
          answers description (step :: rest) = .ok text :: answers description rest := by
        rw [answers, perform_of_asks asks, render_of_kept kept]
        rfl
      cases step with
      | render | display =>
          rw [asked trivial, ih kept buffer suffix]
          rfl
      | replaceBuffer other => exact @ih { description with buffer := some other } kept _ _
      | dropBuffer => exact @ih { description with buffer := none } kept _ _
      | changeSuffix other => exact @ih { description with suffix := other } kept _ _

/-- Results up to the first success, which stands for all that come behind it. -/
def keepFirst : List (Except LocationFault String) → List (Except LocationFault String)
  | [] => []
  | .error fault :: rest => .error fault :: keepFirst rest
  | .ok text :: rest => List.replicate (rest.length + 1) (.ok text)

theorem keepFirst_of_failed {results : List (Except LocationFault String)}
    (failed : ∀ result ∈ results, ∃ fault, result = .error fault) : keepFirst results = results := by
  induction results with
  | nil => rfl
  | cons result rest ih =>
      obtain ⟨fault, rfl⟩ := failed result List.mem_cons_self
      rw [keepFirst, ih fun other member => failed other (List.mem_cons_of_mem _ member)]

theorem keepFirst_append {failed : List (Except LocationFault String)}
    (fails : ∀ result ∈ failed, ∃ fault, result = .error fault)
    (rest : List (Except LocationFault String)) :
    keepFirst (failed ++ rest) = failed ++ keepFirst rest := by
  induction failed with
  | nil => rfl
  | cons result others ih =>
      obtain ⟨fault, rfl⟩ := fails result List.mem_cons_self
      rw [List.cons_append, keepFirst,
        ih fun other member => fails other (List.mem_cons_of_mem _ member), List.cons_append]

theorem answers_of_fresh (fresh : description.kept = none) (steps : List Step) :
    answers description steps =
      keepFirst (attempts description.location description.buffer description.suffix steps) := by
  induction steps generalizing description with
  | nil => rfl
  | cons step rest ih =>
      have asked (asks : step.Asks) :
          answers description (step :: rest) =
            keepFirst (description.location.render description.buffer description.suffix ::
              attempts description.location description.buffer description.suffix rest) := by
        rw [answers, perform_of_asks asks]
        cases made : description.location.render description.buffer description.suffix with
        | error fault =>
            rw [render_of_error fresh made, keepFirst, ← ih fresh]
            rfl
        | ok text =>
            rw [render_of_ok fresh made, keepFirst]
            exact congrArg (Except.ok text :: ·) (answers_of_kept rfl ..)
      cases step with
      | render | display => exact asked trivial
      | replaceBuffer other => exact @ih { description with buffer := some other } fresh
      | dropBuffer => exact @ih { description with buffer := none } fresh
      | changeSuffix other => exact @ih { description with suffix := other } fresh

end History

/-- A description answers its requests with the first success kept, whatever is done to it. -/
theorem answers_keepFirst {given : Value} {location : Location}
    (parsed : Location.parse given = .ok location) (buffer : Option SourceBuffer) (suffix : String)
    (steps : List Step) :
    ofValue buffer given suffix = .ok { location, buffer, suffix } ∧
      KeepsFirst { location, buffer, suffix } steps := by
  have answered := @answers_of_fresh { location, buffer, suffix } rfl steps
  refine ⟨by rw [ofValue, parsed]; rfl, ?_⟩
  constructor
  case fails =>
    intro failed
    rw [answered, keepFirst_of_failed failed]
  case keeps =>
    intro failed text rest split fails
    rw [answered, split, keepFirst_append fails, keepFirst]
  case invalid => exact fun fault _ => fault.kind_failure
  case traceless =>
    rintro before step after fault rfl failed
    refine ⟨_, _, ?_, answers_append _ before after⟩
    rw [answers_append, answers, failed, perform_of_failure failed]
    rfl
  case succeeds =>
    rintro before step after rfl asks usable
    apply perform_of_isUsable asks
    rwa [location_follow]

/-- From the third character of a text to itself. -/
def thirdCharacter : Value :=
  .textMap [("positions", .textMap [("begin", .textMap [("offset", .int 2)]),
    ("end", .textMap [("offset", .int 2)])])]

/-- Without a buffer the first request fails; what the second one comes to is kept, as the buffer goes
and the suffix changes. -/
theorem thirdCharacter_isKept :
    Location.parse thirdCharacter = .ok (.ofOffsets 2 2) ∧
      ∃ description, ofValue none thirdCharacter ":" = .ok description ∧
        answers description
            [.display, .replaceBuffer (.ofText "third.txt" "a\nb"), .render, .dropBuffer,
              .changeSuffix "!", .display, .render] =
          [.error (.noBuffer (.int 2)), .ok "2:", .ok "2:", .ok "2:"] := by
  have parsed : Location.parse thirdCharacter = .ok (.ofOffsets 2 2) := by
    with_unfolding_all rfl
  have opens : SourceBuffer.Opens (SourceBuffer.ofText "third.txt" "a\nb").source 2 :=
    .behindFeed rfl
  have resolved : (SourceBuffer.ofText "third.txt" "a\nb").place (.int 2) = .ok ⟨2, 1⟩ :=
    @SourceBuffer.place_of_opens _ 2 _ opens rfl (by decide)
  have made : (Location.ofOffsets 2 2).render (some (.ofText "third.txt" "a\nb")) ":" = .ok "2:" :=
    @Location.render_of_range _ _ ⟨some 2, some 2⟩
      (SourceBuffer.range_of_places resolved resolved) ":"
  obtain ⟨described, kept⟩ := answers_keepFirst parsed none ":"
    [.display, .replaceBuffer (.ofText "third.txt" "a\nb"), .render, .dropBuffer,
      .changeSuffix "!", .display, .render]
  refine ⟨parsed, _, described, ?_⟩
  refine kept.keeps [.error (.noBuffer (.int 2))] "2:"
    [.error (.noBuffer (.int 2)), .error (.noBuffer (.int 2))] ?_ ?_
  · rw [attempts, attempts, attempts, made]
    rfl
  · simp

end LocationDescription

end AnalysisEngines
