import AnalysisEngines.Proofs.Composition
import AnalysisEngines.Run.Execution

/-!
# The steps of activities

What the simplest activities do to the scene.
-/

set_option autoImplicit false

namespace AnalysisEngines

namespace Activity

@[simp]
theorem note_apply (entry : Note) (scene : Scene) :
    note entry scene = .ok () { scene with notes := scene.notes ++ [(scene.now, entry)] } := rfl

@[simp]
theorem log_apply (notice : Notice) (scene : Scene) :
    log notice scene =
      .ok () { scene with notes := scene.notes ++ [(scene.now, .notice notice)] } := rfl

@[simp]
theorem pass_apply (turns : Nat) (scene : Scene) :
    pass turns scene = .ok () { scene with now := scene.now.pass turns } := rfl

@[simp]
theorem hasExited_apply (role : Role) (scene : Scene) :
    hasExited role scene =
      .ok ((scene.process role).hasExited scene.now.instant) scene := rfl

end Activity

end AnalysisEngines
