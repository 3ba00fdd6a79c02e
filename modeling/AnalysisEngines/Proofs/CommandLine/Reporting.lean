import AnalysisEngines.Proofs.CommandLine.Installing
import AnalysisEngines.Proofs.Console.Layout
import AnalysisEngines.Proofs.Console.PlainText
import AnalysisEngines.Proofs.Files
import AnalysisEngines.Proofs.Text.Utf8
import Mathlib.Algebra.BigOperators.Group.List.Basic

/-!
# What an installation reports

The line of an image is markup, and is laid out in the width of a terminal.  It is the line that it
has to be if and only if the image is plain text with which the line is not broken, so that these
are the images with which an installation is reported: `install_reports_iff`.  An image that is no
markup at all breaks the run down, although everything was pulled.
-/

set_option autoImplicit false

namespace AnalysisEngines

namespace CommandLine

namespace World

variable {σ : Type} (world : World σ) (state : σ) (settings : Settings)
  (manifest config channel : Option String)

/-! ## Lines -/

theorem pulledMarkup_eq (image : String) :
    (pulledMarkup image).toList =
      Console.styled "green" "✓" (" pulled ".toList ++ image.toList) := by
  unfold pulledMarkup Console.styled
  rw [String.toList_append]
  rfl

theorem toOption_plainText_pulledMarkup (image : String) :
    (Console.plainText (pulledMarkup image)).toOption =
      (Console.plainText image).toOption.map ("✓ pulled " ++ ·) := by
  have label : Console.shownText "✓".toList = "✓".toList := Console.showEmoji_eq_self (by decide)
  have tick : ∀ c ∈ "✓".toList, c ≠ '[' ∧ c ≠ '\\' := List.all_iff_forall_prop.mp (by decide)
  have behind : ∀ c ∈ " pulled ".toList, c ≠ '[' ∧ c ≠ '\\' :=
    List.all_iff_forall_prop.mp (by decide)
  rw [Console.toOption_plainText, pulledMarkup_eq,
    Console.read?_styled (Console.IsWords.isStyle ⟨by decide, by decide, by decide⟩) tick,
    Console.read?_append behind, List.nil_append,
    ← List.append_nil " pulled ".toList, Console.read?_behind (by decide) (by decide), label,
    Console.toOption_plainText, Option.map_map, Option.map_map, Option.map_map]
  congr 1
  funext shown
  apply String.toList_inj.mp
  simp

/-! ## Reports -/

/-- The line that an image is to be told of in. -/
def pulledLine (image : String) : String := "✓ pulled " ++ image

/-- A run reports an installation: it is done if and only if the manifest and the configuration load
and every attempt to pull an image succeeds, none is made unless both load, and each image that was
pulled has its line. -/
structure Reports (outcome : Ending × Session) : Prop where
  status : outcome.1.status = 0 ↔
    (∃ registry entries, world.Loads settings manifest config registry entries) ∧
      outcome.2.installation.Succeeds
  attempts : outcome.2.installation.steps ≠ [] →
    ∃ registry entries, world.Loads settings manifest config registry entries
  output : outcome.1.status = 0 → outcome.2.installation.images ≠ [] →
    outcome.2.output = outcome.2.installation.images.map pulledLine

/-- What a run that installs does in any case. -/
structure Performs (outcome : Ending × Session) : Prop where
  installation : ∀ registry entries, world.Loads settings manifest config registry entries →
    outcome.2.installation = world.installed state settings channel registry entries
  attempts : outcome.2.installation.steps ≠ [] →
    ∃ registry entries, world.Loads settings manifest config registry entries
  /-- Apart from what has to succeed, each image that was pulled has to be text to print. -/
  status : outcome.1.status = 0 ↔
    (∃ registry entries, world.Loads settings manifest config registry entries) ∧
      outcome.2.installation.Succeeds ∧
        ∀ image ∈ outcome.2.installation.images, ∃ shown, Console.plainText image = .ok shown
  output : outcome.1.status = 0 → outcome.2.output = outcome.2.installation.images.flatMap linesOf

theorem plainText_pulledMarkup_eq_ok_iff {image text : String} :
    Console.plainText (pulledMarkup image) = .ok text ↔
      ∃ shown, Console.plainText image = .ok shown ∧ text = pulledLine shown := by
  have same := toOption_plainText_pulledMarkup image
  constructor
  · intro shows
    rw [shows] at same
    obtain ⟨shown, given, rfl⟩ := Option.map_eq_some_iff.mp same.symm
    exact ⟨shown, Console.eq_ok_of_toOption given, rfl⟩
  · rintro ⟨shown, given, rfl⟩
    rw [given] at same
    exact Console.eq_ok_of_toOption same

theorem printMarkup_eq_ok_iff {image : String} {lines : List String} :
    Console.printMarkup true (pulledMarkup image) = .ok lines ↔
      ∃ shown, Console.plainText image = .ok shown ∧
        Console.layOut true (pulledLine shown) = lines := by
  unfold Console.printMarkup
  constructor
  · intro printed
    cases shows : Console.plainText (pulledMarkup image) with
    | error fault =>
        rw [shows] at printed
        cases printed
    | ok text =>
        rw [shows] at printed
        cases printed
        obtain ⟨shown, given, rfl⟩ := plainText_pulledMarkup_eq_ok_iff.mp shows
        exact ⟨shown, given, rfl⟩
  · rintro ⟨shown, given, rfl⟩
    rw [plainText_pulledMarkup_eq_ok_iff.mpr ⟨shown, given, rfl⟩]
    rfl

theorem isTold_iff {image : String} :
    IsTold image ↔ ∃ shown, Console.plainText image = .ok shown := by
  constructor
  · rintro ⟨lines, printed⟩
    obtain ⟨shown, given, -⟩ := printMarkup_eq_ok_iff.mp printed
    exact ⟨shown, given⟩
  · rintro ⟨shown, given⟩
    exact ⟨_, printMarkup_eq_ok_iff.mpr ⟨shown, given, rfl⟩⟩

theorem linesOf_of_ok {image : String} {lines : List String}
    (printed : Console.printMarkup true (pulledMarkup image) = .ok lines) :
    linesOf image = lines := by
  rw [linesOf, printed]
  rfl

theorem linesOf_ne_nil {image : String} (told : IsTold image) : linesOf image ≠ [] := by
  obtain ⟨lines, printed⟩ := told
  obtain ⟨shown, -, rfl⟩ := printMarkup_eq_ok_iff.mp printed
  rw [linesOf_of_ok printed]
  exact Console.layOut_ne_nil true _

/-- The line of an image is as it has to be if and only if the image is plain text with which the
line is not broken. -/
theorem linesOf_eq_iff {image : String} (told : IsTold image) :
    linesOf image = [pulledLine image] ↔
      Console.IsPlain image.toList ∧ Console.FitsLine (pulledLine image).toList := by
  constructor
  · intro whole
    obtain ⟨lines, printed⟩ := told
    obtain ⟨shown, given, isLines⟩ := printMarkup_eq_ok_iff.mp printed
    rw [← linesOf_of_ok printed, whole] at isLines
    have asMany := Console.weight_of_layOut isLines
    simp only [pulledLine, String.toList_append, Console.weight_append] at asMany
    rcases Console.plainText_cases given with ⟨rfl, isPlain⟩ | fewer
    · exact ⟨isPlain, (Console.layOut_eq_self_iff _).mp isLines⟩
    · omega
  · rintro ⟨isPlain, fits⟩
    apply linesOf_of_ok
    exact printMarkup_eq_ok_iff.mpr
      ⟨image, (Console.plainText_eq_self_iff image).mpr isPlain,
        (Console.layOut_eq_self_iff _).mpr fits⟩

theorem length_le_flatMap {α β : Type} {lines : α → List β} {items : List α}
    (given : ∀ item ∈ items, lines item ≠ []) : items.length ≤ (items.flatMap lines).length := by
  have each : ∀ size ∈ items.map fun item => (lines item).length, 1 ≤ size := by
    intro size member
    obtain ⟨item, isItem, rfl⟩ := List.mem_map.mp member
    exact List.length_pos_iff.mpr (given item isItem)
  have total := List.length_le_sum_of_one_le _ each
  rwa [List.length_map, ← List.length_flatMap] at total

/-- As many texts as there are items, at least one for each, are one for each. -/
theorem forall_eq_singleton {α β : Type} {lines : α → List β} {line : α → β} {items : List α}
    (given : ∀ item ∈ items, lines item ≠ []) (same : items.flatMap lines = items.map line) :
    ∀ item ∈ items, lines item = [line item] := by
  induction items with
  | nil => exact nofun
  | cons item rest ih =>
      obtain ⟨first, others⟩ := List.forall_mem_cons.mp given
      rw [List.flatMap_cons, List.map_cons] at same
      have sizes := congrArg List.length same
      have own := List.length_pos_iff.mpr first
      have later := length_le_flatMap others
      rw [List.length_append, List.length_cons, List.length_map] at sizes
      have single : (lines item).length = 1 := by omega
      obtain ⟨only, isOnly⟩ := List.length_eq_one_iff.mp single
      rw [isOnly, List.singleton_append] at same
      obtain ⟨rfl, rest⟩ := List.cons.inj same
      exact List.forall_mem_cons.mpr ⟨isOnly, ih others rest⟩

variable {world state settings manifest config channel}

theorem Loads.installed_eq {registry other : Registry} {entries others : List EngineEntry}
    (loads : world.Loads settings manifest config registry entries)
    (loadsToo : world.Loads settings manifest config other others) :
    world.installed state settings channel registry entries =
      world.installed state settings channel other others := by
  cases loads.registry.symm.trans loadsToo.registry
  cases loads.entries.symm.trans loadsToo.entries
  rfl

theorem Goes.performs {session : Session} {outcome : Ending × Session}
    (goes : world.Goes state settings manifest config channel session outcome)
    (fresh : session.output = []) (untouched : session.installation.steps = []) :
    world.Performs state settings manifest config channel outcome := by
  cases goes with
  | unloaded unloaded status kept =>
      have unattempted := congrArg Installation.steps kept.installation |>.trans untouched
      refine ⟨fun registry entries loads => absurd ⟨registry, entries, loads⟩ unloaded,
        fun attempted => absurd unattempted attempted, ?_, ?_⟩
      · simp only [status, unloaded, false_and, iff_false]
        decide
      · intro done
        cases status.symm.trans done
  | failed loads unsuccessful status recorded =>
      refine ⟨fun _ _ loadsToo => recorded.trans (loads.installed_eq loadsToo),
        fun _ => ⟨_, _, loads⟩, ?_, ?_⟩
      · simp only [status, recorded, unsuccessful, false_and, and_false, iff_false]
        decide
      · intro done
        cases status.symm.trans done
  | untold loads succeeds untold status recorded =>
      obtain ⟨image, member, untold⟩ := untold
      refine ⟨fun _ _ loadsToo => recorded.trans (loads.installed_eq loadsToo),
        fun _ => ⟨_, _, loads⟩, ?_, ?_⟩
      · constructor
        · intro done
          cases status.symm.trans done
        · rintro ⟨-, -, shown⟩
          rw [recorded] at shown
          exact absurd (isTold_iff.mpr (shown image member)) untold
      · intro done
        cases status.symm.trans done
  | told loads succeeds told recorded output =>
      refine ⟨fun _ _ loadsToo => recorded.trans (loads.installed_eq loadsToo),
        fun _ => ⟨_, _, loads⟩, ?_, ?_⟩
      · refine iff_of_true rfl ⟨⟨_, _, loads⟩, ?_, ?_⟩
        · rw [recorded]
          exact succeeds
        · rw [recorded]
          exact fun image member => isTold_iff.mp (told image member)
      · intro _
        rw [output, fresh, List.nil_append, recorded]

theorem Performs.reports_iff {outcome : Ending × Session}
    (performs : world.Performs state settings manifest config channel outcome) :
    world.Reports settings manifest config outcome ↔
      (outcome.2.installation.Succeeds → ∀ image ∈ outcome.2.installation.images,
        Console.IsPlain image.toList ∧ Console.FitsLine (pulledLine image).toList) := by
  constructor
  · intro reports succeeds image member
    have attempted : outcome.2.installation.steps ≠ [] := by
      intro nothing
      rw [Installation.images, Installation.pulled, nothing] at member
      cases member
    have done := reports.status.mpr ⟨performs.attempts attempted, succeeds⟩
    have told : ∀ image ∈ outcome.2.installation.images, IsTold image := fun image member =>
      isTold_iff.mpr ((performs.status.mp done).2.2 image member)
    have lines :=
      (performs.output done).symm.trans (reports.output done (List.ne_nil_of_mem member))
    have single :=
      forall_eq_singleton (fun image member => linesOf_ne_nil (told image member)) lines
    exact (linesOf_eq_iff (told image member)).mp (single image member)
  · intro whole
    refine ⟨?_, performs.attempts, ?_⟩
    · rw [performs.status]
      constructor
      · rintro ⟨loads, succeeds, -⟩
        exact ⟨loads, succeeds⟩
      · rintro ⟨loads, succeeds⟩
        refine ⟨loads, succeeds, fun image member => ⟨image, ?_⟩⟩
        exact (Console.plainText_eq_self_iff image).mpr (whole succeeds image member).1
    · intro done _
      obtain ⟨-, succeeds, shown⟩ := performs.status.mp done
      rw [performs.output done, List.map_eq_flatMap]
      apply List.flatMap_congr
      intro image member
      exact (linesOf_eq_iff (isTold_iff.mpr (shown image member))).mpr (whole succeeds image member)

/-! ## Runs -/

theorem start_fresh {level : Option String} {session : Session}
    (ready : world.start level {} = .ok settings session) :
    session.output = [] ∧ session.installation.steps = [] := by
  unfold start at ready
  obtain ⟨_, told, tells, ready⟩ := bind_eq_ok.mp ready
  cases tells
  obtain ⟨read, loaded, lifts, ready⟩ := bind_eq_ok.mp ready
  cases given : Settings.load [] world.environment world.files with
  | error problem =>
      rw [given] at lifts
      cases lifts
  | ok value =>
      rw [given] at lifts
      cases lifts
      generalize Log.Journal.configure _ _ = configured at ready
      obtain ⟨fault, journal⟩ := configured
      obtain ⟨_, _, sets, returns⟩ := bind_eq_ok.mp ready
      cases sets
      cases fault with
      | some fault => cases returns
      | none =>
          cases returns
          exact ⟨rfl, rfl⟩

theorem run_eq {arguments : List String} {level : Option String} {session : Session}
    (asked : Invocation.ofArguments arguments = .run level (.install manifest config channel))
    (ready : world.start level {} = .ok settings session) :
    world.run state arguments =
      ended (world.install state settings manifest config channel session) := by
  rw [run, asked, answer, bind_of_ok ready, perform]

theorem run_performs {arguments : List String} {level : Option String} {session : Session}
    (asked : Invocation.ofArguments arguments = .run level (.install manifest config channel))
    (ready : world.start level {} = .ok settings session) :
    world.Performs state settings manifest config channel (world.run state arguments) := by
  obtain ⟨fresh, untouched⟩ := start_fresh ready
  have goes := world.install_goes state settings manifest config channel session
  rw [← run_eq asked ready] at goes
  exact goes.performs fresh untouched

/-- An installation is reported if and only if it does not succeed or each image that was pulled is
plain text, with a line that is not broken.  In any case nothing is attempted unless both documents
load, and the run is done if everything succeeds and the images can be printed, and only then. -/
theorem install_reports_iff {arguments : List String} {level : Option String} {session : Session}
    (asked : Invocation.ofArguments arguments = .run level (.install manifest config channel))
    (ready : world.start level {} = .ok settings session) :
    (world.Reports settings manifest config (world.run state arguments) ↔
      ((world.run state arguments).2.installation.Succeeds →
        ∀ image ∈ (world.run state arguments).2.installation.images,
          Console.IsPlain image.toList ∧ Console.FitsLine (pulledLine image).toList)) ∧
    world.Performs state settings manifest config channel (world.run state arguments) := by
  have performs : world.Performs state settings manifest config channel _ :=
    run_performs asked ready
  exact ⟨performs.reports_iff, performs⟩

/-- The line of an image of visible characters of a keyboard has room for 71 of them. -/
theorem fitsLine_iff_of_visible {image : String}
    (visible : ∀ c ∈ image.toList, 0x21 ≤ c.toNat ∧ c.toNat ≤ 0x7e) :
    Console.FitsLine (pulledLine image).toList ↔ image.length ≤ 71 := by
  have parts : (pulledLine image).toList = '✓' :: (" pulled ".toList ++ image.toList) := by
    rw [pulledLine, String.toList_append]
    rfl
  have printable : ∀ c ∈ " pulled ".toList ++ image.toList, 0x20 ≤ c.toNat ∧ c.toNat ≤ 0x7e := by
    intro c member
    have label : ∀ c ∈ " pulled ".toList, 0x20 ≤ c.toNat ∧ c.toNat ≤ 0x7e :=
      List.all_iff_forall_prop.mp (by decide)
    rcases List.mem_append.mp member with inLabel | inImage
    · exact label c inLabel
    · exact ⟨Nat.le_of_succ_le (visible c inImage).1, (visible c inImage).2⟩
  have length : (" pulled ".toList ++ image.toList).length = image.length + 8 := by
    rw [List.length_append, String.length_toList, Nat.add_comm]
    rfl
  have size : Console.cellCount (pulledLine image).toList = image.length + 9 := by
    rw [parts, Console.cellCount_cons, Console.cellWidth_tick,
      Console.cellCount_of_printable printable, length]
    omega
  constructor
  · intro fits
    have narrow := fits.narrow
    rw [size, Console.lineWidth] at narrow
    omega
  · intro short
    refine ⟨?_, ?_, .inl ?_⟩
    · rw [parts]
      refine List.forall_mem_cons.mpr ⟨by decide, fun c member => ?_⟩
      exact Console.shown_of_printable (printable c member).1
    · rw [size, Console.lineWidth]
      omega
    · rw [parts, List.length_cons, length, Console.lineWidth]
      omega

/-! ### A manifest of one engine -/

def soleManifest (image : String) : String :=
  "\x7bstructure: \x7bchannels: \x7bstable: '" ++ image ++ "'\x7d\x7d\x7d"

def soleFiles (content : Bytes) : Files := ⟨[("m", some content)]⟩

/-- A world with a manifest of one engine, in which everything is pulled. -/
def soleWorld (image : String) : World Unit where
  files := soleFiles (Utf8.encode (soleManifest image))
  client := fun _ _ state => ({ succeeded := true, logs := [] }, state)

def soleArguments : List String := ["engines", "install", "-m", "m", "-c", "c"]

/-- The default engines, as entries. -/
def soleEntries : List EngineEntry :=
  [{ name := "structure", channel := some "stable" },
    { name := "duplication", channel := some "cronopio" }]

/-- The manifest loads, and the image alone is installed. -/
def soleInstalls (image : String) : Bool :=
  match Registry.ofText (String.ofList (Files.unifyLineEnds (soleManifest image).toList)) with
  | .error _ => false
  | .ok registry =>
      let installation := (soleWorld image).installed () {} none registry soleEntries
      installation.images == [image] && installation.steps.all (!·.isFailure)

theorem sole_asked :
    Invocation.ofArguments soleArguments = .run none (.install (some "m") (some "c") none) := by
  decide +kernel

theorem thresholdOf_info : Log.thresholdOf (.text "INFO") = .ok 20 := by
  have upper : Text.upper "INFO" = "INFO" := by decide +kernel
  rw [Log.thresholdOf, upper]
  rfl

theorem isName_m : Path.IsName "m" := ⟨by decide, by decide, by decide⟩

theorem isName_c : Path.IsName "c" := ⟨by decide, by decide, by decide⟩

theorem soleFiles_lookup (content : Bytes) :
    (soleFiles content).lookup "m" = .ok (.file content) ∧
      (soleFiles content).lookup "c" = .error .notFound ∧
      (soleFiles content).lookup Settings.filePath = .error .notFound :=
  ⟨Files.lookup_of_isName isName_m (by decide) (by decide),
    Files.lookup_of_isName isName_c (by decide) (by decide),
    Files.lookup_of_isName ⟨by decide, by decide, by decide⟩ (by decide) (by decide)⟩

theorem sole_ready (image : String) :
    ∃ session, (soleWorld image).start none {} = .ok {} session := by
  have unset (content : Bytes) : Settings.fileText? (soleFiles content) = .ok none := by
    rw [Settings.fileText?, (soleFiles_lookup content).2.2]
  have loaded : Settings.load [] [] (soleWorld image).files = .ok {} := by
    rw [Settings.load, soleWorld, unset]
    rfl
  have lifts (session : Session) :
      Act.lift .settings (Settings.load [] (soleWorld image).environment (soleWorld image).files)
        session = .ok {} session := by
    have given : (soleWorld image).environment = [] := rfl
    rw [given, loaded]
    rfl
  have configured : ∃ journal, ({} : Log.Journal).configure
      { level := .text ((given? none).getD ({} : Settings).logLevel)
        asJson := ({} : Settings).logsAsJson } = (none, journal) := by
    have info : (given? none).getD ({} : Settings).logLevel = "INFO" := rfl
    rw [info, Log.Journal.configure, thresholdOf_info]
    exact ⟨_, rfl⟩
  obtain ⟨journal, configured⟩ := configured
  unfold start Act.tell
  rw [bind_of_ok (modify_apply _ _), bind_of_ok (lifts _)]
  simp only [configured]
  exact ⟨_, rfl⟩

theorem sole_readText (image : String) :
    (soleWorld image).files.readText (Path.normalize "m") =
      .ok (String.ofList (Files.unifyLineEnds (soleManifest image).toList)) := by
  have found := Files.read_eq_ok_iff.mpr (soleFiles_lookup (Utf8.encode (soleManifest image))).1
  have decoded := Utf8.decode_eq_ok_iff.mpr (Eq.refl (Utf8.encode (soleManifest image)))
  rw [isName_m.normalize]
  apply (Files.readText_of_content (by decide) found).trans
  rw [decoded]
  rfl

theorem sole_entries (image : String) :
    Configuration.ofFile (soleWorld image).files "c" ({} : Settings).defaultEngines =
      .ok soleEntries := by
  have absent : (soleWorld image).files.exists? (Path.normalize "c") = .ok false := by
    rw [isName_c.normalize]
    exact Files.exists?_of_missing (soleFiles_lookup _).2.1 nofun
  unfold Configuration.ofFile
  dsimp only
  rw [absent]
  rfl

theorem sole_loads {image : String} (installs : soleInstalls image = true) :
    ∃ registry entries, (soleWorld image).Loads {} (some "m") (some "c") registry entries ∧
      ((soleWorld image).installed () {} none registry entries).Succeeds ∧
      ((soleWorld image).installed () {} none registry entries).images = [image] := by
  unfold soleInstalls at installs
  cases loaded :
      Registry.ofText (String.ofList (Files.unifyLineEnds (soleManifest image).toList)) with
  | error problem =>
      rw [loaded] at installs
      cases installs
  | ok registry =>
      rw [loaded] at installs
      obtain ⟨images, steps⟩ := (Bool.and_eq_true _ _).mp installs
      refine ⟨registry, soleEntries, ⟨?_, sole_entries image⟩, ?_, eq_of_beq images⟩
      · rw [Option.getD_some, Registry.ofFile, sole_readText]
        exact loaded
      · intro step member
        simpa using List.all_eq_true.mp steps step member

/-- The run that installs a sole image, and succeeds in it. -/
theorem sole_performs {image : String} (installs : soleInstalls image = true) :
    ∃ session, (soleWorld image).start none {} = .ok {} session ∧
      (soleWorld image).Performs () {} (some "m") (some "c") none
        ((soleWorld image).run () soleArguments) ∧
      (∃ registry entries, (soleWorld image).Loads {} (some "m") (some "c") registry entries) ∧
      ((soleWorld image).run () soleArguments).2.installation.Succeeds ∧
      ((soleWorld image).run () soleArguments).2.installation.images = [image] := by
  obtain ⟨session, ready⟩ := sole_ready image
  obtain ⟨registry, entries, loads, succeeds, images⟩ := sole_loads installs
  have performs : (soleWorld image).Performs () {} (some "m") (some "c") none _ :=
    run_performs sole_asked ready
  have installation := performs.installation registry entries loads
  refine ⟨session, ready, performs, ⟨registry, entries, loads⟩, ?_, ?_⟩
  · rw [installation]
    exact succeeds
  · rw [installation]
    exact images

theorem short_isReported :
    ∃ session,
      Invocation.ofArguments soleArguments = .run none (.install (some "m") (some "c") none) ∧
      (soleWorld "analyzer/structure:2").start none {} = .ok {} session ∧
      (soleWorld "analyzer/structure:2").Reports {} (some "m") (some "c")
        ((soleWorld "analyzer/structure:2").run () soleArguments) := by
  have installs : soleInstalls "analyzer/structure:2" = true := by decide +kernel
  obtain ⟨session, ready, -, -, -, images⟩ := sole_performs installs
  refine ⟨session, sole_asked, ready, (install_reports_iff sole_asked ready).1.mpr ?_⟩
  intro _ image member
  rw [images, List.mem_singleton] at member
  subst member
  exact ⟨Console.isPlain_of_count (by decide) (by decide),
    (fitsLine_iff_of_visible (List.all_iff_forall_prop.mp (by decide))).mpr (by decide)⟩

/-- An image that is pinned to a digest. -/
def pinned : String :=
  "registry.example.com/team/engine@sha256:" ++
    "0123456789abcdef0123456789abcdef0123456789abcdef0123456789abcdef"

/-- An image that is pinned to a digest is pulled and told of in more than one line, and an image
that closes a style breaks the run down when it was pulled. -/
theorem pinned_not_isReported :
    (∃ session,
      Invocation.ofArguments soleArguments = .run none (.install (some "m") (some "c") none) ∧
      (soleWorld pinned).start none {} = .ok {} session ∧
      ((soleWorld pinned).run () soleArguments).1.status = 0 ∧
      ((soleWorld pinned).run () soleArguments).2.output ≠ [pulledLine pinned] ∧
      ¬ (soleWorld pinned).Reports {} (some "m") (some "c")
        ((soleWorld pinned).run () soleArguments)) ∧
    ∃ session, (soleWorld "structure[/]").start none {} = .ok {} session ∧
      ((soleWorld "structure[/]").run () soleArguments).2.installation.Succeeds ∧
      ((soleWorld "structure[/]").run () soleArguments).1.status ≠ 0 ∧
      ¬ (soleWorld "structure[/]").Reports {} (some "m") (some "c")
        ((soleWorld "structure[/]").run () soleArguments) := by
  constructor
  · have installs : soleInstalls pinned = true := by decide +kernel
    obtain ⟨session, ready, performs, loads, succeeds, images⟩ := sole_performs installs
    have isPlain : Console.IsPlain pinned.toList :=
      Console.isPlain_of_count (by decide) (by decide)
    have broken : ¬ Console.FitsLine (pulledLine pinned).toList :=
      mt (fitsLine_iff_of_visible (List.all_iff_forall_prop.mp (by decide))).mp (by decide)
    have shown : ∃ shown, Console.plainText pinned = .ok shown :=
      ⟨pinned, (Console.plainText_eq_self_iff pinned).mpr isPlain⟩
    have done := performs.status.mpr ⟨loads, succeeds, by rw [images]; simpa using shown⟩
    refine ⟨session, sole_asked, ready, done, ?_, ?_⟩
    · rw [performs.output done, images, List.flatMap_singleton]
      exact fun whole => broken ((linesOf_eq_iff (isTold_iff.mpr shown)).mp whole).2
    · intro reports
      have whole := performs.reports_iff.mp reports succeeds pinned
      rw [images] at whole
      exact broken (whole List.mem_cons_self).2
  · have installs : soleInstalls "structure[/]" = true := by decide +kernel
    obtain ⟨session, ready, performs, loads, succeeds, images⟩ := sole_performs installs
    have faulty : (Console.plainText "structure[/]").toOption = none := by decide +kernel
    have broken : ((soleWorld "structure[/]").run () soleArguments).1.status ≠ 0 := by
      intro done
      obtain ⟨-, -, shown⟩ := performs.status.mp done
      rw [images] at shown
      obtain ⟨text, shows⟩ := shown _ List.mem_cons_self
      rw [shows] at faulty
      cases faulty
    exact ⟨session, ready, succeeds, broken, fun reports =>
      broken (reports.status.mpr ⟨loads, succeeds⟩)⟩

end World

end CommandLine

end AnalysisEngines
