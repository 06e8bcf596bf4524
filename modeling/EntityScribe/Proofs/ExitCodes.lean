import EntityScribe.Proofs.Loaders

/-!
# Exit codes

The settings, the model and the generators are had before anything is changed, so a program that
stops for want of one of them leaves the files alone. After that the exit code is that of the run,
and the files are those that the run leaves. Only a failure that the loaders do not report comes
before every flaw that is to be reported, and then there is no exit code.
-/

namespace EntityScribe

/-- A run into a blank target is refused before anything is changed. -/
theorem Generation.generate_of_blank {σ : Type} {w : Workspace} {directory : String}
    (blank : Text.allBlank directory = true) (m : Model) (plugins : List (Plugin σ)) (memory : σ) :
    let run := generate w m (.text directory) plugins memory
    run.outcome = .error (.configuration .emptyTarget) ∧ run.workspace = w := by
  have refused : Target.resolve (.text directory) = .error (.configuration .emptyTarget) :=
    if_pos blank
  rw [generate, refused]
  exact ⟨rfl, rfl⟩

namespace CommandLine

/-! ## Codes -/

/-- The exit code of a program whose run has ended. -/
def runCode (outcome : Except Failure (List Artifact)) : Except Failure Nat :=
  match outcome with
  | .ok _ => .ok 0
  | .error failure => exitCode failure

section Codes

variable {failure : Failure} {outcome : Except Failure (List Artifact)}

theorem exitCode_eq_error_iff {other : Failure} :
    exitCode failure = .error other ↔ failure = other ∧ other.isReported = false := by
  unfold exitCode
  split
  · next reported =>
      refine iff_of_false (by simp) ?_
      rintro ⟨rfl, unreported⟩
      cases reported.symm.trans unreported
  · next unreported =>
      rw [Except.error.injEq]
      exact (and_iff_left_of_imp fun same => same ▸ Bool.eq_false_iff.mpr unreported).symm

theorem exitCode_ne_zero : exitCode failure ≠ .ok 0 := by
  unfold exitCode
  split <;> simp

/-- The exit code of a run is exact. -/
theorem runCode_exact (outcome : Except Failure (List Artifact)) :
    (runCode outcome = .ok 0 ↔ ∃ artifacts, outcome = .ok artifacts) ∧
    (runCode outcome = .ok 1 ↔
      ∃ failure, outcome = .error failure ∧ failure.isReported = true) ∧
    ∀ failure, runCode outcome = .error failure ↔
      outcome = .error failure ∧ failure.isReported = false := by
  cases outcome with
  | ok artifacts => simp [runCode]
  | error failure =>
      simp [runCode, exitCode_ne_zero, exitCode_eq_one_iff, exitCode_eq_error_iff]

end Codes

/-! ## The course of the program -/

section Course

variable (read : DocumentReader) (w : Workspace) (modelFile : String)
  (given settingsFile : Option String)

/-- The target that counts: the given one unless it is empty, else that of the settings. -/
inductive Effective : String → Prop where
  | given {directory : String} (isGiven : given = some directory) (nonempty : directory ≠ "") :
      Effective directory
  | configured {settings : Settings}
      (loaded : (Settings.load read w settingsFile).outcome = .ok settings)
      (missing : given = none ∨ given = some "") : Effective settings.targetDirectory

/-- The first of its inputs that cannot be had stops the program. -/
inductive Stops (failure : Failure) : Prop where
  | settings (failed : (Settings.load read w settingsFile).outcome = .error failure)
  | model {settings : Settings}
      (loaded : (Settings.load read w settingsFile).outcome = .ok settings)
      (failed : Model.load read w modelFile = .error failure)
  | builtIns {settings : Settings} {m : Model}
      (loaded : (Settings.load read w settingsFile).outcome = .ok settings)
      (described : Model.load read w modelFile = .ok m)
      (failed : settings.builtIns = .error failure)

/-- What a program comes to: it is stopped, or it has all its inputs and runs the generators. -/
inductive Course (finish : Finish) : Prop where
  | stopped {failure : Failure} (stops : Stops read w modelFile settingsFile failure)
      (outcome : finish.outcome = exitCode failure) (left : finish.workspace = w)
  | ran {settings : Settings} {m : Model} {builtIns : List BuiltIn} {run : Run PoolMemory}
      (loaded : (Settings.load read w settingsFile).outcome = .ok settings)
      (described : Model.load read w modelFile = .ok m)
      (known : settings.builtIns = .ok builtIns)
      (isRun : run = Generation.generate w m (.text (target settings given))
        (BuiltIn.plugins builtIns) PoolMemory.none)
      (outcome : finish.outcome = runCode run.outcome) (left : finish.workspace = run.workspace)

theorem generateCode_course :
    Course read w modelFile given settingsFile
      (generateCode read w modelFile given settingsFile) := by
  unfold generateCode
  cases loaded : (Settings.load read w settingsFile).outcome with
  | error failure =>
      dsimp only
      rw [loaded]
      exact .stopped (.settings loaded) rfl rfl
  | ok settings =>
      dsimp only
      rw [loaded]
      dsimp only
      cases prepared : prepare read w settings modelFile with
      | error failure =>
          refine .stopped ?_ rfl rfl
          rcases Except.bind_eq_error_iff.mp prepared with failed | ⟨m, described, rest⟩
          · exact .model loaded failed
          · rcases Except.bind_eq_error_iff.mp rest with failed | ⟨_, _, impossible⟩
            · exact .builtIns loaded described failed
            · cases impossible
      | ok both =>
          obtain ⟨m, described, rest⟩ := Except.bind_eq_ok_iff.mp prepared
          obtain ⟨builtIns, known, same⟩ := Except.bind_eq_ok_iff.mp rest
          cases same
          exact .ran loaded described known rfl rfl rfl

variable {read w modelFile given settingsFile} {settings : Settings}

theorem effective_iff {directory : String}
    (loaded : (Settings.load read w settingsFile).outcome = .ok settings) :
    Effective read w given settingsFile directory ↔ directory = target settings given := by
  constructor
  · intro effective
    cases effective with
    | given isGiven nonempty => rw [isGiven, target, if_neg nonempty]
    | configured again missing =>
        obtain rfl := Except.ok.inj (loaded.symm.trans again)
        rcases missing with rfl | rfl <;> rfl
  · rintro rfl
    cases given with
    | none => exact .configured loaded (.inl rfl)
    | some directory =>
        rw [target]
        split
        · next empty => exact .configured loaded (.inr (congrArg some empty))
        · next nonempty => exact .given rfl nonempty

theorem Stops.unique {first second : Failure}
    (stops : Stops read w modelFile settingsFile first)
    (again : Stops read w modelFile settingsFile second) : first = second := by
  cases stops with
  | settings failed =>
      cases again with
      | settings other => exact Except.error.inj (failed.symm.trans other)
      | model loaded => cases failed.symm.trans loaded
      | builtIns loaded => cases failed.symm.trans loaded
  | model loaded failed =>
      cases again with
      | settings other => cases loaded.symm.trans other
      | model _ other => exact Except.error.inj (failed.symm.trans other)
      | builtIns _ described => cases failed.symm.trans described
  | builtIns loaded described failed =>
      cases again with
      | settings other => cases loaded.symm.trans other
      | model _ other => cases described.symm.trans other
      | builtIns same _ other =>
          obtain rfl := Except.ok.inj (loaded.symm.trans same)
          exact Except.error.inj (failed.symm.trans other)

theorem not_stops {m : Model} {builtIns : List BuiltIn} {failure : Failure}
    (loaded : (Settings.load read w settingsFile).outcome = .ok settings)
    (described : Model.load read w modelFile = .ok m) (known : settings.builtIns = .ok builtIns) :
    ¬Stops read w modelFile settingsFile failure := by
  intro stops
  cases stops with
  | settings failed => cases loaded.symm.trans failed
  | model _ failed => cases described.symm.trans failed
  | builtIns again _ failed =>
      obtain rfl := Except.ok.inj (loaded.symm.trans again)
      cases known.symm.trans failed

end Course

/-! ## Flaws -/

section Flaws

variable (read : DocumentReader) (w : Workspace) (modelFile : String)
  (given settingsFile : Option String)

/-- A flaw that is to be reported: settings or a model that cannot be had, generators that are not
known, or a blank target. -/
inductive Flawed : Prop where
  | settings {failure : Failure}
      (failed : (Settings.load read w settingsFile).outcome = .error failure)
      (reported : failure.isReported = true)
  | model {failure : Failure} (failed : Model.load read w modelFile = .error failure)
      (reported : failure.isReported = true)
  | builtIns {settings : Settings} {failure : Failure}
      (loaded : (Settings.load read w settingsFile).outcome = .ok settings)
      (failed : settings.builtIns = .error failure) (reported : failure.isReported = true)
  | target {directory : String} (effective : Effective read w given settingsFile directory)
      (blank : Text.allBlank directory = true)

/-- The program is stopped by a failure that is not reported. -/
def Escapes (failure : Failure) : Prop :=
  Stops read w modelFile settingsFile failure ∧ failure.isReported = false

variable {read w modelFile given settingsFile} {failure : Failure}

/-- What stops the program is a flaw, unless it passes by the reports. -/
theorem Stops.flawed (stops : Stops read w modelFile settingsFile failure)
    (reported : failure.isReported = true) : Flawed read w modelFile given settingsFile := by
  cases stops with
  | settings failed => exact .settings failed reported
  | model _ failed => exact .model failed reported
  | builtIns loaded _ failed => exact .builtIns loaded failed reported

theorem finish_of_escapes (escapes : Escapes read w modelFile settingsFile failure) :
    let finish := generateCode read w modelFile given settingsFile
    finish.outcome = .error failure ∧ finish.workspace = w := by
  obtain ⟨stops, unreported⟩ := escapes
  cases generateCode_course read w modelFile given settingsFile with
  | stopped again outcome left =>
      obtain rfl := stops.unique again
      exact ⟨outcome.trans (exitCode_eq_error_iff.mpr ⟨rfl, unreported⟩), left⟩
  | ran loaded described known => exact absurd stops (not_stops loaded described known)

/-- Unless a failure passes by the reports, a flaw ends the program with exit code 1 and the files
as they were. -/
theorem finish_of_flawed (flawed : Flawed read w modelFile given settingsFile)
    (none : ¬∃ failure, Escapes read w modelFile settingsFile failure) :
    let finish := generateCode read w modelFile given settingsFile
    finish.outcome = .ok 1 ∧ finish.workspace = w := by
  cases generateCode_course read w modelFile given settingsFile with
  | @stopped failure stops outcome left =>
      refine ⟨outcome.trans (exitCode_eq_one_iff.mpr ?_), left⟩
      cases reported : failure.isReported with
      | true => rfl
      | false => exact absurd ⟨failure, stops, reported⟩ none
  | ran loaded described known isRun outcome left =>
      -- All inputs are there, so the flaw is the target, and the run refuses it.
      cases flawed with
      | settings failed => cases loaded.symm.trans failed
      | model failed => cases described.symm.trans failed
      | builtIns again failed =>
          obtain rfl := Except.ok.inj (loaded.symm.trans again)
          cases known.symm.trans failed
      | target effective blank =>
          obtain rfl := (effective_iff loaded).mp effective
          obtain ⟨refused, kept⟩ := Generation.generate_of_blank blank _ _ _
          rw [← isRun] at refused kept
          exact ⟨by rw [outcome, refused]; rfl, left.trans kept⟩

/-- A flaw that is to be reported gives exit code 1 and leaves the files alone, unless a failure of
a loader escapes before; without either, the exit code and the files are exactly those of the
run. -/
theorem generateCode_exact (read : DocumentReader) (w : Workspace) (modelFile : String)
    (given settingsFile : Option String) :
    let finish := generateCode read w modelFile given settingsFile
    let flawed := Flawed read w modelFile given settingsFile
    let escapes := Escapes read w modelFile settingsFile
    (flawed → ((finish.outcome = .ok 1 ∧ finish.workspace = w) ↔ ¬∃ failure, escapes failure)) ∧
    (∀ failure, escapes failure → finish.outcome = .error failure ∧ finish.workspace = w) ∧
    (¬flawed → (¬∃ failure, escapes failure) → ∃ settings m builtIns directory,
      (Settings.load read w settingsFile).outcome = .ok settings ∧
      Model.load read w modelFile = .ok m ∧ settings.builtIns = .ok builtIns ∧
      Effective read w given settingsFile directory ∧
      let run := Generation.generate w m (.text directory) (BuiltIn.plugins builtIns)
        PoolMemory.none
      finish.workspace = run.workspace ∧
      (finish.outcome = .ok 0 ↔ ∃ artifacts, run.outcome = .ok artifacts) ∧
      (finish.outcome = .ok 1 ↔
        ∃ failure, run.outcome = .error failure ∧ failure.isReported = true) ∧
      ∀ failure, finish.outcome = .error failure ↔
        run.outcome = .error failure ∧ failure.isReported = false) := by
  intro finish flawed escapes
  refine ⟨fun flaw => ⟨?_, finish_of_flawed flaw⟩, fun _ => finish_of_escapes, ?_⟩
  · rintro ⟨one, _⟩ ⟨failure, escaping⟩
    cases one.symm.trans (finish_of_escapes escaping).1
  · intro sound none
    cases generateCode_course read w modelFile given settingsFile with
    | @stopped failure stops =>
        cases reported : failure.isReported with
        | true => exact absurd (stops.flawed reported) sound
        | false => exact absurd ⟨failure, stops, reported⟩ none
    | @ran settings m builtIns run loaded described known isRun outcome left =>
        refine ⟨settings, m, builtIns, target settings given, loaded, described, known,
          (effective_iff loaded).mpr rfl, ?_⟩
        rw [← isRun, outcome]
        exact ⟨left, runCode_exact run.outcome⟩

/-- A model file that is no text ends the program without an exit code, although the target is
blank. -/
theorem not_generateCode_exact_bytes :
    let w : Workspace :=
      ⟨FileTree.empty.put ["s.yaml"] (.file ⟨#[0xff]⟩), [], [], "\n", Workspace.usualRoom⟩
    let read := DocumentReader.ofText fun _ => some .null
    Flawed read w "s.yaml" (some " ") none ∧
      (generateCode read w "s.yaml" (some " ") none).outcome = .error (.file .undecodable) := by
  intro w read
  have failed : Model.load read w "s.yaml" = .error (.file .undecodable) := by rfl
  have loaded : (Settings.load read w none).outcome = .ok Settings.default := by rfl
  refine ⟨.target (.given rfl (by decide)) (by decide), ?_⟩
  exact (finish_of_escapes ⟨.model loaded failed, rfl⟩).1

end Flaws

end CommandLine

end EntityScribe
