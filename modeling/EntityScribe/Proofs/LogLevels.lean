import EntityScribe.Proofs.ExitCodes
import EntityScribe.Proofs.Indifference

/-!
# The log level

The level in the settings decides what is seen of the log, and nothing else. Under a higher level
the program ends in the same way and leaves the same files; what it shows after the settings are
known is what it shows under the lower level, without the records below the higher one.
-/

namespace EntityScribe

/-- A higher level shows of the records that a lower one shows those that reach it. -/
theorem visible_visible {a b : LogLevel} (le : a.rank ≤ b.rank) (records : List LogRecord) :
    visible b records = (visible a records).filter (·.reaches b) := by
  rw [visible, visible, List.filter_filter]
  refine List.filter_congr fun record _ => ?_
  have reaches : record.reaches b = true → record.reaches a = true := by
    simp only [LogRecord.reaches, decide_eq_true_eq]
    exact le.trans
  cases shown : record.reaches b with
  | false => rfl
  | true => rw [reaches shown]; rfl

namespace Settings

/-- The settings come from a file that is there. -/
structure FromFile (read : DocumentReader) (w : Workspace) (file : Option String) (s : Settings) :
    Prop where
  present : w.isPresent (fileOf file).text = .ok true
  loaded : (load read w file).outcome = .ok s

/-- Nothing is logged about settings from a file. -/
theorem FromFile.load_eq {read : DocumentReader} {w : Workspace} {file : Option String}
    {s : Settings} (fromFile : FromFile read w file s) : load read w file = ⟨.ok s, []⟩ := by
  obtain ⟨present, loaded⟩ := fromFile
  rw [load_of_present present] at loaded
  cases file <;> simp only [fileOf] at present loaded <;> simp only [load, present, loaded]

end Settings

namespace CommandLine

/-- Two ways for the program to end that differ in the level of the log only, besides the content of
the file at one place: under the higher level `b` is seen what reaches it of what is seen under
`a`. -/
structure Finish.Filtered (p : Place) (a b : LogLevel) (lower higher : Finish) : Prop where
  outcome : higher.outcome = lower.outcome
  workspace : lower.workspace.AlikeBut p higher.workspace
  levels : lower.level = some a ∧ higher.level = some b
  early : higher.early = lower.early
  late : visible b higher.late = (visible a lower.late).filter (·.reaches b)

variable {read : DocumentReader} {p : Place} {v w : Workspace} {modelFile : String}

/-- The level has no part in what a run is prepared from. -/
theorem prepare_congr (schema : Model.load read w modelFile = Model.load read v modelFile)
    (settings : Settings) (a b : LogLevel) :
    prepare read w { settings with logLevel := b } modelFile =
      prepare read v { settings with logLevel := a } modelFile := by
  rw [prepare, schema]
  rfl

/-- A higher log level leaves out log records and changes nothing else. The two settings may stand
in two files of one workspace, or be two contents of one file from which the model does not
come. -/
theorem generateCode_filtered (alike : v.AlikeBut p w)
    (schema : Model.load read w modelFile = Model.load read v modelFile)
    {settings : Settings} {a b : LogLevel} (le : a.rank ≤ b.rank) {lowFile highFile : Option String}
    (low : Settings.FromFile read v lowFile { settings with logLevel := a })
    (high : Settings.FromFile read w highFile { settings with logLevel := b })
    (given : Option String) :
    let lower := generateCode read v modelFile given lowFile
    let higher := generateCode read w modelFile given highFile
    Finish.Filtered p a b lower higher ∧ (w = v → higher.workspace = lower.workspace) := by
  intro lower higher
  have same := prepare_congr schema settings a b
  simp only [lower, higher, generateCode, low.load_eq, high.load_eq, same]
  cases prepare read v { settings with logLevel := a } modelFile with
  | error failure =>
      exact ⟨⟨rfl, alike, ⟨rfl, rfl⟩, rfl, visible_visible le _⟩, id⟩
  | ok prepared =>
      obtain ⟨m, builtIns⟩ := prepared
      have runs := Generation.generate_alike alike m (.text (target settings given))
        (BuiltIn.plugins builtIns) PoolMemory.none
      have known (level : LogLevel) :
          target { settings with logLevel := level } given = target settings given := rfl
      simp only [known, ending]
      refine ⟨⟨?_, runs.workspace, ⟨rfl, rfl⟩, rfl, ?_⟩, ?_⟩
      · rw [runs.outcome]
      · rw [runs.log, runs.outcome, runs.diagnostics, visible_visible le]
      · rintro rfl
        rfl

/-- One file of settings with two contents, and two files of settings beside each other. -/
theorem generateCode_filtered_error :
    let holding (content : String) : Workspace :=
      ⟨((FileTree.empty.put ["s.yaml"] (.file "\x7b\x7d".toUTF8)).put ["d.yaml"]
        (.file "log_level: error".toUTF8)).put ["c.yaml"] (.file content.toUTF8), [], [], "\n",
        Workspace.usualRoom⟩
    let read : DocumentReader := fun bytes =>
      if bytes.data = "log_level: debug".toUTF8.data then
        .ok (.map [(.text "log_level", .text "debug")])
      else if bytes.data = "log_level: error".toUTF8.data then
        .ok (.map [(.text "log_level", .text "error")])
      else .ok (.map [])
    let finish (content settingsFile : String) : Finish :=
      generateCode read (holding content) "s.yaml" none (some settingsFile)
    let lower := finish "log_level: debug" "c.yaml"
    Finish.Filtered ["c.yaml"] .debug .error lower (finish "log_level: error" "c.yaml") ∧
      Finish.Filtered [] .debug .error lower (finish "log_level: debug" "d.yaml") ∧
      (finish "log_level: debug" "d.yaml").workspace = lower.workspace := by
  intro holding read finish lower
  have low : Settings.FromFile read (holding "log_level: debug") (some "c.yaml")
      { Settings.default with logLevel := .debug } := ⟨by rfl, by rfl⟩
  have rewritten : Settings.FromFile read (holding "log_level: error") (some "c.yaml")
      { Settings.default with logLevel := .error } := ⟨by rfl, by rfl⟩
  have beside : Settings.FromFile read (holding "log_level: debug") (some "d.yaml")
      { Settings.default with logLevel := .error } := ⟨by rfl, by rfl⟩
  have alike : (holding "log_level: debug").AlikeBut ["c.yaml"] (holding "log_level: error") :=
    ⟨FileTree.alikeBut_put _ _ _ _, rfl, rfl, rfl, rfl⟩
  have elsewhere : (holding "log_level: debug").locate "s.yaml" ≠ .ok ["c.yaml"] := by
    have found : (holding "log_level: debug").locate "s.yaml" = .ok ["s.yaml"] := by rfl
    rw [found]
    decide
  have schema := Model.load_congr alike elsewhere read
  obtain ⟨same, leaves⟩ :=
    generateCode_filtered (.refl [] (holding "log_level: debug")) rfl (by decide) low beside none
  exact ⟨(generateCode_filtered alike schema (by decide) low rewritten none).1, same, leaves rfl⟩

end CommandLine

end EntityScribe
