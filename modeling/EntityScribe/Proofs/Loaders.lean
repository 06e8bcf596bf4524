import EntityScribe.CommandLine
import EntityScribe.Proofs.Refusals

/-!
# Which flaws of files are reported

A file of settings or of a model that cannot be used is a fault of the configuration or of the model
and ends the program with exit code 1. A few flaws pass by these reports: a path that is not even
looked up, whatever is wrong with a text but that it is not well formed, for one bytes that are no
text, a key of the settings that is no text, and what cannot be written.
-/

namespace EntityScribe

/-- A reader of documents by a parser of texts, which gives no document for a text that is not well
formed. -/
def DocumentReader.ofText (parse : String → Option Document) : DocumentReader := fun bytes =>
  match String.fromUTF8? bytes with
  | none => .error .undecodable
  | some s =>
      match parse (String.ofList (Text.unifyLineEnds s.toList)) with
      | none => .error .malformed
      | some d => .ok d

variable {read : DocumentReader} {w : Workspace} {path : String} {e : FileError}

/-! ## Texts in files -/

namespace Workspace

/-- The bytes of a file, if it is there, are a text. -/
def Decodes (w : Workspace) (path : String) : Prop :=
  ∀ bytes, w.readBytes path = .ok bytes → ∃ s, String.fromUTF8? bytes = some s

/-- If anything is wrong with the text in a file, it is not well formed. -/
def Readable (w : Workspace) (read : DocumentReader) (path : String) : Prop :=
  ∀ bytes problem, w.readBytes path = .ok bytes → read bytes = .error problem → problem = .malformed

/-- The document that the bytes of a file are read as. -/
def documentIn (w : Workspace) (read : DocumentReader) (path : String) : Option Document :=
  match w.readBytes path with
  | .ok bytes => (read bytes).toOption
  | .error _ => none

theorem documentIn_of_error (failed : w.readBytes path = .error e) :
    w.documentIn read path = none := by
  rw [documentIn, failed]

theorem documentIn_of_bytes {bytes : ByteArray} (there : w.readBytes path = .ok bytes) :
    w.documentIn read path = (read bytes).toOption := by
  rw [documentIn, there]

theorem readable_iff {bytes : ByteArray} (there : w.readBytes path = .ok bytes) :
    w.Readable read path ↔ ∀ problem, read bytes = .error problem → problem = .malformed := by
  constructor
  · intro readable problem
    exact readable bytes problem there
  · intro readable same problem here
    obtain rfl := Except.ok.inj (there.symm.trans here)
    exact readable problem

/-- For a parser of texts, only bytes that are no text are a problem of another kind. -/
theorem readable_ofText_iff (w : Workspace) (parse : String → Option Document) (path : String) :
    w.Readable (.ofText parse) path ↔ w.Decodes path := by
  have own (bytes : ByteArray) :
      (∀ problem, DocumentReader.ofText parse bytes = .error problem → problem = .malformed) ↔
        ∃ s, String.fromUTF8? bytes = some s := by
    unfold DocumentReader.ofText
    cases String.fromUTF8? bytes with
    | none => simp
    | some s =>
        dsimp only
        cases parse (String.ofList (Text.unifyLineEnds s.toList)) with
        | none => simp
        | some d => simp
  constructor
  · exact fun readable bytes there => (own bytes).mp fun problem => readable bytes problem there
  · exact fun decodes bytes problem there => (own bytes).mpr (decodes bytes there) problem

theorem locate_of_null (null : '\x00' ∈ path.toList) : w.locate path = .error .nullInPath :=
  if_pos (List.contains_iff_mem.mpr null)

theorem readBytes_of_null (null : '\x00' ∈ path.toList) :
    w.readBytes path = .error .nullInPath := by
  rw [readBytes, locate_of_null null]

theorem isSystem_of_locate (named : '\x00' ∉ path.toList) (failed : w.locate path = .error e) :
    e.isSystem = true := by
  unfold locate ask at failed
  split at failed
  · next null => exact absurd (List.contains_iff_mem.mp null) named
  · split at failed
    · cases failed
      rfl
    · split at failed
      · cases failed
        rfl
      · split at failed
        · cases failed
        · cases failed
          rfl

/-- The system itself refuses to read a file, unless the path never reaches it. -/
theorem isSystem_of_readBytes_iff (failed : w.readBytes path = .error e) :
    e.isSystem = true ↔ '\x00' ∉ path.toList := by
  constructor
  · intro system null
    cases failed.symm.trans (readBytes_of_null null)
    cases system
  · intro named
    unfold readBytes at failed
    split at failed
    · next why refused =>
        cases failed
        exact isSystem_of_locate named refused
    · split at failed
      · cases failed
      · cases failed
        rfl

end Workspace

/-! ## Verdicts -/

/-- There is a value or a failure of one kind where something is guarded, and elsewhere a failure
that is not reported. -/
def Verdict {α β : Type} (guarded : Prop) (kind : β → Failure) (result : Except Failure α) : Prop :=
  (guarded ∧ ((∃ a, result = .ok a) ∨ ∃ b, result = .error (kind b))) ∨
    (¬guarded ∧ ∃ failure, result = .error failure ∧ failure.isReported = false)

section Verdicts

variable {α β : Type} {guarded other : Prop} {kind : β → Failure} {result : Except Failure α}

theorem Verdict.congr (verdict : Verdict guarded kind result) (same : other ↔ guarded) :
    Verdict other kind result := by
  unfold Verdict
  rw [same]
  exact verdict

/-- If the failures of the kind are reported, reports tell what is guarded. -/
theorem Verdict.reported_iff (verdict : Verdict guarded kind result)
    (own : ∀ b, (kind b).isReported = true) :
    (((∃ a, result = .ok a) ∨ ∃ b, result = .error (kind b)) ↔ guarded) ∧
      ∀ failure, result = .error failure → (failure.isReported = true ↔ guarded) := by
  rcases verdict with ⟨holds, given⟩ | ⟨fails, other, failed, unreported⟩
  · refine ⟨iff_of_true given holds, fun failure here => iff_of_true ?_ holds⟩
    rcases given with ⟨a, ok⟩ | ⟨b, reported⟩
    · cases here.symm.trans ok
    · cases here.symm.trans reported
      exact own b
  · refine ⟨iff_of_false ?_ fails, fun failure here => iff_of_false ?_ fails⟩
    · rintro (⟨a, ok⟩ | ⟨b, reported⟩)
      · cases failed.symm.trans ok
      · cases failed.symm.trans reported
        cases (own b).symm.trans unreported
    · cases failed.symm.trans here
      exact Bool.eq_false_iff.mp unreported

theorem ofProblem_unreported {ifMalformed : Failure} {problem : Yaml.Problem}
    (other : problem ≠ .malformed) :
    (Failure.ofProblem ifMalformed problem).isReported = false := by
  cases problem with
  | malformed => exact absurd rfl other
  | undecodable => rfl
  | tooDeep => rfl
  | value fault => rfl

/-- The verdict on a file whose failures and malformed texts are of the kind, by the verdicts on the
documents in it. -/
theorem verdict_of_reading {Good : Document → Prop} (unreadable : FileError → β) (malformed : β)
    {use : Document → Except Failure α} (uses : ∀ d, Verdict (Good d) kind (use d)) :
    Verdict
      ('\x00' ∉ path.toList ∧ w.Readable read path ∧
        ∀ d, w.documentIn read path = some d → Good d)
      kind
      (match w.readBytes path with
        | .error e =>
            if e.isSystem then Except.error (kind (unreadable e)) else Except.error (.file e)
        | .ok bytes =>
            match read bytes with
            | .error problem => Except.error (Failure.ofProblem (kind malformed) problem)
            | .ok d => use d) := by
  cases there : w.readBytes path with
  | error e =>
      have named := Workspace.isSystem_of_readBytes_iff there
      have noDocument : w.documentIn read path = none := Workspace.documentIn_of_error there
      cases system : e.isSystem with
      | true =>
          refine .inl ⟨⟨named.mp system, ?_, by simp [noDocument]⟩, .inr ⟨_, if_pos system⟩⟩
          intro bytes problem here
          cases there.symm.trans here
      | false =>
          refine .inr ⟨fun guarded => ?_, .file e, by simp [system], rfl⟩
          cases system.symm.trans (named.mpr guarded.1)
  | ok bytes =>
      have named : '\x00' ∉ path.toList := by
        intro null
        cases there.symm.trans (Workspace.readBytes_of_null null)
      rw [Workspace.readable_iff there, Workspace.documentIn_of_bytes there]
      dsimp only
      cases read bytes with
      | error problem =>
          by_cases own : problem = .malformed
          · subst own
            exact .inl ⟨⟨named, by simp, nofun⟩, .inr ⟨malformed, rfl⟩⟩
          · exact .inr ⟨fun guarded => own (guarded.2.1 problem rfl),
              Failure.ofProblem (kind malformed) problem, rfl, ofProblem_unreported own⟩
      | ok d =>
          exact (uses d).congr ⟨fun guarded => guarded.2.2 d rfl,
            fun good => ⟨named, nofun, by simpa [Except.toOption] using good⟩⟩

end Verdicts

/-! ## Models -/

namespace Model

/-- The file of a model has none of the flaws that pass by unreported. -/
structure Guarded (read : DocumentReader) (w : Workspace) (path : String) : Prop where
  named : '\x00' ∉ path.toList
  readable : w.Readable read path
  legible : ∀ d, w.documentIn read path = some d →
    ∀ cause, ofDocument d ≠ .error (.unwritable cause)

theorem verdict_ofDocument (source : Option String) (d : Document) :
    Verdict (∀ cause, ofDocument d ≠ .error (.unwritable cause)) (Failure.model source)
      ((ofDocument d).mapError (.ofModelFault source)) := by
  cases result : ofDocument d with
  | ok m => exact .inl ⟨by simp, .inl ⟨m, rfl⟩⟩
  | error fault =>
      by_cases unwritable : ∃ cause, fault = .unwritable cause
      · obtain ⟨cause, rfl⟩ := unwritable
        refine .inr ⟨fun legible => legible cause rfl, .ofUnwritable cause, rfl, ?_⟩
        cases cause <;> rfl
      · have other : ∀ cause, fault ≠ .unwritable cause := not_exists.mp unwritable
        exact .inl ⟨fun cause failed => other cause (Except.error.inj failed),
          .inr ⟨.fault fault, result ▸ reported_of_fault source result other⟩⟩

/-- From a guarded file comes a model or a fault of the model. -/
theorem verdict_load (read : DocumentReader) (w : Workspace) (path : String) :
    Verdict (Guarded read w path) (Failure.model (some path)) (load read w path) :=
  (verdict_of_reading .unreadable .malformed (verdict_ofDocument (some path))).congr
    ⟨fun guarded => ⟨guarded.named, guarded.readable, guarded.legible⟩,
      fun ⟨named, readable, legible⟩ => ⟨named, readable, legible⟩⟩

end Model

/-! ## Settings -/

namespace Settings

/-- The file that settings are read from. -/
def fileOf (file : Option String) : Path :=
  match file with
  | some name => if name = "" then standardFile else Path.ofString name
  | none => standardFile

/-- The keys of a document are texts, if it has any. -/
def KeysAreTexts (d : Document) : Prop :=
  ∀ entries, d.entries? = some entries → hasTextKeys entries = true

/-- The file of settings has none of the flaws that pass by unreported. -/
structure Guarded (read : DocumentReader) (w : Workspace) (path : String) : Prop where
  found : ∀ p, w.locate path ≠ .error (.refused .nameTooLong p)
  readable : w.Readable read path
  keyed : ∀ d, w.documentIn read path = some d → KeysAreTexts d

theorem verdict_ofFileDocument (path : Path) (d : Document) :
    Verdict (KeysAreTexts d) Failure.configuration (ofFileDocument path d) := by
  unfold ofFileDocument
  cases mapping : (Document.orElse (some d) (.map [])).entries? with
  | none =>
      refine .inl ⟨fun entries own => ?_, .inr ⟨_, rfl⟩⟩
      have given : Schema.Optional Document.isVoid Schema.IsMapping (some d) :=
        .given ⟨entries, own⟩
      cases mapping.symm.trans (Schema.orElse_entries?_eq_some_iff.mpr ⟨given, rfl⟩)
  | some entries =>
      obtain ⟨_, rfl⟩ := Schema.orElse_entries?_eq_some_iff.mp mapping
      rw [Option.bind_some]
      have keys : KeysAreTexts d ↔ hasTextKeys (d.entries?.getD []) = true := by
        unfold KeysAreTexts
        cases d.entries? with
        | none => simp [hasTextKeys]
        | some own => simp
      refine Verdict.congr ?_ keys
      cases keyed : hasTextKeys (d.entries?.getD []) with
      | false => exact .inr ⟨by simp, _, by simp only [keyed]; rfl, rfl⟩
      | true =>
          simp only [keyed, if_true]
          cases ofEntries (d.entries?.getD []) with
          | ok s => exact .inl ⟨trivial, .inl ⟨s, rfl⟩⟩
          | error cause => exact .inl ⟨trivial, .inr ⟨_, rfl⟩⟩

section Load

variable {file : Option String}

theorem load_of_refused (refused : w.isPresent (fileOf file).text = .error e) :
    (load read w file).outcome = .error (.file e) := by
  cases file <;> simp only [fileOf] at refused <;> simp only [load, refused]

theorem load_of_absent (absent : w.isPresent (fileOf file).text = .ok false) :
    (load read w file).outcome = .ok default := by
  cases file <;> simp only [fileOf] at absent <;> simp only [load, absent]

theorem load_of_present (present : w.isPresent (fileOf file).text = .ok true) :
    (load read w file).outcome = readFile read w (fileOf file) := by
  cases file <;> simp only [fileOf] at present <;> simp only [load, fileOf, present]

end Load

/-- From a guarded file come settings or a fault of the configuration. -/
theorem verdict_load (read : DocumentReader) (w : Workspace) (file : Option String) :
    Verdict (Guarded read w (fileOf file).text) Failure.configuration
      (load read w file).outcome := by
  cases located : w.locate (fileOf file).text with
  | ok place =>
      have present : w.isPresent (fileOf file).text = .ok true := by
        rw [Workspace.isPresent, located]
      have named : '\x00' ∉ (fileOf file).text.toList := by
        intro null
        cases located.symm.trans (Workspace.locate_of_null null)
      have verdict : Verdict _ Failure.configuration (readFile read w (fileOf file)) :=
        verdict_of_reading (.unreadable _) (.malformed _) (verdict_ofFileDocument (fileOf file))
      rw [load_of_present present]
      exact verdict.congr ⟨fun guarded => ⟨named, guarded.readable, guarded.keyed⟩,
        fun ⟨_, readable, keyed⟩ => ⟨by simp [located], readable, keyed⟩⟩
  | error e =>
      by_cases tooLong : ∃ p, e = .refused .nameTooLong p
      · obtain ⟨p, rfl⟩ := tooLong
        have refused : w.isPresent (fileOf file).text = .error (.refused .nameTooLong p) := by
          rw [Workspace.isPresent, located]
        exact .inr ⟨fun guarded => guarded.found p located, _, load_of_refused refused, rfl⟩
      -- Whatever else stops the look-up, the file counts as absent and is never opened.
      · have absent : w.isPresent (fileOf file).text = .ok false := by
          unfold Workspace.isPresent
          rw [located]
          split
          · next here => cases here
          · next here =>
              cases here
              exact absurd ⟨_, rfl⟩ tooLong
          · rfl
        have unread : w.readBytes (fileOf file).text = .error e := by
          rw [Workspace.readBytes, located]
        have noDocument : w.documentIn read (fileOf file).text = none :=
          Workspace.documentIn_of_error unread
        refine .inl ⟨⟨fun p here => ?_, fun bytes _ there => ?_, by simp [noDocument]⟩,
          .inl ⟨default, load_of_absent absent⟩⟩
        · exact tooLong ⟨p, Except.error.inj (located.symm.trans here)⟩
        · cases unread.symm.trans there

end Settings

/-! ## The program -/

namespace CommandLine

variable {modelFile : String} {targetDirectory settingsFile : Option String}
  {settings : Settings} {failure : Failure}

theorem outcome_of_settings
    (failed : (Settings.load read w settingsFile).outcome = .error failure) :
    (generateCode read w modelFile targetDirectory settingsFile).outcome = exitCode failure := by
  unfold generateCode
  simp only [failed]

theorem outcome_of_model
    (loaded : (Settings.load read w settingsFile).outcome = .ok settings)
    (failed : Model.load read w modelFile = .error failure) :
    (generateCode read w modelFile targetDirectory settingsFile).outcome = exitCode failure := by
  have prepared : prepare read w settings modelFile = .error failure := by
    rw [prepare, failed]
    rfl
  unfold generateCode
  simp only [loaded, prepared]

theorem exitCode_eq_one_iff : exitCode failure = .ok 1 ↔ failure.isReported = true := by
  unfold exitCode
  cases failure.isReported <;> simp

/-- The loaders give settings and a model or faults of their own, and the program ends with exit
code 1 after such a fault, exactly if the files are guarded. With a parser of texts, the bytes of a
file must be a text for that. -/
theorem loaders_report (read : DocumentReader) (w : Workspace) (modelFile : String)
    (targetDirectory settingsFile : Option String) :
    let loaded := (Settings.load read w settingsFile).outcome
    let outcome := (generateCode read w modelFile targetDirectory settingsFile).outcome
    let settingsGuarded := Settings.Guarded read w (Settings.fileOf settingsFile).text
    (((∃ settings, loaded = .ok settings) ∨ ∃ fault, loaded = .error (.configuration fault)) ↔
      settingsGuarded) ∧
    (((∃ m, Model.load read w modelFile = .ok m) ∨
        ∃ error, Model.load read w modelFile = .error (.model (some modelFile) error)) ↔
      Model.Guarded read w modelFile) ∧
    (∀ failure, loaded = .error failure → (outcome = .ok 1 ↔ settingsGuarded)) ∧
    (∀ settings failure, loaded = .ok settings → Model.load read w modelFile = .error failure →
      (outcome = .ok 1 ↔ Model.Guarded read w modelFile)) ∧
    ∀ parse, read = .ofText parse → ∀ path, w.Readable read path ↔ w.Decodes path := by
  intro loaded outcome settingsGuarded
  obtain ⟨settingsGiven, settingsReported⟩ :=
    (Settings.verdict_load read w settingsFile).reported_iff fun _ => rfl
  obtain ⟨modelGiven, modelReported⟩ :=
    (Model.verdict_load read w modelFile).reported_iff fun _ => rfl
  refine ⟨settingsGiven, modelGiven, ?_, ?_, ?_⟩
  · intro failure failed
    exact (outcome_of_settings failed ▸ exitCode_eq_one_iff).trans (settingsReported failure failed)
  · intro settings failure given failed
    exact (outcome_of_model given failed ▸ exitCode_eq_one_iff).trans (modelReported failure failed)
  · rintro parse rfl path
    exact w.readable_ofText_iff parse path

/-- A model file that is no text ends the program without a report. -/
theorem not_loaders_report_bytes :
    let w : Workspace :=
      ⟨FileTree.empty.put ["s.yaml"] (.file ⟨#[0xff]⟩), [], [], "\n", Workspace.usualRoom⟩
    let read := DocumentReader.ofText fun _ => some .null
    Model.load read w "s.yaml" = .error (.file .undecodable) ∧
      (generateCode read w "s.yaml" none none).outcome = .error (.file .undecodable) := by
  intro w read
  have failed : Model.load read w "s.yaml" = .error (.file .undecodable) := by rfl
  have given : (Settings.load read w none).outcome = .ok Settings.default := by rfl
  exact ⟨failed, outcome_of_model given failed⟩

end CommandLine

end EntityScribe
