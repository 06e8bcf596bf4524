import EntityScribe.Proofs.Obstacles
import EntityScribe.Proofs.Persistence

/-!
# Preparing a target

The cleaning of a target ends well or with a fault of the configuration, unless the path holds a
null character or is found to be too long, there is no room to make the directories that are
missing, or the target is there and cannot be walked through. After a fault of the configuration no
file has been touched, and no directory has been made unless something was missing along the path.
-/

namespace EntityScribe

namespace Target

variable {w : Workspace} {directory : Document} {resolved path : String} {top : Place}

/-! ## How a cleaning ends -/

/-- The target is there, or a fault of the configuration is reported. -/
def Prepared (resolved : String) (cleaned : Cleaned) : Prop :=
  (∃ leftovers top, cleaned.outcome = .ok leftovers ∧ cleaned.workspace.LeadsTo resolved top) ∨
    ∃ fault, cleaned.outcome = .error (.configuration fault)

theorem Prepared.eq_configuration {cleaned : Cleaned} {failure : Failure}
    (prepared : Prepared resolved cleaned) (failed : cleaned.outcome = .error failure) :
    ∃ fault, failure = .configuration fault := by
  rcases prepared with ⟨_, _, succeeded, _⟩ | ⟨fault, reported⟩
  · cases failed.symm.trans succeeded
  · exact ⟨fault, Except.error.inj (failed.symm.trans reported)⟩

/-- Where something else stands, a fault of the configuration is reported. -/
theorem clean_of_occupied (isResolved : resolve directory = .ok resolved)
    (found : w.locate (Path.ofString resolved).text = .ok top)
    (occupied : w.tree.isDirectory top = false) :
    clean w directory =
      ⟨.error (.configuration (.targetNotDirectory (Path.ofString resolved).text)), w, [], []⟩ := by
  rw [clean, isResolved]
  dsimp only
  rw [found]
  dsimp only
  rw [if_neg (Bool.eq_false_iff.mp occupied)]

/-- Where nothing is found, the target is made. -/
theorem clean_of_unfound (isResolved : resolve directory = .ok resolved) {e : FileError}
    (unfound : w.locate (Path.ofString resolved).text = .error e)
    (short : ∀ q, e ≠ .refused .nameTooLong q) :
    clean w directory = create w (Path.ofString resolved) := by
  rw [clean, isResolved]
  dsimp only
  rw [unfound]
  split
  · next other => cases other
  · next q other => exact absurd (Except.error.inj other) (short q)
  · rfl

theorem create_workspace (w : Workspace) (p : Path) :
    (create w p).workspace = (w.makeDirectories p).2 := by
  unfold create
  split
  · next made result => rw [result]
  · next halt made result => rw [result]

theorem create_diagnostics (w : Workspace) (p : Path) : (create w p).diagnostics = [] := by
  unfold create
  split <;> rfl

theorem create_of_made {p : Path} (made : (w.makeDirectories p).1 = .ok ()) :
    (create w p).outcome = .ok [] := by
  unfold create
  split
  · rfl
  · next halt _ result =>
      rw [result] at made
      cases made

theorem create_of_failed {p : Path} {halt : Halt}
    (failed : (w.makeDirectories p).1 = .error halt) :
    (create w p).outcome = .error (.ofHalt (makingFailure p) halt) := by
  unfold create
  split
  · next _ result =>
      rw [result] at failed
      cases failed
  · next other _ result =>
      rw [result] at failed
      cases failed
      rfl

theorem making_of_isSystem {p : Path} {halt : Halt} (system : halt.isSystem = true) :
    ∃ fault, Failure.ofHalt (makingFailure p) halt = .configuration fault := by
  cases halt with
  | failed e => exact ⟨_, if_pos system⟩
  | tooDeep => cases system

theorem null_mem_text_iff :
    '\x00' ∈ (Path.ofString resolved).text.toList ↔ '\x00' ∈ resolved.toList :=
  Path.mem_text_iff (by decide) (by decide)

/-- A null character stops the cleaning, and not by a fault of the configuration. -/
theorem clean_of_null (isResolved : resolve directory = .ok resolved)
    (null : '\x00' ∈ resolved.toList) :
    clean w directory = ⟨.error (.file .nullInPath), w, [], []⟩ := by
  have inside : (Path.ofString resolved).text.toList.contains '\x00' = true := by
    simpa using null_mem_text_iff.mpr null
  have unfound : w.locate (Path.ofString resolved).text = .error .nullInPath := by
    rw [Workspace.locate, Workspace.ask, if_pos inside]
  have unmade : w.makeDirectory (Path.ofString resolved).text = .error .nullInPath := by
    rw [Workspace.makeDirectory, Workspace.ask, if_pos inside]
  rw [clean_of_unfound isResolved unfound fun q => FileError.noConfusion]
  unfold create Workspace.makeDirectories Workspace.makeDirectoriesWithin
  rw [unmade]
  rfl

theorem clean_of_tooLong (isResolved : resolve directory = .ok resolved) {q : String}
    (found : w.locate (Path.ofString resolved).text = .error (.refused .nameTooLong q)) :
    clean w directory = ⟨.error (.file (.refused .nameTooLong q)), w, [], []⟩ := by
  rw [clean, isResolved]
  dsimp only
  rw [found]

/-- A path that is found to be too long stops the cleaning, and not by a fault of the
configuration. -/
theorem clean_of_overlong (isResolved : resolve directory = .ok resolved)
    (noNull : '\x00' ∉ resolved.toList) (long : w.Overlong (Path.ofString resolved)) :
    clean w directory =
      ⟨.error (.file (.refused .nameTooLong (Path.ofString resolved).text)), w, [], []⟩ := by
  have shown : '\x00' ∉ (Path.ofString resolved).text.toList :=
    fun inside => noNull (null_mem_text_iff.mp inside)
  exact clean_of_tooLong isResolved ((Workspace.locate_eq_nameTooLong_iff
    (Path.normal_ofString resolved) (segments_ne_nil_of_resolve isResolved)).mpr ⟨shown, long⟩)

theorem askable_of_short (isResolved : resolve directory = .ok resolved)
    (noNull : '\x00' ∉ resolved.toList) (short : ¬ w.Overlong (Path.ofString resolved)) :
    Workspace.Askable (Path.ofString resolved).text where
  noNull := by
    simpa using fun inside => noNull (null_mem_text_iff.mp inside)
  nonempty := (Path.normal_ofString resolved).text_ne_empty (segments_ne_nil_of_resolve isResolved)
  short := Nat.not_le.mp fun long => short (.inl long)

/-- Where something is missing along the path, a cleaning is the making of the target. -/
theorem clean_of_lacks (isResolved : resolve directory = .ok resolved)
    (lacks : w.Lacks (Path.ofString resolved).text) :
    clean w directory = create w (Path.ofString resolved) := by
  obtain ⟨q, absent⟩ := lacks
  exact clean_of_unfound isResolved absent fun q => by simp

/-- The way to the target or the target itself is too deep: something is missing with no room to
come to it, or the target is there and cannot be walked through. -/
def Barred (w : Workspace) (resolved : String) : Prop :=
  w.MissesEarly w.room (Path.ofString resolved) ∨
    ∃ top, w.LeadsTo resolved top ∧ ¬ Walkable w (Path.ofString resolved) top

/-- Such a target stops the cleaning, and not by a fault of the configuration. -/
theorem clean_of_barred (isResolved : resolve directory = .ok resolved)
    (noNull : '\x00' ∉ resolved.toList) (short : ¬ w.Overlong (Path.ofString resolved))
    (barred : Barred w resolved) :
    ∃ halt, HaltBelow (Path.ofString resolved) halt ∧
      (clean w directory).outcome = .error (.ofHalt .file halt) := by
  have normal := Path.normal_ofString resolved
  have some := segments_ne_nil_of_resolve isResolved
  have askable := askable_of_short isResolved noNull short
  rcases barred with early | ⟨top, leads, unwalkable⟩
  · have lacks := (Workspace.lacks_text_iff normal some askable).mpr early.misses
    have deep := (Workspace.makeDirectories_eq_tooDeep_iff normal some askable).mpr early
    refine ⟨.tooDeep, .inl rfl, ?_⟩
    rw [clean_of_lacks isResolved lacks, create_of_failed deep]
    rfl
  · rw [clean_of_leadsTo isResolved leads]
    exact sweep_outcome_of_not_walkable unwalkable

/-- Without a null character, and if neither the path is found to be too long nor the target is
barred, the target is prepared. -/
theorem prepared_clean (isResolved : resolve directory = .ok resolved)
    (noNull : '\x00' ∉ resolved.toList) (short : ¬ w.Overlong (Path.ofString resolved))
    (isOpen : ¬ Barred w resolved) :
    Prepared resolved (clean w directory) := by
  have normal := Path.normal_ofString resolved
  have some := segments_ne_nil_of_resolve isResolved
  have askable := askable_of_short isResolved noNull short
  cases ended : (clean w directory).outcome with
  | ok leftovers =>
      obtain ⟨other, top, again, leads⟩ := leadsTo_of_clean ended
      obtain rfl : resolved = other := Except.ok.inj (isResolved.symm.trans again)
      exact .inl ⟨leftovers, top, ended, leads⟩
  | error failure =>
      right
      rw [ended]
      -- The look-up before the cleaning says which branch it takes.
      cases found : w.locate (Path.ofString resolved).text with
      | ok top =>
          cases directoryThere : w.tree.isDirectory top with
          | true =>
              have walkable : Walkable w (Path.ofString resolved) top := by
                by_contra unwalkable
                exact isOpen (.inr ⟨top, ⟨found, directoryThere⟩, unwalkable⟩)
              rw [clean_of_walkable isResolved ⟨found, directoryThere⟩ walkable] at ended
              cases ended
          | false =>
              rw [clean_of_occupied isResolved found directoryThere] at ended
              exact ⟨_, ended.symm⟩
      | error e =>
          have notLong : ∀ q, e ≠ .refused .nameTooLong q := by
            rintro q rfl
            obtain ⟨rfl, _⟩ := Workspace.ask_eq_refused_iff.mp found
            exact short ((Workspace.locate_eq_nameTooLong_iff normal some).mp found).2
          rw [clean_of_unfound isResolved found notLong] at ended
          cases made : (w.makeDirectories (Path.ofString resolved)).1 with
          | ok =>
              rw [create_of_made made] at ended
              cases ended
          | error halt =>
              rw [create_of_failed made] at ended
              rcases Workspace.isSystem_of_makeDirectories normal some askable made with
                rfl | system
              · exact absurd (.inl
                  ((Workspace.makeDirectories_eq_tooDeep_iff normal some askable).mp made)) isOpen
              · obtain ⟨fault, same⟩ := making_of_isSystem (p := Path.ofString resolved) system
                exact ⟨fault, by rw [← ended, same]⟩

theorem not_null_of_allBlank (blank : Text.allBlank path = true) : '\x00' ∉ path.toList := by
  intro inside
  exact absurd (List.all_eq_true.mp blank _ inside) (by decide)

theorem not_haltBelow_text {p : Path} (some : p.segments ≠ []) :
    ¬ HaltBelow p (.failed (.refused .nameTooLong p.text)) := by
  rintro (impossible | ⟨rest, deeper, same⟩)
  · cases impossible
  · injection same with same
    injection same with _ same
    have sizes := congrArg String.utf8ByteSize same
    rw [pathBelow, Path.text_append some deeper, String.utf8ByteSize_append,
      String.utf8ByteSize_append] at sizes
    have separator : "/".utf8ByteSize = 1 := by decide
    omega

theorem not_haltBelow_nullInPath {p : Path} : ¬ HaltBelow p (.failed .nullInPath) := by
  rintro (impossible | ⟨rest, _, impossible⟩) <;> cases impossible

/-- What halts a cleaning is no fault of the configuration. -/
theorem not_prepared_of_halt {cleaned : Cleaned} {halt : Halt}
    (ended : cleaned.outcome = .error (.ofHalt .file halt)) : ¬ Prepared resolved cleaned := by
  intro prepared
  obtain ⟨fault, same⟩ := prepared.eq_configuration ended
  cases halt <;> cases same

theorem halt_unique {cleaned : Cleaned} {halt other : Halt}
    (ended : cleaned.outcome = .error (.ofHalt .file halt))
    (again : cleaned.outcome = .error (.ofHalt .file other)) : halt = other := by
  have same := Except.error.inj (ended.symm.trans again)
  cases halt <;> cases other <;> cases same <;> rfl

/-- The ways in which the cleaning of a path may end, each with what brings it about. -/
theorem clean_cases (w : Workspace) (path : String) :
    ('\x00' ∈ path.toList ∧
        (clean w (.text path)).outcome = .error (.ofHalt .file (.failed .nullInPath))) ∨
      '\x00' ∉ path.toList ∧
        ((Text.allBlank path = false ∧ w.Overlong (Path.ofString (complete path)) ∧
            (clean w (.text path)).outcome = .error (.ofHalt .file
              (.failed (.refused .nameTooLong (Path.ofString (complete path)).text)))) ∨
          (Text.allBlank path = false ∧ ¬ w.Overlong (Path.ofString (complete path)) ∧
            Barred w (complete path) ∧ ∃ halt, HaltBelow (Path.ofString (complete path)) halt ∧
              (clean w (.text path)).outcome = .error (.ofHalt .file halt)) ∨
          ((Text.allBlank path = true ∨
              ¬ w.Overlong (Path.ofString (complete path)) ∧ ¬ Barred w (complete path)) ∧
            Prepared (complete path) (clean w (.text path)))) := by
  have resolution := resolve_text path
  cases blank : Text.allBlank path with
  | true =>
      rw [blank, if_pos rfl] at resolution
      have prepared : Prepared (complete path) (clean w (.text path)) :=
        .inr ⟨_, by rw [clean_of_refused resolution]⟩
      exact .inr ⟨not_null_of_allBlank blank, .inr (.inr ⟨.inl rfl, prepared⟩)⟩
  | false =>
      rw [blank, if_neg Bool.false_ne_true] at resolution
      by_cases null : '\x00' ∈ path.toList
      · refine .inl ⟨null, ?_⟩
        rw [clean_of_null resolution (null_mem_complete_iff.mpr null)]
        rfl
      · have noNull : '\x00' ∉ (complete path).toList := mt null_mem_complete_iff.mp null
        refine .inr ⟨null, ?_⟩
        by_cases long : w.Overlong (Path.ofString (complete path))
        · refine .inl ⟨rfl, long, ?_⟩
          rw [clean_of_overlong resolution noNull long]
          rfl
        · by_cases barred : Barred w (complete path)
          · exact .inr (.inl ⟨rfl, long, barred, clean_of_barred resolution noNull long barred⟩)
          · exact .inr (.inr ⟨.inr ⟨long, barred⟩, prepared_clean resolution noNull long barred⟩)

/-- A target is prepared unless its path holds a null character, or is not blank and is found to be
too long, or the target is barred. A null character and a path that is too long have the error of
the file system for it; of a barred target, the error says that it is too deep, or that the path of
something below it is too long. -/
theorem prepared_clean_iff (w : Workspace) (path : String) :
    (Prepared (complete path) (clean w (.text path)) ↔
      '\x00' ∉ path.toList ∧ (Text.allBlank path = true ∨
        ¬ w.Overlong (Path.ofString (complete path)) ∧ ¬ Barred w (complete path))) ∧
    ((clean w (.text path)).outcome = .error (.file .nullInPath) ↔ '\x00' ∈ path.toList) ∧
    ((clean w (.text path)).outcome =
        .error (.file (.refused .nameTooLong (Path.ofString (complete path)).text)) ↔
      '\x00' ∉ path.toList ∧ Text.allBlank path = false ∧
        w.Overlong (Path.ofString (complete path))) ∧
    ((∃ halt, HaltBelow (Path.ofString (complete path)) halt ∧
        (clean w (.text path)).outcome = .error (.ofHalt .file halt)) ↔
      '\x00' ∉ path.toList ∧ Text.allBlank path = false ∧
        ¬ w.Overlong (Path.ofString (complete path)) ∧ Barred w (complete path)) := by
  have toHalt (e : FileError) : Failure.file e = .ofHalt .file (.failed e) := rfl
  rw [toHalt, toHalt]
  have some (filled : Text.allBlank path = false) :
      (Path.ofString (complete path)).segments ≠ [] := by
    have resolution := resolve_text path
    rw [filled, if_neg Bool.false_ne_true] at resolution
    exact segments_ne_nil_of_resolve resolution
  -- The conditions exclude each other, and so do the ways of ending.
  rcases clean_cases w path with ⟨null, ended⟩ | ⟨noNull, ⟨filled, long, ended⟩ |
    ⟨filled, short, barred, halt, below, ended⟩ | ⟨good, prepared⟩⟩
  · refine ⟨iff_of_false (not_prepared_of_halt ended) fun all => all.1 null,
      iff_of_true ended null, iff_of_false ?_ fun all => all.1 null,
      iff_of_false ?_ fun all => all.1 null⟩
    · exact fun again => nomatch halt_unique ended again
    · exact fun ⟨halt, below, again⟩ =>
        not_haltBelow_nullInPath (halt_unique again ended ▸ below)
  · refine ⟨iff_of_false (not_prepared_of_halt ended) ?_, iff_of_false ?_ noNull,
      iff_of_true ended ⟨noNull, filled, long⟩, iff_of_false ?_ fun all => all.2.2.1 long⟩
    · rintro ⟨_, blank | ⟨short, _⟩⟩
      · exact Bool.false_ne_true (filled.symm.trans blank)
      · exact short long
    · exact fun again => nomatch halt_unique ended again
    · exact fun ⟨halt, below, again⟩ =>
        not_haltBelow_text (some filled) (halt_unique again ended ▸ below)
  · refine ⟨iff_of_false (not_prepared_of_halt ended) ?_, iff_of_false ?_ noNull,
      iff_of_false ?_ fun all => short all.2.2,
      iff_of_true ⟨halt, below, ended⟩ ⟨noNull, filled, short, barred⟩⟩
    · rintro ⟨_, blank | ⟨_, isOpen⟩⟩
      · exact Bool.false_ne_true (filled.symm.trans blank)
      · exact isOpen barred
    · exact fun again => not_haltBelow_nullInPath (halt_unique ended again ▸ below)
    · exact fun again => not_haltBelow_text (some filled) (halt_unique ended again ▸ below)
  · refine ⟨iff_of_true prepared ⟨noNull, good⟩, iff_of_false ?_ noNull, iff_of_false ?_ ?_,
      iff_of_false ?_ ?_⟩
    · exact fun ended => not_prepared_of_halt ended prepared
    · exact fun ended => not_prepared_of_halt ended prepared
    · rintro ⟨_, filled, long⟩
      exact (good.resolve_left (by simp [filled])).1 long
    · exact fun ⟨halt, _, ended⟩ => not_prepared_of_halt ended prepared
    · rintro ⟨_, filled, _, barred⟩
      exact (good.resolve_left (by simp [filled])).2 barred

/-- A null character is not reported as a fault of the configuration. -/
theorem not_prepared_of_null :
    let w : Workspace := ⟨.empty, [], [], "\n", Workspace.usualRoom⟩
    (clean w (.text "\x00")).outcome = .error (.file .nullInPath) ∧
      ¬ Prepared (complete "\x00") (clean w (.text "\x00")) := by
  intro w
  have isResolved : resolve (.text "\x00") = .ok (complete "\x00") := by rfl
  have ended : (clean w (.text "\x00")).outcome =
      .error (.ofHalt .file (.failed .nullInPath)) := by
    rw [clean_of_null isResolved (by decide)]
    rfl
  exact ⟨ended, not_prepared_of_halt ended⟩

/-! ## What a failed cleaning leaves -/

/-- Something is missing along the path of the target. -/
def Missing (w : Workspace) (directory : Document) : Prop :=
  ∃ resolved, resolve directory = .ok resolved ∧ w.Misses (Path.ofString resolved)

/-- What has been touched after a fault of the configuration. -/
structure Refrains (w : Workspace) (directory : Document) (final : Workspace)
    (diagnostics : List Leftover) : Prop where
  /-- At most directories have been added. -/
  grown : ∃ tree, FileTree.Grown w.tree tree ∧ final = { w with tree := tree }
  /-- Nothing has been touched just if nothing was missing along the path. -/
  untouched : final = w ↔ ¬ Missing w directory
  /-- In a tree without stray entries nothing has been touched if the path neither goes up nor has
  a name that is too long. -/
  descending : w.tree.Rooted →
    (∀ resolved, resolve directory = .ok resolved →
      ∀ segment ∈ (Path.ofString resolved).segments,
        segment ≠ ".." ∧ segment.utf8ByteSize ≤ Workspace.longestName) →
    final = w
  /-- Nothing is reported besides the fault. -/
  silent : diagnostics = []

/-- The path of a target with a fault of the configuration gets before the system. -/
theorem askable_of_configuration {fault : ConfigurationFault}
    (isResolved : resolve directory = .ok resolved)
    (failed : (clean w directory).outcome = .error (.configuration fault)) :
    Workspace.Askable (Path.ofString resolved).text := by
  refine askable_of_short (w := w) isResolved ?_ ?_
  · intro null
    rw [clean_of_null isResolved null] at failed
    cases failed
  · intro long
    by_cases null : '\x00' ∈ resolved.toList
    · rw [clean_of_null isResolved null] at failed
      cases failed
    · rw [clean_of_overlong isResolved null long] at failed
      cases failed

theorem missing_iff (isResolved : resolve directory = .ok resolved) :
    Missing w directory ↔ w.Misses (Path.ofString resolved) := by
  constructor
  · rintro ⟨other, again, misses⟩
    obtain rfl : resolved = other := Except.ok.inj (isResolved.symm.trans again)
    exact misses
  · exact fun misses => ⟨resolved, isResolved, misses⟩

/-- A target that is there has no fault of the configuration. -/
theorem not_leadsTo_of_configuration {fault : ConfigurationFault}
    (failed : (clean w directory).outcome = .error (.configuration fault))
    (isResolved : resolve directory = .ok resolved) : ¬ w.LeadsTo resolved top := by
  intro leads
  rw [clean_of_leadsTo isResolved leads] at failed
  by_cases walkable : Walkable w (Path.ofString resolved) top
  · rw [sweep_of_walkable walkable] at failed
    cases failed
  · obtain ⟨halt, _, halted⟩ := sweep_outcome_of_not_walkable walkable
    have same := Except.error.inj (halted.symm.trans failed)
    cases halt <;> cases same

/-- Where nothing is missing, a fault of the configuration comes before anything is touched. -/
theorem workspace_of_not_lacks {fault : ConfigurationFault}
    (isResolved : resolve directory = .ok resolved)
    (present : ¬ w.Lacks (Path.ofString resolved).text)
    (failed : (clean w directory).outcome = .error (.configuration fault)) :
    (clean w directory).workspace = w := by
  cases found : w.locate (Path.ofString resolved).text with
  | ok top =>
      cases directoryThere : w.tree.isDirectory top with
      | true =>
          exact absurd ⟨found, directoryThere⟩ (not_leadsTo_of_configuration failed isResolved)
      | false => rw [clean_of_occupied isResolved found directoryThere]
  | error e =>
      by_cases long : ∃ q, e = .refused .nameTooLong q
      · obtain ⟨q, rfl⟩ := long
        rw [clean_of_tooLong isResolved found]
      · rw [clean_of_unfound isResolved found (not_exists.mp long), create_workspace,
          Workspace.makeDirectories_of_not_lacks present]

theorem diagnostics_of_failed {failure : Failure}
    (failed : (clean w directory).outcome = .error failure) :
    (clean w directory).diagnostics = [] := by
  revert failed
  unfold clean
  split
  · exact fun _ => rfl
  · dsimp only
    split
    · split
      · exact sweep_diagnostics_of_failed
      · exact fun _ => rfl
    · exact fun _ => rfl
    · exact fun _ => create_diagnostics w _

/-- A cleaning that ends with a fault of the configuration has touched nothing unless something was
missing along the path. -/
theorem refrains_clean {fault : ConfigurationFault}
    (failed : (clean w directory).outcome = .error (.configuration fault)) :
    Refrains w directory (clean w directory).workspace (clean w directory).diagnostics := by
  have grown := (clean_of_not_leadsTo fun _ _ => not_leadsTo_of_configuration failed).1
  have silent := diagnostics_of_failed failed
  cases isResolved : resolve directory with
  | error failure =>
      have same : (clean w directory).workspace = w := by rw [clean_of_refused isResolved]
      refine ⟨grown, iff_of_true same ?_, fun _ _ => same, silent⟩
      rintro ⟨resolved, again, _⟩
      cases isResolved.symm.trans again
  | ok resolved =>
      have normal := Path.normal_ofString resolved
      have some := segments_ne_nil_of_resolve isResolved
      have askable := askable_of_configuration isResolved failed
      have lacksMissing := (Workspace.lacks_text_iff (w := w) normal some askable).trans
        (missing_iff isResolved).symm
      by_cases lacks : w.Lacks (Path.ofString resolved).text
      · have creates := clean_of_lacks isResolved lacks
        have shallow : (w.makeDirectories (Path.ofString resolved)).1 ≠ .error .tooDeep := by
          intro deep
          rw [creates, create_of_failed deep] at failed
          cases failed
        -- A directory has been made; where all of them can be, there would be no fault.
        refine ⟨grown, iff_of_false ?_ (not_not_intro (lacksMissing.mp lacks)), ?_, silent⟩
        · intro same
          obtain ⟨place, absent, there⟩ :=
            Workspace.exists_made_of_lacks normal some lacks shallow
          rw [← Workspace.makeDirectories, ← create_workspace, ← creates, same] at there
          rw [FileTree.isDirectory_iff.mp there] at absent
          cases absent
        · intro rooted descends
          have made := Workspace.makeDirectories_of_descending rooted normal some askable
            (descends resolved isResolved) lacks shallow
          rw [creates, create_of_made made] at failed
          cases failed
      · have same := workspace_of_not_lacks isResolved lacks failed
        exact ⟨grown, iff_of_true same fun missing => lacks (lacksMissing.mpr missing),
          fun _ _ => same, silent⟩

end Target

namespace Generation

open Target

variable {σ : Type} {w : Workspace} {directory : Document} {m : Model} {plugins : List (Plugin σ)}
  {memory : σ}

/-- No writing fails with a fault of the configuration. -/
theorem Ending.raised_of_configuration {resolved : String} {laid : List Artifact → Workspace}
    {rs : List (Reply σ)} {n : Nat} {outcome : Except Failure (List Artifact)} {final : Workspace}
    (ending : Ending resolved laid rs n outcome final) {fault : ConfigurationFault}
    (failed : outcome = .error (.configuration fault)) :
    ∃ r ∈ rs, r.answer.outcome = .error (.configuration fault) := by
  cases ending with
  | complete performed written => cases failed
  | raised performed written here raised =>
      cases failed
      exact ⟨_, List.mem_of_getElem? here, raised⟩
  | @blocked _ _ _ _ _ e performed here batch written refused =>
      unfold writeFailure at failed
      split at failed <;> cases failed

/-- Unless a handler gives it, a fault of the configuration comes from the cleaning. -/
theorem clean_of_configuration {fault : ConfigurationFault}
    (performed : ∀ r ∈ replies memory (tasks m plugins), ∀ other,
      r.answer.outcome ≠ .error (.configuration other))
    (failed : (generate w m directory plugins memory).outcome = .error (.configuration fault)) :
    (clean w directory).outcome = .error (.configuration fault) := by
  cases ended : (clean w directory).outcome with
  | error failure =>
      rw [(generate_of_failed m plugins memory ended).1] at failed
      exact congrArg Except.error (Except.error.inj failed)
  | ok leftovers =>
      obtain ⟨resolved, top, isResolved, leads⟩ := leadsTo_of_clean ended
      obtain ⟨outcome, _, _⟩ := generate_of_clean m plugins memory isResolved ended
      obtain ⟨_, ending⟩ := performAll_persists leads memory (tasks m plugins)
      obtain ⟨r, inside, raised⟩ := ending.raised_of_configuration (outcome.symm.trans failed)
      exact absurd raised (performed r inside fault)

theorem diagnostics_generate_of_failed {failure : Failure}
    (failed : (clean w directory).outcome = .error failure) :
    (generate w m directory plugins memory).diagnostics = [] := by
  unfold generate
  split
  · rfl
  · next resolved isResolved =>
      dsimp only
      rw [clean_resolved w isResolved, failed]

/-- A cleaning, and a run whose handlers give no fault of the configuration, that ends with one has
touched nothing unless something was missing along the path of the target. -/
theorem refrains_of_configuration (w : Workspace) (directory : Document) :
    (∀ fault, (clean w directory).outcome = .error (.configuration fault) →
      Refrains w directory (clean w directory).workspace (clean w directory).diagnostics) ∧
    ∀ (m : Model) (plugins : List (Plugin σ)) (memory : σ) (fault : ConfigurationFault),
      (∀ r ∈ replies memory (tasks m plugins), ∀ other,
        r.answer.outcome ≠ .error (.configuration other)) →
      (generate w m directory plugins memory).outcome = .error (.configuration fault) →
      Refrains w directory (generate w m directory plugins memory).workspace
        (generate w m directory plugins memory).diagnostics := by
  refine ⟨fun fault failed => refrains_clean failed, ?_⟩
  intro m plugins memory fault performed failed
  have cleanFailed := clean_of_configuration performed failed
  have refrains := refrains_clean cleanFailed
  obtain ⟨_, workspace, _⟩ := generate_of_failed m plugins memory cleanFailed
  rw [workspace, diagnostics_generate_of_failed cleanFailed]
  exact { refrains with silent := rfl }

/-- A file stands where the target should be. -/
theorem refrains_of_configuration_occupied :
    let w : Workspace :=
      ⟨FileTree.empty.put ["Generated"] (.file ⟨#[]⟩), [], [], "\n", Workspace.usualRoom⟩
    let m : Model := ⟨["Pool"], [], []⟩
    let plugin : Plugin Unit := ⟨"Pools", none, some fun _ _ => ⟨⟨.ok [], []⟩, ()⟩, none, none⟩
    let fault : ConfigurationFault := .targetNotDirectory "Generated"
    (clean w (.text "Generated")).outcome = .error (.configuration fault) ∧
      Refrains w (.text "Generated") (clean w (.text "Generated")).workspace
        (clean w (.text "Generated")).diagnostics ∧
      (generate w m (.text "Generated") [plugin] ()).outcome = .error (.configuration fault) ∧
      Refrains w (.text "Generated") (generate w m (.text "Generated") [plugin] ()).workspace
        (generate w m (.text "Generated") [plugin] ()).diagnostics := by
  intro w m plugin fault
  have failed : (clean w (.text "Generated")).outcome = .error (.configuration fault) := by rfl
  have performed : ∀ r ∈ replies () (tasks m [plugin]), ∀ other,
      r.answer.outcome ≠ .error (.configuration other) := by
    intro r member other
    obtain rfl := List.mem_singleton.mp member
    exact fun ended => nomatch ended
  have runFailed : (generate w m (.text "Generated") [plugin] ()).outcome =
      .error (.configuration fault) := by rfl
  obtain ⟨ofClean, ofRun⟩ := @refrains_of_configuration Unit w (.text "Generated")
  exact ⟨failed, ofClean fault failed, runFailed, ofRun m [plugin] () fault performed runFailed⟩

/-- A directory that was made on the way stays where a file further on is in the way. -/
theorem configuration_not_refraining :
    let w : Workspace := ⟨FileTree.empty.put ["f"] (.file ⟨#[]⟩), [], [], "\n", Workspace.usualRoom⟩
    (clean w (.text "new/../f")).outcome = .error (.configuration
        (.targetNotMade "new/../f/Generated" (.refused .present "new/../f"))) ∧
      (clean w (.text "new/../f")).workspace ≠ w := by
  intro w
  let made : Workspace := { w with tree := w.tree.put ["new"] .directory }
  have last : w.makeDirectories ⟨"", ["new", "..", "f", "Generated"]⟩ =
      (.error (.failed (.refused .present "new/../f")), made) := by rfl
  have isResolved : resolve (.text "new/../f") = .ok "new/../f/Generated/" := by rfl
  have unfound : w.locate (Path.ofString "new/../f/Generated/").text =
      .error (.refused .absent "new/../f/Generated") := by rfl
  rw [clean_of_unfound isResolved unfound fun q => by simp, create,
    show Path.ofString "new/../f/Generated/" = ⟨"", ["new", "..", "f", "Generated"]⟩ by decide,
    last]
  refine ⟨rfl, ?_⟩
  intro same
  have there : made.tree.get? ["new"] = some .directory := by rfl
  rw [show made = w from same] at there
  cases there

end Generation

end EntityScribe
