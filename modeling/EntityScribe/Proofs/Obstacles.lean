import EntityScribe.Proofs.Directories

/-!
# What stops a path

A path is stopped at the first segment that has no directory to stand in, is too long, or names
nothing. Where it is stopped for want of a name, the name is what `makeDirectories` makes first. So
making directories touches the tree exactly if something is missing before anything else stands in
the way.
-/

namespace EntityScribe.Workspace

theorem isName_iff {segment : String} :
    isName segment = true ↔ Path.moves segment = true ∧ segment ≠ ".." := by
  rw [isName, Path.moves, Bool.and_eq_true, bne_iff_ne]

theorem isName_of_long {segment : String} (long : longestName < segment.utf8ByteSize) :
    isName segment = true := by
  rw [isName_iff, Path.moves, Bool.and_eq_true, bne_iff_ne, bne_iff_ne]
  refine ⟨⟨?_, ?_⟩, ?_⟩ <;>
    · rintro rfl
      exact absurd long (by decide)

/-- What stops a path at a segment, from where it has come. -/
def obstacle? (tree : FileTree) (here : Place) (segment : String) : Option Refusal :=
  if tree.isDirectory here = false then some .notDirectory
  else if isName segment = false then none
  else if longestName < segment.utf8ByteSize then some .nameTooLong
  else if tree.get? (here ++ [segment]) = none then some .absent
  else none

/-- Where a segment leads to if nothing stops it. -/
def onward (here : Place) (segment : String) : Place :=
  if segment = "" ∨ segment = "." then here
  else if segment = ".." then here.dropLast
  else here ++ [segment]

section Following

variable {tree : FileTree} {here : Place} {segment : String} {segments : List String}
  {why : Refusal}

theorem obstacle?_eq_nameTooLong :
    obstacle? tree here segment = some .nameTooLong ↔
      tree.isDirectory here = true ∧ isName segment = true ∧
        longestName < segment.utf8ByteSize := by
  grind [obstacle?]

theorem obstacle?_eq_absent :
    obstacle? tree here segment = some .absent ↔
      tree.isDirectory here = true ∧ isName segment = true ∧
        segment.utf8ByteSize ≤ longestName ∧ tree.get? (here ++ [segment]) = none := by
  grind [obstacle?]

theorem isDirectory_of_obstacle? (hindered : obstacle? tree here segment = some why)
    (stands : why ≠ .notDirectory) : tree.isDirectory here = true := by
  cases directory : tree.isDirectory here with
  | true => rfl
  | false =>
      rw [obstacle?, if_pos directory] at hindered
      exact absurd (Option.some.inj hindered).symm stands

theorem follow_cons (rest : List String) :
    follow tree here (segment :: rest) =
      match obstacle? tree here segment with
      | some why => .error why
      | none => follow tree (onward here segment) rest := by
  rw [follow]
  unfold obstacle? onward
  by_cases directory : tree.isDirectory here = true
  · by_cases stays : segment = "" ∨ segment = "."
    · have noName : isName segment = false := by
        rcases stays with rfl | rfl <;> rfl
      simp [directory, stays, noName]
    · by_cases up : segment = ".."
      · simp [directory, up, isName]
      · have name : isName segment = true := by
          simp [isName, up, not_or.mp stays]
        by_cases long : longestName < segment.utf8ByteSize
        · simp [directory, stays, up, name, long]
        · cases tree.get? (here ++ [segment]) <;> simp [directory, stays, up, name, long]
  · simp [directory]

theorem follow_append (tree : FileTree) (here : Place) (first second : List String) :
    follow tree here (first ++ second) =
      match follow tree here first with
      | .ok middle => follow tree middle second
      | .error why => .error why := by
  induction first generalizing here with
  | nil => rfl
  | cons segment rest ih =>
      rw [List.cons_append, follow_cons, follow_cons]
      cases obstacle? tree here segment with
      | some why => rfl
      | none => exact ih (onward here segment)

/-- A path is stopped by the first obstacle that it comes to. -/
theorem follow_eq_error_iff :
    follow tree here segments = .error why ↔
      ∃ before segment after above, segments = before ++ segment :: after ∧
        follow tree here before = .ok above ∧ obstacle? tree above segment = some why := by
  constructor
  · intro stopped
    induction segments generalizing here with
    | nil => cases stopped
    | cons segment rest ih =>
        rw [follow_cons] at stopped
        cases hindered : obstacle? tree here segment with
        | some other =>
            rw [hindered] at stopped
            cases stopped
            exact ⟨[], segment, rest, here, rfl, rfl, hindered⟩
        | none =>
            rw [hindered] at stopped
            obtain ⟨before, last, after, above, rfl, followed, hinders⟩ := ih stopped
            refine ⟨segment :: before, last, after, above, rfl, ?_, hinders⟩
            rw [follow_cons, hindered]
            exact followed
  · rintro ⟨before, segment, after, above, rfl, followed, hinders⟩
    rw [follow_append, followed]
    dsimp only
    rw [follow_cons, hinders]

/-- A new directory goes where the last name of its path, and only that, is missing. -/
theorem placeForDirectory_eq (tree : FileTree) (start : Place) (segments : List String) :
    placeForDirectory tree start segments =
      match follow tree start segments.dropLast with
      | .error why => .error why
      | .ok above =>
          match obstacle? tree above (segments.getLastD "") with
          | some .absent => .ok (above ++ [segments.getLastD ""])
          | some why => .error why
          | none => .error .present := by
  unfold placeForDirectory lookAbove obstacle?
  generalize segments.getLastD "" = last
  cases follow tree start segments.dropLast with
  | error why => rfl
  | ok above =>
      by_cases directory : tree.isDirectory above = true
      · by_cases name : isName last = true
        · by_cases long : longestName < last.utf8ByteSize
          · simp [directory, name, long]
          · cases found : tree.get? (above ++ [last]) <;> simp [directory, name, long, found]
        · simp [directory, name]
      · simp [directory]

/-- A path leads nowhere for want of a name if it can be made, or the directory above it cannot be
found for want of a name. -/
theorem follow_eq_absent_iff (some : segments ≠ []) :
    follow tree here segments = .error .absent ↔
      placeForDirectory tree here segments = .error .absent ∨
        ∃ place, placeForDirectory tree here segments = .ok place := by
  have split := follow_append tree here segments.dropLast [segments.getLastD ""]
  rw [dropLast_append_getLastD some] at split
  rw [split, placeForDirectory_eq]
  cases follow tree here segments.dropLast with
  | error why => simp
  | ok above =>
      dsimp only
      rw [follow_cons]
      cases hindered : obstacle? tree above (segments.getLastD "") with
      | none => simp [follow]
      | some why => cases why <;> simp

theorem follow_dropLast_of_absent
    (absent : placeForDirectory tree here segments = .error .absent) :
    follow tree here segments.dropLast = .error .absent := by
  rw [placeForDirectory_eq] at absent
  cases followed : follow tree here segments.dropLast with
  | error why => simpa [followed] using absent
  | ok above =>
      rw [followed] at absent
      dsimp only at absent
      split at absent <;> simp_all

end Following

/-! ## Paths in normal form -/

/-- Where a path in normal form starts. -/
def start (w : Workspace) (p : Path) : Place :=
  if p.root = "" then w.home else []

section Asking

variable {α : Type} {w : Workspace} {path q : String} {why : Refusal} {p : Path}
  {look : Place → List String → Except Refusal α}

/-- The system refuses an empty path, one that is too long as a whole, and what it cannot find. -/
theorem ask_eq_refused_iff :
    w.ask path look = .error (.refused why q) ↔
      q = path ∧ '\x00' ∉ path.toList ∧
        (path = "" ∧ why = .absent ∨
          path ≠ "" ∧ pathLimit ≤ path.utf8ByteSize ∧ why = .nameTooLong ∨
          Askable path ∧ look (w.origin path) (Text.splitAt '/' path) = .error why) := by
  by_cases askable : Askable path
  · rw [ask_of_askable askable]
    have nonempty := askable.nonempty
    have short := Nat.not_le.mpr askable.short
    have noNull : '\x00' ∉ path.toList := by simpa using askable.noNull
    cases look (w.origin path) (Text.splitAt '/' path) with
    | ok a => simp [nonempty, short]
    | error other => simp [askable, nonempty, short, noNull, and_comm, eq_comm]
  · unfold ask
    by_cases null : '\x00' ∈ path.toList
    · simp [null]
    · by_cases empty : path = ""
      · subst empty
        simp [askable, and_comm, eq_comm]
      · by_cases long : pathLimit ≤ path.utf8ByteSize
        · simp [null, empty, askable, long, and_comm, eq_comm]
        · exact absurd ⟨by simpa using null, empty, Nat.not_le.mp long⟩ askable

theorem follow_lead (tree : FileTree) {lead : List String} (empty : ∀ segment ∈ lead, segment = "")
    (rest : List String) : follow tree [] (lead ++ rest) = follow tree [] rest := by
  induction lead with
  | nil => rfl
  | cons first more ih =>
      obtain ⟨rfl, emptyMore⟩ := List.forall_mem_cons.mp empty
      have atRoot : tree.isDirectory [] = true := by simp [FileTree.isDirectory]
      have free : obstacle? tree [] "" = none := by simp [obstacle?, atRoot, isName]
      rw [List.cons_append, follow_cons, free]
      exact ih emptyMore

theorem origin_text (w : Workspace) (normal : p.Normal) : w.origin p.text = w.start p := by
  have starts := normal.startsAtRoot_text_iff
  change (if Path.startsAtRoot p.text = true then [] else w.home) = _
  by_cases relative : p.root = ""
  · rw [start, if_pos relative, if_neg fun there => starts.mp there relative]
  · rw [start, if_neg relative, if_pos (starts.mpr relative)]

/-- The system follows the shown path as the path is written. -/
theorem exists_lead (w : Workspace) (normal : p.Normal) (some : p.segments ≠ []) :
    ∃ lead, Text.splitAt '/' p.text = lead ++ p.segments ∧
      ∀ (tree : FileTree) rest,
        follow tree (w.origin p.text) (lead ++ rest) = follow tree (w.start p) rest := by
  obtain ⟨lead, parts, empty, atRoot⟩ := normal.splitAt_text some
  refine ⟨lead, parts, fun tree rest => ?_⟩
  rw [origin_text w normal]
  by_cases relative : p.root = ""
  · rw [atRoot.mpr relative, List.nil_append]
  · rw [start, if_neg relative]
    exact follow_lead tree empty rest

theorem locate_text (normal : p.Normal) (some : p.segments ≠ []) (askable : Askable p.text) :
    w.locate p.text =
      match follow w.tree (w.start p) p.segments with
      | .ok top => .ok top
      | .error why => .error (.refused why p.text) := by
  obtain ⟨lead, parts, same⟩ := exists_lead w normal some
  rw [locate, ask_of_askable askable, parts, same]
  cases follow w.tree (w.start p) p.segments <;> rfl

theorem locate_text_eq_ok_iff {top : Place} (normal : p.Normal) (some : p.segments ≠ [])
    (askable : Askable p.text) :
    w.locate p.text = .ok top ↔ follow w.tree (w.start p) p.segments = .ok top := by
  rw [locate_text normal some askable]
  cases follow w.tree (w.start p) p.segments <;> simp

theorem placeForDirectory_text (w : Workspace) (normal : p.Normal) (some : p.segments ≠ []) :
    placeForDirectory w.tree (w.origin p.text) (Text.splitAt '/' p.text) =
      placeForDirectory w.tree (w.start p) p.segments := by
  obtain ⟨lead, parts, same⟩ := exists_lead w normal some
  rw [placeForDirectory_eq, placeForDirectory_eq, parts, List.dropLast_append_of_ne_nil some, same,
    getLastD_append lead some]

theorem Askable.parent (askable : Askable p.text) (normal : p.Normal)
    (some : p.parent.segments ≠ []) : Askable p.parent.text := by
  obtain ⟨rest, split⟩ := Path.exists_text_eq_parent_append some
  refine ⟨?_, normal.parent.text_ne_empty some, ?_⟩
  · have noNull := askable.noNull
    rw [split, String.toList_append] at noNull
    simp_all
  · have short := askable.short
    rw [split, String.utf8ByteSize_append] at short
    omega

end Asking

/-! ## What making directories makes -/

/-- A path leads nowhere, and all that is in the way is something missing. -/
def Lacks (w : Workspace) (path : String) : Prop :=
  ∃ q, w.locate path = .error (.refused .absent q)

section Making

variable {w made : Workspace} {path q : String} {p : Path}

theorem lacks_iff :
    w.Lacks path ↔ (∃ q, w.makeDirectory path = .error (.refused .absent q)) ∨
      ∃ made, w.makeDirectory path = .ok made := by
  unfold Lacks locate makeDirectory
  by_cases askable : Askable path
  · have missing : follow w.tree (w.origin path) (Text.splitAt '/' path) = .error .absent ↔ _ :=
      follow_eq_absent_iff (Text.splitAt_ne_nil path)
    rw [ask_of_askable askable, ask_of_askable askable]
    cases followed : follow w.tree (w.origin path) (Text.splitAt '/' path) <;>
      cases placed : placeForDirectory w.tree (w.origin path) (Text.splitAt '/' path) <;>
      simp_all
  · obtain ⟨e, refused⟩ := ask_of_not_askable askable
    simp [refused]

theorem not_lacks_of_error {e : FileError} (result : w.makeDirectory path = .error e)
    (notAbsent : ∀ q, e ≠ .refused .absent q) : ¬ w.Lacks path := by
  intro lacks
  rcases lacks_iff.mp lacks with ⟨q, absent⟩ | ⟨made, succeeded⟩
  · rw [absent] at result
    exact notAbsent q (Except.error.inj result).symm
  · rw [succeeded] at result
    cases result

/-- Where the directory above is missing, it is missing for want of a name. -/
theorem lacks_parent (normal : p.Normal) (some : p.segments ≠ [])
    (absent : w.makeDirectory p.text = .error (.refused .absent q)) :
    p.parent.segments ≠ [] ∧ w.Lacks p.parent.text := by
  have asked : w.ask p.text (placeForDirectory w.tree) = .error (.refused .absent q) := by
    unfold makeDirectory at absent
    split at absent <;> simp_all
  obtain ⟨_, _, empty | ⟨_, _, other⟩ | ⟨askable, looked⟩⟩ := ask_eq_refused_iff.mp asked
  · exact absurd empty.1 (normal.text_ne_empty some)
  · cases other
  · rw [placeForDirectory_text w normal some] at looked
    have above : follow w.tree (w.start p) p.parent.segments = .error .absent :=
      follow_dropLast_of_absent looked
    have someAbove : p.parent.segments ≠ [] := by
      intro none
      rw [none] at above
      cases above
    refine ⟨someAbove, p.parent.text, ?_⟩
    rw [locate_text normal.parent someAbove (askable.parent normal someAbove),
      show follow w.tree (w.start p.parent) p.parent.segments = .error .absent from above]

theorem exists_made_of_makeDirectory (result : w.makeDirectory path = .ok made) :
    ∃ place, w.tree.get? place = none ∧ made.tree.isDirectory place = true := by
  unfold makeDirectory at result
  split at result
  · cases result
  · next place asked =>
      cases result
      obtain ⟨above, _, _, _, absent, rfl⟩ := placeForDirectory_eq_ok (ask_eq_ok_iff.mp asked).2
      refine ⟨_, absent, ?_⟩
      rw [FileTree.isDirectory_put_directory (by simp), decide_eq_true rfl, Bool.true_or]

/-- Where something is missing, making directories makes one that was not there, however it ends,
unless there is no room to come to it. -/
theorem exists_made_of_lacks {room : Nat} (normal : p.Normal) (some : p.segments ≠ [])
    (lacks : w.Lacks p.text) (shallow : (w.makeDirectoriesWithin room p).1 ≠ .error .tooDeep) :
    ∃ place, w.tree.get? place = none ∧
      (w.makeDirectoriesWithin room p).2.tree.isDirectory place = true := by
  -- Up the path, what is missing stays missing until the first directory that can be made; what is
  -- made there stays, whatever comes further down.
  fun_induction makeDirectoriesWithin room w p with
  | case1 room p made result => exact exists_made_of_makeDirectory result
  | case2 room p q result none => exact absurd none some
  | case3 p q result _ => exact absurd rfl shallow
  | case4 p q result _ room halt w' failed ih =>
      obtain ⟨someAbove, lacksAbove⟩ := lacks_parent normal some result
      rw [failed] at ih
      exact ih normal.parent someAbove lacksAbove shallow
  | case5 p q result _ room w' succeeded ih =>
      obtain ⟨someAbove, lacksAbove⟩ := lacks_parent normal some result
      rw [succeeded] at ih
      have made : (Except.ok () : Except Halt Unit) ≠ .error .tooDeep := by
        rintro ⟨⟩
      obtain ⟨place, absent, there⟩ := ih normal.parent someAbove lacksAbove made
      obtain ⟨tree, grown, ended⟩ := ensureDirectory_grows w' p
      exact ⟨place, absent, by rw [ended]; exact grown.isDirectory there⟩
  | case6 room p e notAbsent result => exact absurd lacks (not_lacks_of_error result notAbsent)

/-- In a directory that is there, a directory is there already or can be made, unless a file has
its name. -/
theorem ensureDirectory_of_leads {above : Place} (normal : p.Normal) (some : p.segments ≠ [])
    (askable : Askable p.text) (name : isName (p.segments.getLastD "") = true)
    (short : (p.segments.getLastD "").utf8ByteSize ≤ longestName)
    (leads : Leads w.tree (w.start p) p.segments.dropLast above)
    (free : w.tree.get? (above ++ [p.segments.getLastD ""]) = none ∨
      w.tree.isDirectory (above ++ [p.segments.getLastD ""]) = true) :
    (w.ensureDirectory p).1 = .ok () := by
  rcases free with absent | there
  · have hindered := obstacle?_eq_absent.mpr ⟨leads.2, name, short, absent⟩
    have placed : placeForDirectory w.tree (w.start p) p.segments =
        .ok (above ++ [p.segments.getLastD ""]) := by
      rw [placeForDirectory_eq, leads.1]
      dsimp only
      rw [hindered]
    rw [ensureDirectory, makeDirectory, ask_of_askable askable,
      placeForDirectory_text w normal some, placed]
  · have followed := leads.append_name name short there
    rw [dropLast_append_getLastD some] at followed
    have found : w.locate p.text = .ok (above ++ [p.segments.getLastD ""]) := by
      rw [locate_text normal some askable, followed.1]
    rw [ensureDirectory_of_locate found there]

/-- In a tree without stray entries, what is missing is made if the path neither goes up nor has a
name that is too long, and if there is room to come to it. -/
theorem makeDirectories_of_descending {room : Nat} (rooted : w.tree.Rooted) (normal : p.Normal)
    (some : p.segments ≠ []) (askable : Askable p.text)
    (descends : ∀ segment ∈ p.segments, segment ≠ ".." ∧ segment.utf8ByteSize ≤ longestName)
    (lacks : w.Lacks p.text) (shallow : (w.makeDirectoriesWithin room p).1 ≠ .error .tooDeep) :
    (w.makeDirectoriesWithin room p).1 = .ok () := by
  fun_induction makeDirectoriesWithin room w p with
  | case1 room p made result => rfl
  | case2 room p q result none => exact absurd none some
  | case3 p q result _ => exact absurd rfl shallow
  | case4 p q result _ room halt w' failed ih =>
      obtain ⟨someAbove, lacksAbove⟩ := lacks_parent normal some result
      rw [failed] at ih
      exact ih normal.parent someAbove (askable.parent normal someAbove)
        (fun segment member => descends segment (List.dropLast_subset _ member)) lacksAbove shallow
  | case5 p q result _ room w' succeeded ih =>
      obtain ⟨someAbove, _, missing⟩ := lacks_parent normal some result
      have askableAbove := askable.parent normal someAbove
      obtain ⟨tree, grown, ended⟩ := makeDirectoriesWithin_grows room w p.parent
      rw [succeeded] at ended
      obtain rfl : w' = { w with tree := tree } := ended
      obtain ⟨above, found, directory⟩ := locate_of_makeDirectoriesWithin succeeded
      have leads : Leads tree (w.start p) p.parent.segments above :=
        ⟨(locate_text_eq_ok_iff normal.parent someAbove askableAbove).mp found, directory⟩
      -- The directory above is new, so in a rooted tree nothing stood below it, and what does now
      -- has been made on the way.
      have notThere : w.tree.isDirectory above = false := by
        rw [Bool.eq_false_iff]
        intro stood
        have before := leads.of_rooted rooted
          (fun segment member => (descends segment (List.dropLast_subset _ member)).1) stood
        rw [locate_text normal.parent someAbove askableAbove, show follow w.tree (w.start p.parent)
          p.parent.segments = .ok above from before.1] at missing
        cases missing
      have member : p.segments.getLastD "" ∈ p.segments := by
        rw [List.getLastD_eq_getLast?, List.getLast?_eq_some_getLast some]
        exact List.getLast_mem some
      have moving := normal.moving _ member
      obtain ⟨notUp, short⟩ := descends _ member
      have name := isName_iff.mpr ⟨moving, notUp⟩
      refine ensureDirectory_of_leads normal some askable name short leads ?_
      rcases grown.get?_cases (above ++ [p.segments.getLastD ""]) with same | ⟨_, there⟩
      · left
        rw [same]
        exact rooted.get?_append notThere (List.cons_ne_nil _ [])
      · exact .inr (FileTree.isDirectory_iff.mpr there)
  | case6 room p e notAbsent result => exact absurd lacks (not_lacks_of_error result notAbsent)

/-- Where nothing is missing, making directories makes none. -/
theorem makeDirectories_of_not_lacks (present : ¬ w.Lacks p.text) :
    (w.makeDirectories p).2 = w := by
  rw [lacks_iff, not_or] at present
  unfold makeDirectories makeDirectoriesWithin
  split
  · next made result => exact absurd ⟨made, result⟩ present.2
  · next q result => exact absurd ⟨q, result⟩ present.1
  · rfl

theorem isSystem_of_makeDirectory {e : FileError} (askable : Askable path)
    (failed : w.makeDirectory path = .error e) : e.isSystem = true := by
  rw [makeDirectory, ask_of_askable askable] at failed
  cases placed : placeForDirectory w.tree (w.origin path) (Text.splitAt '/' path) with
  | ok place => simp [placed] at failed
  | error why =>
      rw [placed] at failed
      cases failed
      rfl

theorem isSystem_of_tolerate {e : FileError} {halt : Halt} (system : e.isSystem = true)
    (failed : w.tolerate p e = .error halt) : halt.isSystem = true := by
  rw [tolerate, if_pos system] at failed
  split at failed
  · cases failed
  · cases failed
    exact system
  · next asked =>
      cases failed
      unfold isDirectory at asked
      split at asked <;> cases asked
      rfl

theorem isSystem_of_ensureDirectory {halt : Halt} (askable : Askable p.text)
    (failed : (w.ensureDirectory p).1 = .error halt) : halt.isSystem = true := by
  unfold ensureDirectory at failed
  split at failed
  · cases failed
  · cases failed
    rfl
  · next _ result => exact isSystem_of_tolerate (isSystem_of_makeDirectory askable result) failed

/-- Making directories whose path the system looks at fails through the system only, or for want of
room. -/
theorem isSystem_of_makeDirectories {room : Nat} {halt : Halt} (normal : p.Normal)
    (some : p.segments ≠ []) (askable : Askable p.text)
    (failed : (w.makeDirectoriesWithin room p).1 = .error halt) :
    halt = .tooDeep ∨ halt.isSystem = true := by
  fun_induction makeDirectoriesWithin room w p with
  | case1 room p made result => cases failed
  | case2 room p q result none => exact absurd none some
  | case3 p q result _ =>
      cases failed
      exact .inl rfl
  | case4 p q result _ room other w' failedAbove ih =>
      obtain ⟨someAbove, _⟩ := lacks_parent normal some result
      rw [failedAbove] at ih
      exact ih normal.parent someAbove (askable.parent normal someAbove) failed
  | case5 p q result _ room w' succeeded ih =>
      exact .inr (isSystem_of_ensureDirectory askable failed)
  | case6 room p e notAbsent result =>
      exact .inr (isSystem_of_tolerate (isSystem_of_makeDirectory askable result) failed)

end Making

/-! ## What is in the way, as the tree shows it -/

/-- Along a path, a directory is reached in which a segment stands ahead. -/
def Reaches (w : Workspace) (p : Path) (above : Place) (segment : String) : Prop :=
  ∃ before after, p.segments = before ++ segment :: after ∧
    Leads w.tree (w.start p) before above

/-- A path comes to a name under which nothing stands. -/
def Misses (w : Workspace) (p : Path) : Prop :=
  ∃ above name, w.Reaches p above name ∧ isName name = true ∧
    name.utf8ByteSize ≤ longestName ∧ w.tree.get? (above ++ [name]) = none

/-- A path comes to a name under which nothing stands, with more segments behind it than there is
room for. -/
def MissesEarly (w : Workspace) (room : Nat) (p : Path) : Prop :=
  ∃ before name after above, p.segments = before ++ name :: after ∧
    Leads w.tree (w.start p) before above ∧ isName name = true ∧
    name.utf8ByteSize ≤ longestName ∧ w.tree.get? (above ++ [name]) = none ∧ room < after.length

/-- A path is too long as a whole, or comes to a name that is too long. -/
def Overlong (w : Workspace) (p : Path) : Prop :=
  pathLimit ≤ p.text.utf8ByteSize ∨
    ∃ above name, w.Reaches p above name ∧ longestName < name.utf8ByteSize

section Conditions

variable {w : Workspace} {p : Path} {why : Refusal}

theorem follow_eq_error_iff_reaches (stands : why ≠ .notDirectory) :
    follow w.tree (w.start p) p.segments = .error why ↔
      ∃ above segment, w.Reaches p above segment ∧ obstacle? w.tree above segment = some why := by
  rw [follow_eq_error_iff]
  constructor
  · rintro ⟨before, segment, after, above, split, followed, hindered⟩
    have directory := isDirectory_of_obstacle? hindered stands
    exact ⟨above, segment, ⟨before, after, split, followed, directory⟩, hindered⟩
  · rintro ⟨above, segment, ⟨before, after, split, followed, _⟩, hindered⟩
    exact ⟨before, segment, after, above, split, followed, hindered⟩

/-- What is missing along a path is what it lacks. -/
theorem lacks_text_iff (normal : p.Normal) (some : p.segments ≠ []) (askable : Askable p.text) :
    w.Lacks p.text ↔ w.Misses p := by
  have stopped : w.Lacks p.text ↔ follow w.tree (w.start p) p.segments = .error .absent := by
    rw [Lacks, locate_text normal some askable]
    cases follow w.tree (w.start p) p.segments <;> simp
  rw [stopped, follow_eq_error_iff_reaches Refusal.noConfusion]
  constructor
  · rintro ⟨above, name, reached, hindered⟩
    exact ⟨above, name, reached, (obstacle?_eq_absent.mp hindered).2⟩
  · rintro ⟨above, name, reached, absent⟩
    obtain ⟨_, _, _, leads⟩ := id reached
    exact ⟨above, name, reached, obstacle?_eq_absent.mpr ⟨leads.2, absent⟩⟩

theorem locate_eq_nameTooLong_iff (normal : p.Normal) (some : p.segments ≠ []) :
    w.locate p.text = .error (.refused .nameTooLong p.text) ↔
      '\x00' ∉ p.text.toList ∧ w.Overlong p := by
  have stopped : follow w.tree (w.origin p.text) (Text.splitAt '/' p.text) =
        .error .nameTooLong ↔
      ∃ above name, w.Reaches p above name ∧ longestName < name.utf8ByteSize := by
    obtain ⟨lead, parts, same⟩ := exists_lead w normal some
    rw [parts, same, follow_eq_error_iff_reaches Refusal.noConfusion]
    constructor
    · rintro ⟨above, name, reached, hindered⟩
      exact ⟨above, name, reached, (obstacle?_eq_nameTooLong.mp hindered).2.2⟩
    · rintro ⟨above, name, reached, long⟩
      obtain ⟨_, _, _, leads⟩ := id reached
      have hindered := obstacle?_eq_nameTooLong.mpr ⟨leads.2, isName_of_long long, long⟩
      exact ⟨above, name, reached, hindered⟩
  have nonempty := normal.text_ne_empty some
  rw [locate, ask_eq_refused_iff, stopped, Overlong]
  constructor
  · rintro ⟨_, noNull, ⟨empty, _⟩ | ⟨_, long, _⟩ | ⟨_, named⟩⟩
    · exact absurd empty nonempty
    · exact ⟨noNull, .inl long⟩
    · exact ⟨noNull, .inr named⟩
  · rintro ⟨noNull, either⟩
    refine ⟨rfl, noNull, .inr ?_⟩
    by_cases long : pathLimit ≤ p.text.utf8ByteSize
    · exact .inl ⟨nonempty, long, rfl⟩
    · exact .inr ⟨⟨by simpa using noNull, nonempty, Nat.not_le.mp long⟩, either.resolve_left long⟩

theorem MissesEarly.misses {room : Nat} (early : w.MissesEarly room p) : w.Misses p := by
  obtain ⟨before, name, after, above, split, leads, named, short, absent, _⟩ := early
  exact ⟨above, name, ⟨before, after, split, leads⟩, named, short, absent⟩

theorem missesEarly_iff {room : Nat} :
    w.MissesEarly room p ↔ ∃ before name after above, p.segments = before ++ name :: after ∧
      follow w.tree (w.start p) before = .ok above ∧
      obstacle? w.tree above name = some .absent ∧ room < after.length := by
  constructor
  · rintro ⟨before, name, after, above, split, leads, named, short, absent, deep⟩
    exact ⟨before, name, after, above, split, leads.1,
      obstacle?_eq_absent.mpr ⟨leads.2, named, short, absent⟩, deep⟩
  · rintro ⟨before, name, after, above, split, followed, hindered, deep⟩
    obtain ⟨directory, named, short, absent⟩ := obstacle?_eq_absent.mp hindered
    exact ⟨before, name, after, above, split, ⟨followed, directory⟩, named, short, absent, deep⟩

/-- With more room, a missing name may be found one segment further up. -/
theorem missesEarly_parent {room : Nat} (some : p.segments ≠ []) :
    w.MissesEarly room p.parent ↔ w.MissesEarly (room + 1) p := by
  rw [missesEarly_iff, missesEarly_iff]
  constructor
  · rintro ⟨before, name, after, above, split, followed, hindered, deep⟩
    have whole := dropLast_append_getLastD some
    rw [show p.segments.dropLast = before ++ name :: after from split] at whole
    refine ⟨before, name, after ++ [p.segments.getLastD ""], above, ?_, followed, hindered, ?_⟩
    · exact whole.symm.trans (List.append_assoc _ _ _)
    · rw [List.length_append, List.length_singleton]
      omega
  · rintro ⟨before, name, after, above, split, followed, hindered, deep⟩
    have someAfter : after ≠ [] := by
      rintro rfl
      cases deep
    refine ⟨before, name, after.dropLast, above, ?_, followed, hindered, ?_⟩
    · rw [Path.parent, split, List.dropLast_append_of_ne_nil (List.cons_ne_nil _ _),
        List.dropLast_cons_of_ne_nil someAfter]
    · rw [List.length_dropLast]
      omega

/-- A name that is missing with segments behind it keeps the last of them from being made. -/
theorem makeDirectory_of_missesEarly {room : Nat} (normal : p.Normal) (askable : Askable p.text)
    (misses : w.MissesEarly room p) :
    w.makeDirectory p.text = .error (.refused .absent p.text) := by
  obtain ⟨before, name, after, above, split, followed, hindered, deep⟩ := missesEarly_iff.mp misses
  have some : p.segments ≠ [] := by simp [split]
  have someAfter : after ≠ [] := by
    rintro rfl
    cases deep
  have shortened : p.segments.dropLast = before ++ name :: after.dropLast := by
    rw [split, List.dropLast_append_of_ne_nil (List.cons_ne_nil _ _),
      List.dropLast_cons_of_ne_nil someAfter]
  have stopped : follow w.tree (w.start p) p.segments.dropLast = .error .absent :=
    follow_eq_error_iff.mpr ⟨before, name, after.dropLast, above, shortened, followed, hindered⟩
  rw [makeDirectory, ask_of_askable askable, placeForDirectory_text w normal some,
    placeForDirectory_eq, stopped]

theorem missesEarly_of_absent {q : String} (normal : p.Normal) (some : p.segments ≠ [])
    (askable : Askable p.text) (absent : w.makeDirectory p.text = .error (.refused .absent q)) :
    w.MissesEarly 0 p := by
  obtain ⟨someAbove, lacks⟩ := lacks_parent normal some absent
  have stopped : follow w.tree (w.start p.parent) p.parent.segments = .error .absent := by
    obtain ⟨q, unfound⟩ := lacks
    rw [locate_text normal.parent someAbove (askable.parent normal someAbove)] at unfound
    cases followed : follow w.tree (w.start p.parent) p.parent.segments <;> simp_all
  obtain ⟨before, name, after, above, split, followed, hindered⟩ := follow_eq_error_iff.mp stopped
  have whole := dropLast_append_getLastD some
  rw [show p.segments.dropLast = before ++ name :: after from split] at whole
  exact missesEarly_iff.mpr ⟨before, name, after ++ [p.segments.getLastD ""], above,
    whole.symm.trans (List.append_assoc _ _ _), followed, hindered, by simp⟩

theorem tolerate_ne_tooDeep {e : FileError} : w.tolerate p e ≠ .error .tooDeep := by
  unfold tolerate
  split
  · split <;> simp
  · simp

theorem ensureDirectory_ne_tooDeep : (w.ensureDirectory p).1 ≠ .error .tooDeep := by
  unfold ensureDirectory
  split
  · simp
  · simp
  · exact tolerate_ne_tooDeep

/-- Just the number of segments behind the first missing name decides whether there is room to make
directories. -/
theorem makeDirectories_eq_tooDeep_iff {room : Nat} (normal : p.Normal) (some : p.segments ≠ [])
    (askable : Askable p.text) :
    (w.makeDirectoriesWithin room p).1 = .error .tooDeep ↔ w.MissesEarly room p := by
  -- Every step up the path takes one segment from behind the missing name, and one of the room.
  fun_induction makeDirectoriesWithin room w p with
  | case1 room p made result =>
      refine iff_of_false (by rintro ⟨⟩) fun misses => ?_
      cases result.symm.trans (makeDirectory_of_missesEarly normal askable misses)
  | case2 room p q result none => exact absurd none some
  | case3 p q result _ => exact iff_of_true rfl (missesEarly_of_absent normal some askable result)
  | case4 p q result _ room halt w' failed ih =>
      obtain ⟨someAbove, _⟩ := lacks_parent normal some result
      rw [failed] at ih
      exact (ih normal.parent someAbove (askable.parent normal someAbove)).trans
        (missesEarly_parent some)
  | case5 p q result _ room w' succeeded ih =>
      obtain ⟨someAbove, _⟩ := lacks_parent normal some result
      rw [succeeded, missesEarly_parent some] at ih
      refine iff_of_false ensureDirectory_ne_tooDeep fun misses => ?_
      cases (ih normal.parent someAbove (askable.parent normal someAbove)).mpr misses
  | case6 room p e notAbsent result =>
      refine iff_of_false tolerate_ne_tooDeep fun misses => ?_
      exact notAbsent p.text (Except.error.inj (result.symm.trans
        (makeDirectory_of_missesEarly normal askable misses)))

end Conditions

end EntityScribe.Workspace
