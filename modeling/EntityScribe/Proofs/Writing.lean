import EntityScribe.Proofs.Cleaning

/-!
# Where artifacts are written

Where the file of an artifact goes is decided by the directories of the tree, and writing files
leaves the directories as they are. So a workspace in which artifacts have been written is the one
before, overlaid with their files, and it is as fit for further artifacts as that one.
-/

namespace EntityScribe

namespace Target

/-- Where the file of an artifact goes, or why it cannot be written. -/
def site (w : Workspace) (directory : String) (a : Artifact) : Except FileError Place :=
  w.ask (a.fileIn directory) (Workspace.placeForFile w.tree)

/-- The bytes of an artifact's file. -/
def bytes (lineEnd : String) (a : Artifact) : ByteArray :=
  (Newline.toPlatform lineEnd a.text).toUTF8

/-- The file of an artifact that can be written. -/
def fileOf (w : Workspace) (directory : String) (a : Artifact) : Option (Place × ByteArray) :=
  match site w directory a with
  | .ok place => some (place, bytes w.lineEnd a)
  | .error _ => none

/-- Whether the file of an artifact can be written. -/
def fits (w : Workspace) (directory : String) (a : Artifact) : Bool :=
  (fileOf w directory a).isSome

/-- The workspace overlaid with the files of artifacts, those that cannot be written left out. -/
def overlay (w : Workspace) (directory : String) (artifacts : List Artifact) : Workspace :=
  { w with tree := w.tree.putFiles (artifacts.filterMap (fileOf w directory)) }

variable {w : Workspace} {directory : String} {a : Artifact} {place top : Place}

theorem fits_iff : fits w directory a = true ↔ ∃ place, site w directory a = .ok place := by
  unfold fits fileOf
  cases site w directory a <;> simp

theorem site_of_unfit (unfit : fits w directory a = false) :
    ∃ e, site w directory a = .error e := by
  cases goes : site w directory a with
  | error e => exact ⟨e, rfl⟩
  | ok place =>
      rw [fits_iff.mpr ⟨place, goes⟩] at unfit
      cases unfit

theorem fileOf_of_site (goes : site w directory a = .ok place) :
    fileOf w directory a = some (place, bytes w.lineEnd a) := by
  rw [fileOf, goes]

theorem site_of_fileOf {file : Place × ByteArray} (chosen : fileOf w directory a = some file) :
    site w directory a = .ok file.1 := by
  unfold fileOf at chosen
  split at chosen
  · next place goes =>
      cases chosen
      exact goes
  · cases chosen

theorem site_eq_ok_iff :
    site w directory a = .ok place ↔
      Workspace.Askable (a.fileIn directory) ∧
        ∃ above,
          Workspace.Leads w.tree (w.origin (a.fileIn directory))
            (Text.splitAt '/' (a.fileIn directory)).dropLast above ∧
          Workspace.fileRefusal? w.tree above
            ((Text.splitAt '/' (a.fileIn directory)).getLastD "") = none ∧
          place = above ++ [(Text.splitAt '/' (a.fileIn directory)).getLastD ""] := by
  rw [site, Workspace.ask_eq_ok_iff, Workspace.placeForFile_eq_ok_iff]

/-- A file goes below the root, and not in a directory's place. -/
theorem free_of_site (goes : site w directory a = .ok place) :
    place ≠ [] ∧ w.tree.isDirectory place = false := by
  obtain ⟨_, above, _, free, rfl⟩ := site_eq_ok_iff.mp goes
  refine ⟨by simp, ?_⟩
  unfold Workspace.fileRefusal? at free
  split at free
  · cases free
  · split at free
    · cases free
    · split at free
      · cases free
      · next notDirectory => exact Bool.eq_false_iff.mpr notDirectory

theorem placeable_files (w : Workspace) (directory : String) (artifacts : List Artifact) :
    w.tree.Placeable (artifacts.filterMap (fileOf w directory)) := by
  intro file member
  obtain ⟨a, _, chosen⟩ := List.mem_filterMap.mp member
  exact free_of_site (site_of_fileOf chosen)

theorem isDirectory_overlay (w : Workspace) (directory : String) (artifacts : List Artifact)
    (q : Place) : (overlay w directory artifacts).tree.isDirectory q = w.tree.isDirectory q :=
  FileTree.isDirectory_putFiles (placeable_files w directory artifacts) q

/-- A file is that of the last artifact whose file goes there, or the one that was there before. -/
theorem file?_overlay (w : Workspace) (directory : String) (artifacts : List Artifact) (q : Place) :
    (overlay w directory artifacts).tree.file? q =
      ((artifacts.filterMap (fileOf w directory)).reverse.lookup q).or (w.tree.file? q) :=
  FileTree.file?_putFiles
    (fun file member => (placeable_files w directory artifacts file member).1) q

/-- What has been written at a place comes from an artifact whose file goes there. -/
theorem site_of_lookup {artifacts : List Artifact} {content : ByteArray}
    (found : (artifacts.filterMap (fileOf w directory)).reverse.lookup place = some content) :
    ∃ a ∈ artifacts, site w directory a = .ok place := by
  obtain ⟨before, after, split, _⟩ := List.lookup_eq_some_iff.mp found
  have listed : (place, content) ∈ (artifacts.filterMap (fileOf w directory)).reverse := by
    rw [split]
    exact List.mem_append_right before List.mem_cons_self
  obtain ⟨a, member, chosen⟩ := List.mem_filterMap.mp (List.mem_reverse.mp listed)
  exact ⟨a, member, site_of_fileOf chosen⟩

theorem rooted_overlay (rooted : w.tree.Rooted) (directory : String) (artifacts : List Artifact) :
    (overlay w directory artifacts).tree.Rooted := by
  refine rooted.putFiles (placeable_files w directory artifacts) ?_
  intro file member
  obtain ⟨a, _, chosen⟩ := List.mem_filterMap.mp member
  obtain ⟨_, above, leads, _, split⟩ := site_eq_ok_iff.mp (site_of_fileOf chosen)
  exact ⟨above, _, split, leads.2⟩

/-! ## Sites stay where they are -/

theorem site_eq_ok_congr {tree : FileTree}
    (same : ∀ p, tree.isDirectory p = w.tree.isDirectory p) :
    site { w with tree := tree } directory a = .ok place ↔ site w directory a = .ok place := by
  rw [site_eq_ok_iff, site_eq_ok_iff]
  apply and_congr_right
  intro _
  constructor
  · rintro ⟨above, leads, free, placed⟩
    exact ⟨above, (Workspace.Leads.congr same).mp leads,
      (Workspace.fileRefusal?_congr same _ _).symm.trans free, placed⟩
  · rintro ⟨above, leads, free, placed⟩
    exact ⟨above, (Workspace.Leads.congr same).mpr leads,
      (Workspace.fileRefusal?_congr same _ _).trans free, placed⟩

theorem fileOf_congr {tree : FileTree} (same : ∀ p, tree.isDirectory p = w.tree.isDirectory p) :
    fileOf { w with tree := tree } directory = fileOf w directory := by
  funext a
  apply Option.ext
  rintro ⟨place, content⟩
  have agree : site { w with tree := tree } directory a = .ok place ↔
      site w directory a = .ok place := site_eq_ok_congr same
  unfold fileOf
  cases here : site { w with tree := tree } directory a <;>
    cases there : site w directory a <;> simp_all

theorem fileOf_overlay (w : Workspace) (directory : String) (artifacts : List Artifact) :
    fileOf (overlay w directory artifacts) directory = fileOf w directory :=
  fileOf_congr (isDirectory_overlay w directory artifacts)

theorem fits_overlay (w : Workspace) (directory : String) (artifacts : List Artifact) :
    fits (overlay w directory artifacts) directory = fits w directory := by
  funext a
  rw [fits, fits, fileOf_overlay]

theorem overlay_nil (w : Workspace) (directory : String) : overlay w directory [] = w := rfl

theorem overlay_append (w : Workspace) (directory : String) (first second : List Artifact) :
    overlay w directory (first ++ second) =
      overlay (overlay w directory first) directory second := by
  rw [overlay, List.filterMap_append, FileTree.putFiles_append]
  conv => rhs; rw [overlay, fileOf_overlay]
  rfl

theorem leadsTo_overlay (leads : w.LeadsTo directory top) (artifacts : List Artifact) :
    (overlay w directory artifacts).LeadsTo directory top :=
  leads.mono fun p stands => (isDirectory_overlay w directory artifacts p).trans stands

/-! ## Sites below the target -/

theorem origin_append (w : Workspace) (front rest : String) :
    w.origin (front ++ "/" ++ rest) = w.origin (front ++ "/") := by
  refine congrArg (fun absolute : Bool => if absolute then [] else w.home) ?_
  change Path.startsAtRoot (front ++ "/" ++ rest) = Path.startsAtRoot (front ++ "/")
  cases chars : front.toList with
  | nil =>
      have long : (front ++ "/" ++ rest).toList = '/' :: rest.toList := by simp [chars]
      have short : (front ++ "/").toList = ['/'] := by simp [chars]
      rw [Path.startsAtRoot_of_cons long, Path.startsAtRoot_of_cons short]
  | cons c more =>
      have long : (front ++ "/" ++ rest).toList = c :: (more ++ '/' :: rest.toList) := by
        simp [chars]
      have short : (front ++ "/").toList = c :: (more ++ ['/']) := by simp [chars]
      rw [Path.startsAtRoot_of_cons long, Path.startsAtRoot_of_cons short]

/-- The name of an artifact's file, which may lead through directories. -/
def fileName (a : Artifact) : String :=
  a.name ++ Artifact.fileEnding

/-- The segments that lead from the target to the directory of an artifact's file. -/
def folders (a : Artifact) : List String :=
  (Text.splitAt '/' (fileName a)).dropLast

/-- The name that an artifact's file has in its directory. -/
def lastName (a : Artifact) : String :=
  (Text.splitAt '/' (fileName a)).getLastD ""

theorem fileIn_eq (a : Artifact) (front : String) :
    a.fileIn (front ++ "/") = front ++ "/" ++ fileName a := by
  rw [Artifact.fileIn, fileName, String.append_assoc]

theorem leads_front_iff {front : String} (leads : w.LeadsTo (front ++ "/") top)
    {segments : List String} {above : Place} :
    Workspace.Leads w.tree (w.origin (front ++ "/")) (Text.splitAt '/' front ++ segments) above ↔
      Workspace.Leads w.tree top segments above := by
  have followed := (Workspace.leadsTo_iff.mp leads).2
  rw [← String.append_empty (s := front ++ "/"), Text.splitAt_append,
    String.append_empty] at followed
  obtain ⟨middle, through, last⟩ := Workspace.Leads.append_iff.mp followed
  obtain ⟨rfl, _⟩ := Workspace.Leads.nil_iff.mp
    (Workspace.Leads.filter_moves_iff.mpr last : Workspace.Leads w.tree middle [] top)
  rw [Workspace.Leads.append_iff]
  constructor
  · rintro ⟨other, before, after⟩
    rwa [through.unique before]
  · exact fun after => ⟨middle, through, after⟩

/-- From the target on, the name of an artifact says where its file goes. -/
theorem site_of_leadsTo {front : String} (leads : w.LeadsTo (front ++ "/") top) :
    site w (front ++ "/") a = .ok place ↔
      Workspace.Askable (a.fileIn (front ++ "/")) ∧
        ∃ above,
          Workspace.Leads w.tree top (folders a) above ∧
          Workspace.fileRefusal? w.tree above (lastName a) = none ∧
          place = above ++ [lastName a] := by
  have some := Text.splitAt_ne_nil (fileName a)
  have last : (Text.splitAt '/' front ++ Text.splitAt '/' (fileName a)).getLastD "" =
      (Text.splitAt '/' (fileName a)).getLastD "" := by
    rw [List.getLastD_eq_getLast?, List.getLast?_append, List.getLastD_eq_getLast?,
      List.getLast?_eq_some_getLast some, Option.some_or]
  rw [site_eq_ok_iff, fileIn_eq, Text.splitAt_append, origin_append, last,
    List.dropLast_append_of_ne_nil some]
  simp only [leads_front_iff leads]
  rfl

/-- A file goes directly into the target just if its name leads back there. -/
theorem leads_folders_iff {front : String} (leads : w.LeadsTo (front ++ "/") top)
    (goes : site w (front ++ "/") a = .ok place) :
    Workspace.Leads w.tree top (folders a) top ↔ ∃ name, place = top ++ [name] := by
  obtain ⟨_, above, through, _, rfl⟩ := (site_of_leadsTo leads).mp goes
  constructor
  · intro back
    exact ⟨lastName a, by rw [back.unique through]⟩
  · rintro ⟨name, same⟩
    obtain ⟨rfl, _⟩ := List.append_inj' same rfl
    exact through

theorem splitAt_fileName_of_plain (plain : '/' ∉ a.name.toList) :
    Text.splitAt '/' (fileName a) = [fileName a] := by
  refine Text.splitAt_of_not_mem ?_
  rw [fileName, String.toList_append, List.mem_append, not_or]
  exact ⟨plain, by decide⟩

theorem folders_of_plain (plain : '/' ∉ a.name.toList) : folders a = [] := by
  rw [folders, splitAt_fileName_of_plain plain]
  rfl

/-- The file of an artifact with a plain name goes directly into the target. -/
theorem site_of_plain {front : String} (leads : w.LeadsTo (front ++ "/") top)
    (plain : '/' ∉ a.name.toList) (goes : site w (front ++ "/") a = .ok place) :
    place = top ++ [fileName a] := by
  obtain ⟨_, above, through, _, rfl⟩ := (site_of_leadsTo leads).mp goes
  rw [folders_of_plain plain] at through
  obtain ⟨rfl, _⟩ := Workspace.Leads.nil_iff.mp through
  rw [lastName, splitAt_fileName_of_plain plain]
  rfl

/-! ## Writing one file after the other -/

theorem writeFile_eq (w : Workspace) (directory : String) (a : Artifact) :
    w.writeFile (a.fileIn directory) (Newline.toPlatform w.lineEnd a.text) =
      match site w directory a with
      | .error e => .error e
      | .ok place => .ok { w with tree := w.tree.put place (.file (bytes w.lineEnd a)) } := by
  cases asked : w.ask (a.fileIn directory) (Workspace.placeForFile w.tree) with
  | error e => rw [Workspace.writeFile, site, asked]
  | ok place => rw [Workspace.writeFile, site, asked, bytes]

theorem writeEach_workspace (directory : String) (w : Workspace) (artifacts : List Artifact) :
    ∃ tree, (writeEach directory w artifacts).workspace = { w with tree := tree } := by
  induction artifacts generalizing w with
  | nil => exact ⟨w.tree, rfl⟩
  | cons a more ih =>
      rw [writeEach, writeFile_eq]
      cases site w directory a with
      | error e => exact ⟨w.tree, rfl⟩
      | ok place => exact ih _

/-- Writing changes nothing of a workspace but its tree. -/
theorem write_workspace (w : Workspace) (directory : String) (artifacts : List Artifact) :
    ∃ tree, (write w directory artifacts).workspace = { w with tree := tree } := by
  obtain ⟨tree, _, made⟩ := Workspace.makeDirectories_grows w (Path.ofString directory)
  unfold write
  split
  · next e w' result =>
      rw [result] at made
      exact ⟨tree, made⟩
  · next w' result =>
      rw [result] at made
      obtain ⟨other, written⟩ := writeEach_workspace directory w' artifacts
      exact ⟨other, by rw [written, show w' = { w with tree := tree } from made]⟩

theorem overlay_singleton (goes : site w directory a = .ok place) :
    overlay w directory [a] =
      { w with tree := w.tree.put place (.file (bytes w.lineEnd a)) } := by
  have files : [a].filterMap (fileOf w directory) = [(place, bytes w.lineEnd a)] := by
    rw [List.filterMap_cons_some (fileOf_of_site goes), List.filterMap_nil]
  rw [overlay, files, FileTree.putFiles, List.foldl_cons, List.foldl_nil]

/-- Artifacts that can all be written are. -/
theorem writeEach_of_fits {artifacts : List Artifact}
    (fit : ∀ a ∈ artifacts, fits w directory a = true) :
    (writeEach directory w artifacts).outcome = .ok () ∧
      (writeEach directory w artifacts).workspace = overlay w directory artifacts := by
  induction artifacts generalizing w with
  | nil => exact ⟨rfl, rfl⟩
  | cons a more ih =>
      obtain ⟨fitsFirst, fitRest⟩ := List.forall_mem_cons.mp fit
      obtain ⟨place, goes⟩ := fits_iff.mp fitsFirst
      have first := overlay_singleton goes
      have rest := ih (w := overlay w directory [a]) fun b member => by
        rw [fits_overlay, fitRest b member]
      rw [writeEach, writeFile_eq, goes]
      dsimp only
      have joined := overlay_append w directory [a] more
      rw [List.singleton_append] at joined
      rw [← first, joined]
      exact rest

/-- The first artifact that cannot be written ends the writing; those before it stay. -/
theorem writeEach_of_unfit {before after : List Artifact} {e : FileError}
    (fit : ∀ b ∈ before, fits w directory b = true)
    (refused : site (overlay w directory before) directory a = .error e) :
    (writeEach directory w (before ++ a :: after)).outcome =
        .error (writeFailure (a.fileIn directory) e) ∧
      (writeEach directory w (before ++ a :: after)).workspace =
        overlay w directory before := by
  induction before generalizing w with
  | nil =>
      rw [overlay_nil] at refused
      rw [List.nil_append, writeEach, writeFile_eq, refused]
      exact ⟨rfl, rfl⟩
  | cons b more ih =>
      obtain ⟨fitsFirst, fitRest⟩ := List.forall_mem_cons.mp fit
      obtain ⟨place, goes⟩ := fits_iff.mp fitsFirst
      have first := overlay_singleton goes
      have split := overlay_append w directory [b] more
      rw [List.singleton_append] at split
      have rest := ih (w := overlay w directory [b])
        (fun c member => by rw [fits_overlay, fitRest c member]) (by rw [← split, refused])
      rw [List.cons_append, writeEach, writeFile_eq, goes]
      dsimp only
      rw [← first, split]
      exact rest

/-- Where the target is there, writing makes no directory. -/
theorem write_of_leadsTo (leads : w.LeadsTo directory top) (artifacts : List Artifact) :
    write w directory artifacts = writeEach directory w artifacts := by
  rw [write, Workspace.makeDirectories_of_locate leads.1 leads.2]

/-- Artifacts can all be written, or there is a first that cannot. -/
theorem exists_first_unfit (w : Workspace) (directory : String) (artifacts : List Artifact) :
    (∀ a ∈ artifacts, fits w directory a = true) ∨
      ∃ before a after, artifacts = before ++ a :: after ∧
        (∀ b ∈ before, fits w directory b = true) ∧ fits w directory a = false := by
  induction artifacts with
  | nil => exact .inl fun _ member => nomatch member
  | cons first more ih =>
      cases fitsFirst : fits w directory first with
      | false => exact .inr ⟨[], first, more, rfl, List.forall_mem_nil _, fitsFirst⟩
      | true =>
          rcases ih with all | ⟨before, a, after, rfl, fit, unfit⟩
          · exact .inl (List.forall_mem_cons.mpr ⟨fitsFirst, all⟩)
          · exact .inr ⟨first :: before, a, after, rfl,
              List.forall_mem_cons.mpr ⟨fitsFirst, fit⟩, unfit⟩

end Target

end EntityScribe
