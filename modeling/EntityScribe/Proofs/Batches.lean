import EntityScribe.Proofs.Persistence
import EntityScribe.Proofs.ProperNames

/-!
# Batches of artifacts

A batch is written one artifact after the other, up to the first with something in the way of its
file. Files that are written do not become obstacles for later ones, so where a batch ends can be
told from the workspace before it, and what it leaves is overlaid with the artifacts before that
end.
-/

namespace EntityScribe.Target

open BuiltIn

variable {w : Workspace} {top : Place} {a : Artifact} {front : String} {artifacts : List Artifact}

/-- What a batch leaves behind that has put files into a directory, and has done nothing else. -/
structure Holds (w : Workspace) (top : Place) (artifacts : List Artifact) (after : Workspace) :
    Prop where
  home : after.home = w.home
  locked : after.locked = w.locked
  lineEnd : after.lineEnd = w.lineEnd
  /-- A place holds the file of the last artifact that goes there, and every other place is as
  before. -/
  entries : ∀ place, after.tree.get? place =
    ((lastAt top artifacts place).map fun a =>
        .file (Newline.toPlatform w.lineEnd (Artifact.header a.generator ++ a.content)).toUTF8).or
      (w.tree.get? place)

theorem holds_filed (w : Workspace) (top : Place) (artifacts : List Artifact) :
    Holds w top artifacts (filed w top artifacts) where
  home := rfl
  locked := rfl
  lineEnd := rfl
  entries := get?_filed w top artifacts

/-- Artifacts that can be written leave their files and nothing else. -/
theorem holds_overlay (leads : w.LeadsTo (front ++ "/") top)
    (plain : ∀ a ∈ artifacts, '/' ∉ a.name.toList)
    (fit : ∀ a ∈ artifacts, fits w (front ++ "/") a = true) :
    Holds w top artifacts (overlay w (front ++ "/") artifacts) := by
  rw [overlay_eq_filed leads plain fit]
  exact holds_filed w top artifacts

/-- How a batch goes. -/
structure Batched (w : Workspace) (directory : String) (top : Place) (artifacts : List Artifact)
    (written : Written) : Prop where
  /-- With nothing in the way, all artifacts are written. -/
  whole : (∀ a ∈ artifacts, obstacle? w directory top a = none) →
    written.outcome = .ok () ∧ Holds w top artifacts written.workspace
  /-- The first artifact with something in its way ends the batch, with the path of its file; those
  before it are written. -/
  cut : ∀ (j : Nat) (a : Artifact) (why : Refusal), artifacts[j]? = some a →
    obstacle? w directory top a = some why →
    (∀ b ∈ artifacts.take j, obstacle? w directory top b = none) →
    written.outcome = .error (.unwritable (directory ++ a.name ++ Artifact.fileEnding)
        (.refused why (directory ++ a.name ++ Artifact.fileEnding))) ∧
      Holds w top (artifacts.take j) written.workspace

/-! ## Batches with and without an obstacle -/

theorem fits_of_unobstructed (leads : w.LeadsTo (front ++ "/") top) (proper : Proper a.name)
    (free : obstacle? w (front ++ "/") top a = none) : fits w (front ++ "/") a = true := by
  refine fits_iff.mpr ⟨top ++ [fileName a], ?_⟩
  rw [site_eq_of_proper leads proper, free]

/-- What has been written does not get into the way. -/
theorem obstacle?_overlay (w : Workspace) (directory : String) (written : List Artifact)
    (top : Place) (a : Artifact) :
    obstacle? (overlay w directory written) directory top a = obstacle? w directory top a := by
  rw [obstacle?, obstacle?, isDirectory_overlay]

theorem writeEach_of_unobstructed (leads : w.LeadsTo (front ++ "/") top)
    (proper : ∀ a ∈ artifacts, Proper a.name)
    (free : ∀ a ∈ artifacts, obstacle? w (front ++ "/") top a = none) :
    (writeEach (front ++ "/") w artifacts).outcome = .ok () ∧
      Holds w top artifacts (writeEach (front ++ "/") w artifacts).workspace := by
  have fit : ∀ a ∈ artifacts, fits w (front ++ "/") a = true := fun a member =>
    fits_of_unobstructed leads (proper a member) (free a member)
  obtain ⟨outcome, workspace⟩ := writeEach_of_fits fit
  rw [outcome, workspace]
  exact ⟨rfl, holds_overlay leads (fun a member => (proper a member).1) fit⟩

theorem writeEach_of_obstructed {before after : List Artifact} {why : Refusal}
    (leads : w.LeadsTo (front ++ "/") top) (proper : ∀ b ∈ before ++ a :: after, Proper b.name)
    (free : ∀ b ∈ before, obstacle? w (front ++ "/") top b = none)
    (obstructed : obstacle? w (front ++ "/") top a = some why) :
    (writeEach (front ++ "/") w (before ++ a :: after)).outcome =
        .error (.unwritable (a.fileIn (front ++ "/")) (.refused why (a.fileIn (front ++ "/")))) ∧
      Holds w top before (writeEach (front ++ "/") w (before ++ a :: after)).workspace := by
  obtain ⟨properBefore, properRest⟩ := List.forall_mem_append.mp proper
  obtain ⟨properHere, _⟩ := List.forall_mem_cons.mp properRest
  have fit : ∀ b ∈ before, fits w (front ++ "/") b = true := fun b member =>
    fits_of_unobstructed leads (properBefore b member) (free b member)
  -- The artifact meets the same obstacle among the files of those before it.
  have refused : site (overlay w (front ++ "/") before) (front ++ "/") a =
      .error (.refused why (a.fileIn (front ++ "/"))) := by
    rw [site_eq_of_proper (leadsTo_overlay leads before) properHere, obstacle?_overlay, obstructed]
  obtain ⟨outcome, workspace⟩ := writeEach_of_unfit fit refused
  rw [outcome, workspace]
  exact ⟨rfl, holds_overlay leads (fun b member => (properBefore b member).1) fit⟩

end EntityScribe.Target
