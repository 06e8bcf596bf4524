import EntityScribe.Proofs.Cleaning
import Mathlib.Data.List.Sort
import Mathlib.Data.String.Basic

/-!
# What a cleanup deletes and what it reports

A cleanup goes through the generated files of a directory in the order of their places. It deletes
each that it can, and reports each that it cannot exactly once. Once more on what it has left, it
finds the files that it has reported, reports them again and changes nothing. All this holds if
everything below the directory can be walked through; otherwise the cleanup is broken off, before it
has touched anything, or at the first file whose path is too long.
-/

namespace EntityScribe

/-! ## Order -/

theorem insertBy_perm {α : Type} (before : α → α → Bool) (a : α) (l : List α) :
    (insertBy before a l).Perm (a :: l) := by
  induction l with
  | nil => exact .refl _
  | cons b rest ih =>
      rw [insertBy]
      split
      · exact .refl _
      · exact (ih.cons b).trans (.swap a b rest)

theorem sortBy_perm {α : Type} (before : α → α → Bool) (l : List α) :
    (sortBy before l).Perm l := by
  induction l with
  | nil => exact .refl _
  | cons a rest ih => exact (insertBy_perm before a _).trans (ih.cons a)

section Sorted

variable {α : Type} {before : α → α → Bool}
  (total : ∀ a b, before a b = true ∨ before b a = true)
  (trans : ∀ a b c, before a b = true → before b c = true → before a c = true)

include total trans

theorem pairwise_insertBy {a : α} {l : List α} (sorted : l.Pairwise (before · ·)) :
    (insertBy before a l).Pairwise (before · ·) := by
  induction l with
  | nil => exact List.pairwise_singleton _ _
  | cons b rest ih =>
      obtain ⟨first, others⟩ := List.pairwise_cons.mp sorted
      rw [insertBy]
      split
      · next earlier =>
          refine List.pairwise_cons.mpr ⟨List.forall_mem_cons.mpr ⟨earlier, ?_⟩, sorted⟩
          exact fun c member => trans a b c earlier (first c member)
      · next later =>
          refine List.pairwise_cons.mpr ⟨fun c member => ?_, ih others⟩
          rcases mem_insertBy.mp member with rfl | member
          · exact (total b c).resolve_right later
          · exact first c member

/-- What is sorted by a total and transitive order stands in that order. -/
theorem pairwise_sortBy (l : List α) : (sortBy before l).Pairwise (before · ·) := by
  induction l with
  | nil => exact .nil
  | cons a rest ih => exact pairwise_insertBy total trans ih

end Sorted

/-- The order of places is that of lists of names. -/
theorem Place.before_iff {p q : Place} : p.before q = true ↔ p < q ∨ p = q := by
  induction p generalizing q with
  | nil => cases q <;> simp [Place.before]
  | cons a p ih =>
      cases q with
      | nil => simp [Place.before]
      | cons b q =>
          rw [Place.before, List.cons_lt_cons_iff, List.cons.injEq]
          by_cases same : a = b
          · simp [same, ih]
          · simp [same]

theorem Place.before_total (p q : Place) : p.before q = true ∨ q.before p = true := by
  rw [before_iff, before_iff]
  rcases lt_trichotomy p q with less | same | greater
  · exact .inl (.inl less)
  · exact .inl (.inr same)
  · exact .inr (.inl greater)

theorem Place.before_trans (p q r : Place) (first : p.before q = true)
    (second : q.before r = true) : p.before r = true := by
  rw [before_iff] at first second ⊢
  rcases first with less | rfl
  · rcases second with more | rfl
    · exact .inl (lt_trans less more)
    · exact .inl less
  · exact second

namespace Target

variable {t : FileTree} {top rest : Place}

/-- Nothing is twice below a place. -/
theorem pairwise_below (t : FileTree) (top : Place) :
    (t.below top).Pairwise fun a b => a.1 ≠ b.1 := by
  refine t.distinct.filterMap _ ?_
  rintro ⟨p, d⟩ ⟨q, e⟩ apart ⟨r, d'⟩ first ⟨s, e'⟩ second same
  obtain ⟨r, found, split⟩ := Option.map_eq_some_iff.mp first
  obtain ⟨s, again, split'⟩ := Option.map_eq_some_iff.mp second
  cases split
  cases split'
  obtain rfl : r = s := same
  have here := (Place.below?_eq_some_iff.mp found).1
  have there := (Place.below?_eq_some_iff.mp again).1
  exact apart (here.trans there.symm)

/-- Places are listed in their order, each of them once. -/
theorem pairwise_placesBelow (t : FileTree) (top : Place) (chosen : Place → Entry → Bool) :
    (placesBelow t top chosen).Pairwise (· < ·) := by
  have nodup : (placesBelow t top chosen).Nodup := by
    refine (sortBy_perm _ _).nodup_iff.mpr ((pairwise_below t top).filterMap _ ?_)
    rintro ⟨p, d⟩ ⟨q, e⟩ apart r first s second rfl
    dsimp only at first second
    split at first <;> split at second <;> cases first <;> cases second
    exact apart rfl
  have sorted : (placesBelow t top chosen).Pairwise fun p q => p.before q = true :=
    pairwise_sortBy Place.before_total Place.before_trans _
  refine (sorted.and nodup).imp ?_
  rintro p q ⟨earlier, apart⟩
  exact (Place.before_iff.mp earlier).resolve_right apart

theorem pairwise_generatedBelow (t : FileTree) (top : Place) :
    (generatedBelow t top).Pairwise (· < ·) :=
  pairwise_placesBelow t top isGenerated

/-! ## Cleaning a directory that is there -/

variable {w : Workspace} {directory : Document} {resolved : String}

theorem mem_stuck_iff :
    rest ∈ stuck w top ↔ GeneratedAt w.tree top rest ∧ top ++ rest ∈ w.locked := by
  rw [stuck, List.mem_filter, mem_generatedBelow_iff, List.contains_iff_mem]

theorem pairwise_stuck (w : Workspace) (top : Place) : (stuck w top).Pairwise (· < ·) :=
  (pairwise_generatedBelow w.tree top).filter _

/-- A locked file is not stale. -/
theorem stale_of_mem {locked : List Place} {place : Place} {e : Entry} (member : place ∈ locked) :
    stale locked top place e = false := by
  rw [Bool.eq_false_iff, ne_eq, stale_iff]
  rintro ⟨_, _, _, _, free⟩
  exact free member

theorem swept_swept (locked : List Place) (top : Place) (t : FileTree) :
    swept locked top (swept locked top t) = swept locked top t := by
  refine FileTree.ext (List.filter_eq_self.mpr fun entry member => ?_)
  exact (List.mem_filter.mp member).2

/-- Sweeping leaves the files that are stuck, and no other becomes stuck. -/
theorem stuck_swept (w : Workspace) (top : Place) :
    stuck { w with tree := swept w.locked top w.tree } top = stuck w top := by
  refine (pairwise_stuck _ top).eq_of_mem_iff (pairwise_stuck w top) fun rest => ?_
  rw [mem_stuck_iff, mem_stuck_iff]
  refine and_congr_left fun isLocked => ?_
  simp only [GeneratedAt, get?_swept, stale_of_mem isLocked, and_true]

theorem Walkable.swept {path : Path} (walkable : Walkable w path top) :
    Walkable { w with tree := swept w.locked top w.tree } path top := by
  refine walkable.of_subset (fun p there => by rwa [isDirectory_swept] at there) ?_
  rintro rest ⟨deeper, ends, content, there⟩
  exact ⟨deeper, ends, content, (get?_swept.mp there).1⟩

/-- What has been swept is still there to be cleaned, with nothing left to delete. -/
theorem clean_clean (isResolved : resolve directory = .ok resolved)
    (leads : w.LeadsTo resolved top) (walkable : Walkable w (Path.ofString resolved) top) :
    clean (clean w directory).workspace directory = clean w directory := by
  have still : { w with tree := swept w.locked top w.tree }.LeadsTo resolved top :=
    leads.mono fun p stands => by rw [isDirectory_swept, stands]
  rw [clean_of_walkable isResolved leads walkable]
  dsimp only
  rw [clean_of_walkable isResolved still walkable.swept, stuck_swept]
  dsimp only
  rw [swept_swept]

/-- How a cleaning of the directory at a place ends that reports what stands at some places below
it, for a caller who knows of some leftovers before. -/
structure Sweeps (w : Workspace) (directory : Document) (path : Path) (top : Place)
    (reported : List Place) (known : List Leftover) : Prop where
  ordered : reported.Pairwise (· < ·)
  locked : ∀ rest, rest ∈ reported ↔ GeneratedAt w.tree top rest ∧ top ++ rest ∈ w.locked
  returned : (clean w directory).outcome = .ok (reported.map (leftover path))
  collected : (clean w directory).collect known = known ++ reported.map (leftover path)
  logged : (clean w directory).log = (reported.map (leftover path)).map leftoverWarning
  remains : ∀ place e, (clean w directory).workspace.tree.get? place = some e ↔
    w.tree.get? place = some e ∧
      ¬ ∃ rest, place = top ++ rest ∧ GeneratedAt w.tree top rest ∧ place ∉ w.locked
  frame : ∃ tree, (clean w directory).workspace = { w with tree := tree }
  again : clean (clean w directory).workspace directory = clean w directory

/-- A cleaning of a directory that can be walked through sweeps it. -/
theorem sweeps_of_walkable (isResolved : resolve directory = .ok resolved)
    (leads : w.LeadsTo resolved top) (walkable : Walkable w (Path.ofString resolved) top)
    (known : List Leftover) :
    Sweeps w directory (Path.ofString resolved) top (stuck w top) known := by
  have cleaned := clean_of_walkable isResolved leads walkable
  refine ⟨pairwise_stuck w top, fun _ => mem_stuck_iff, ?_, ?_, ?_, ?_, ?_,
    clean_clean isResolved leads walkable⟩
  · rw [cleaned]
  · rw [cleaned, Cleaned.collect]
  · rw [cleaned]
  · intro place e
    rw [cleaned]
    dsimp only
    rw [get?_swept, Bool.eq_false_iff]
    exact and_congr_right fun there => not_congr (stale_iff_generatedAt there)
  · exact ⟨_, by rw [cleaned]⟩

/-- How a cleaning of the directory at a place is broken off. -/
inductive BrokenOff (w : Workspace) (directory : Document) (path : Path) (top : Place)
    (known : List Leftover) : Prop where
  /-- There is a directory below that cannot be walked through; nothing has been touched. -/
  | walking {rest : Place} {halt : Halt} (deeper : rest ≠ [])
      (below : w.tree.isDirectory (top ++ rest) = true)
      (barred : barrier? w.room path rest = some halt)
      (ended : clean w directory = ⟨.error (.ofHalt .file halt), w, [], []⟩)
      (collected : (clean w directory).collect known = known)
  /-- The path of a generated file is too long; just those before it have been deleted, or reported
  to the log alone. -/
  | asking {before after : List Place} {rest : Place}
      (listed : generatedBelow w.tree top = before ++ rest :: after)
      (short : ∀ earlier ∈ before, (pathBelow path earlier).utf8ByteSize < Workspace.pathLimit)
      (long : Workspace.pathLimit ≤ (pathBelow path rest).utf8ByteSize)
      (failed : (clean w directory).outcome =
        .error (.file (.refused .nameTooLong (pathBelow path rest))))
      (collected : (clean w directory).collect known = known)
      (logged : (clean w directory).log =
        ((before.filter fun earlier => w.locked.contains (top ++ earlier)).map
          (leftover path)).map leftoverWarning)
      (remains : ∀ place e, (clean w directory).workspace.tree.get? place = some e ↔
        w.tree.get? place = some e ∧
          ¬ ∃ earlier ∈ before, place = top ++ earlier ∧ place ∉ w.locked)
      (frame : ∃ tree, (clean w directory).workspace = { w with tree := tree })

/-- The deleting of files is broken off at the first whose path is too long. -/
theorem deleteHalt?_eq_some {path : Path} {places : List Place} {e : FileError}
    (halts : deleteHalt? path places = some e) :
    ∃ before rest after, places = before ++ rest :: after ∧ asked path places = before ∧
      (∀ earlier ∈ before, (pathBelow path earlier).utf8ByteSize < Workspace.pathLimit) ∧
      Workspace.pathLimit ≤ (pathBelow path rest).utf8ByteSize ∧
      e = .refused .nameTooLong (pathBelow path rest) := by
  obtain ⟨before, rest, after, rfl, long, short⟩ := List.findSome?_eq_some_iff.mp halts
  have shortBefore : ∀ earlier ∈ before,
      (pathBelow path earlier).utf8ByteSize < Workspace.pathLimit := fun earlier member =>
    overlong?_eq_none_iff.mp (short earlier member)
  refine ⟨before, rest, after, rfl, ?_, shortBefore, ?_⟩
  · rw [asked, List.takeWhile_append_of_pos fun earlier member => by simp [short earlier member],
      List.takeWhile_cons_of_neg (by simp [long]), List.append_nil]
  · unfold Workspace.overlong? at long
    split at long
    · next limit => exact ⟨limit, (Option.some.inj long).symm⟩
    · cases long

/-- A cleaning of a directory that cannot be walked through is broken off. -/
theorem brokenOff_of_not_walkable (isResolved : resolve directory = .ok resolved)
    (leads : w.LeadsTo resolved top) (barred : ¬ Walkable w (Path.ofString resolved) top)
    (known : List Leftover) :
    BrokenOff w directory (Path.ofString resolved) top known := by
  have cleaned := clean_of_leadsTo isResolved leads
  rcases halts_of_not_walkable barred with ⟨halt, halts⟩ | ⟨walks, e, halts⟩
  · rw [sweep_of_walkHalt halts] at cleaned
    obtain ⟨rest, member, stops⟩ := List.exists_of_findSome?_eq_some halts
    obtain ⟨deeper, below⟩ := mem_directoriesBelow.mp member
    exact .walking deeper below stops cleaned (by rw [cleaned]; exact List.append_nil known)
  · rw [sweep_of_deleteHalt walks halts] at cleaned
    obtain ⟨before, rest, after, listed, same, short, long, rfl⟩ := deleteHalt?_eq_some halts
    rw [same] at cleaned
    refine .asking listed short long ?_ ?_ ?_ ?_ ⟨_, by rw [cleaned]⟩
    · rw [cleaned]
    · rw [cleaned]
      exact List.append_nil known
    · rw [cleaned]
    · intro place e
      rw [cleaned]
      by_cases below : place = []
      · subst below
        have nowhere : ¬ ∃ earlier ∈ before, [] = top ++ earlier ∧ [] ∉ w.locked := by
          rintro ⟨earlier, member, split, _⟩
          have inside : earlier ∈ generatedBelow w.tree top := by simp [listed, member]
          exact (mem_generatedBelow.mp inside).1 (List.append_eq_nil_iff.mp split.symm).2
        exact (and_iff_left nowhere).symm
      · exact get?_without below

/-- Cleaning a directory that is there deletes exactly the generated files below it that are not
locked, reports each of the locked ones once and in order, and has no further effect when it is
repeated, just if all that is below it can be walked through. Otherwise it is broken off. -/
theorem clean_sweeps_iff (isResolved : resolve directory = .ok resolved)
    (leads : w.LeadsTo resolved top) (known : List Leftover) :
    ((∃ reported, Sweeps w directory (Path.ofString resolved) top reported known) ↔
      Walkable w (Path.ofString resolved) top) ∧
    (¬ Walkable w (Path.ofString resolved) top →
      BrokenOff w directory (Path.ofString resolved) top known) := by
  refine ⟨⟨?_, ?_⟩, fun barred => brokenOff_of_not_walkable isResolved leads barred known⟩
  · rintro ⟨reported, sweeps⟩
    exact walkable_of_clean isResolved leads sweeps.returned
  · exact fun walkable => ⟨_, sweeps_of_walkable isResolved leads walkable known⟩

/-- Two locked files, of which the first by names would be the second by the texts of their paths,
a file to delete, one of another kind, and a directory that is named like a generated file. -/
theorem clean_sweeps_nested :
    let w : Workspace := ⟨(((((FileTree.empty.put ["Generated"] .directory).put
      ["Generated", "A.cs"] .directory).put ["Generated", "A.cs", "B.cs"] (.file ⟨#[]⟩)).put
      ["Generated", "A.cs", "C.cs"] (.file ⟨#[]⟩)).put ["Generated", "A.cs-1.cs"] (.file ⟨#[]⟩)).put
      ["Generated", "A.cs.meta"] (.file ⟨#[]⟩), [],
      [["Generated", "A.cs-1.cs"], ["Generated", "A.cs", "C.cs"]], "\n", Workspace.usualRoom⟩
    let known : List Leftover := [⟨"Generated/Old.cs", "locked"⟩]
    (clean w (.text "Generated")).outcome =
        .ok [⟨"Generated/A.cs/C.cs", "locked"⟩, ⟨"Generated/A.cs-1.cs", "locked"⟩] ∧
      ∃ reported, Sweeps w (.text "Generated") (Path.ofString "Generated/") ["Generated"] reported
        known := by
  intro w known
  have leads : w.LeadsTo "Generated/" ["Generated"] := ⟨rfl, rfl⟩
  have ended : (clean w (.text "Generated")).outcome =
      .ok [⟨"Generated/A.cs/C.cs", "locked"⟩, ⟨"Generated/A.cs-1.cs", "locked"⟩] := by rfl
  have walkable := walkable_of_clean rfl leads ended
  exact ⟨ended, (clean_sweeps_iff rfl leads known).1.mpr walkable⟩

/-- A path to the target that goes up from it and back into it so many times. -/
def winding : Nat → Path
  | 0 => ⟨"", [directoryName]⟩
  | n + 1 => (winding n).append ⟨"", ["..", directoryName]⟩

theorem segments_winding_succ (n : Nat) :
    (winding (n + 1)).segments = (winding n).segments ++ ["..", directoryName] := rfl

theorem segments_winding_ne_nil (n : Nat) : (winding n).segments ≠ [] := by
  cases n with
  | zero => exact List.cons_ne_nil _ _
  | succ n => exact List.append_ne_nil_of_right_ne_nil _ (List.cons_ne_nil _ _)

theorem root_winding (n : Nat) : (winding n).root = "" := by
  induction n with
  | zero => rfl
  | succ n ih => exact ih

theorem mem_winding {n : Nat} {segment : String} (member : segment ∈ (winding n).segments) :
    segment = directoryName ∨ segment = ".." := by
  induction n with
  | zero => exact .inl (List.mem_singleton.mp member)
  | succ n ih =>
      rw [segments_winding_succ, List.mem_append] at member
      rcases member with before | last
      · exact ih before
      · simpa [or_comm] using last

theorem normal_winding (n : Nat) : (winding n).Normal where
  root := .inl (root_winding n)
  moving segment member := by
    rcases mem_winding member with rfl | rfl <;> decide
  whole segment member := by
    rcases mem_winding member with rfl | rfl <;> decide

theorem text_winding_succ (n : Nat) :
    (winding (n + 1)).text = (winding n).text ++ "/.." ++ "/" ++ directoryName := by
  rw [winding, Path.text_append (segments_winding_ne_nil n) (List.cons_ne_nil _ _)]
  simp only [String.append_assoc]
  rfl

theorem utf8ByteSize_text_winding (n : Nat) : (winding n).text.utf8ByteSize = 13 * n + 9 := by
  induction n with
  | zero => rfl
  | succ n ih =>
      rw [text_winding_succ]
      simp only [String.utf8ByteSize_append, ih]
      have sizes : "/..".utf8ByteSize = 3 ∧ "/".utf8ByteSize = 1 ∧
          directoryName.utf8ByteSize = 9 := by decide
      omega

theorem null_notMem_text_winding (n : Nat) : '\x00' ∉ (winding n).text.toList := by
  induction n with
  | zero => decide
  | succ n ih =>
      rw [text_winding_succ]
      simp only [String.toList_append, List.mem_append, not_or]
      exact ⟨⟨⟨ih, by decide⟩, by decide⟩, by decide⟩

theorem resolve_winding (n : Nat) :
    resolve (.text (winding (n + 1)).text) = .ok ((winding (n + 1)).text ++ "/") := by
  have notBlank : Text.allBlank (winding (n + 1)).text = false := by
    rw [text_winding_succ, Text.allBlank, String.toList_append, List.all_append]
    exact Bool.and_eq_false_imp.mpr fun _ => by decide
  have isOpen : closed (winding (n + 1)).text = (winding (n + 1)).text ++ "/" := by
    refine if_neg fun ends => ?_
    obtain ⟨front, chars⟩ := List.isSuffixOf_iff_suffix.mp ends
    rw [text_winding_succ, String.toList_append] at chars
    have last := congrArg List.getLast? chars
    simp [directoryName] at last
  rw [resolve_text, notBlank, if_neg Bool.false_ne_true, complete, isOpen, text_winding_succ,
    lastSegment_directoryName, if_pos rfl]

theorem ofString_winding (n : Nat) : Path.ofString ((winding n).text ++ "/") = winding n :=
  (normal_winding n).ofString_text_append (segments_winding_ne_nil n) (root_winding n)

theorem leads_winding {t : FileTree} (n : Nat) (there : t.isDirectory [directoryName] = true) :
    Workspace.Leads t [] (winding n).segments [directoryName] := by
  have root : t.isDirectory [] = true := by simp [FileTree.isDirectory]
  have first : Workspace.Leads t [] [directoryName] [directoryName] :=
    (Workspace.Leads.nil_iff.mpr ⟨rfl, root⟩).append_name (by decide) (by decide) there
  induction n with
  | zero => exact first
  | succ n ih =>
      have back : Workspace.Leads t [directoryName] ["..", directoryName] [directoryName] :=
        Workspace.Leads.cons_iff.mpr ⟨there, by simpa using first⟩
      exact Workspace.Leads.append_iff.mpr ⟨_, ih, back⟩

theorem leadsTo_winding {n : Nat} (atRoot : w.home = [])
    (there : w.tree.isDirectory [directoryName] = true) (short : 13 * n + 9 < Workspace.pathLimit) :
    w.LeadsTo ((winding n).text ++ "/") [directoryName] := by
  have askable : Workspace.Askable (winding n).text :=
    ⟨by simpa using null_notMem_text_winding n,
      (normal_winding n).text_ne_empty (segments_winding_ne_nil n),
      by rwa [utf8ByteSize_text_winding]⟩
  have start : w.origin ((winding n).text ++ "/") = [] := by
    unfold Workspace.origin
    rw [atRoot, ite_self]
  obtain ⟨lead, parts, _, none⟩ := (normal_winding n).splitAt_text (segments_winding_ne_nil n)
  have cut := Text.splitAt_append (winding n).text ""
  rw [String.append_empty, parts, none.mpr (root_winding n), List.nil_append] at cut
  refine Workspace.leadsTo_iff.mpr ⟨by rwa [ofString_winding], ?_⟩
  rw [start, cut]
  have stays : Workspace.Leads w.tree [directoryName] (Text.splitAt '/' "") [directoryName] :=
    Workspace.Leads.cons_iff.mpr
      ⟨there, by rw [if_pos (.inl rfl)]; exact Workspace.Leads.nil_iff.mpr ⟨rfl, there⟩⟩
  exact Workspace.Leads.append_iff.mpr ⟨_, leads_winding n there, stays⟩

/-- A path to the target that is short enough may be too long with a file in it: then asking for the
file breaks the cleaning off, and the file stays. -/
theorem not_sweeps_winding :
    let w : Workspace := ⟨(FileTree.empty.put ["Generated"] .directory).put
      ["Generated", "Old.cs"] (.file ⟨#[]⟩), [], [], "\n", Workspace.usualRoom⟩
    let directory : Document := .text (winding 314).text
    let resolved := (winding 314).text ++ "/"
    resolve directory = .ok resolved ∧ w.LeadsTo resolved ["Generated"] ∧
      (clean w directory).outcome =
        .error (.file (.refused .nameTooLong (resolved ++ "Old.cs"))) ∧
      (clean w directory).workspace = w ∧
      ∀ known reported,
        ¬ Sweeps w directory (Path.ofString resolved) ["Generated"] reported known := by
  intro w directory resolved
  have leads : w.LeadsTo resolved ["Generated"] := leadsTo_winding rfl rfl (by decide)
  have shown : pathBelow (winding 314) ["Old.cs"] = resolved ++ "Old.cs" := by
    rw [pathBelow, Path.text_append (segments_winding_ne_nil 314) (List.cons_ne_nil _ _),
      String.append_assoc]
    rfl
  have long : Workspace.pathLimit ≤ (pathBelow (winding 314) ["Old.cs"]).utf8ByteSize := by
    rw [shown, String.utf8ByteSize_append, String.utf8ByteSize_append, utf8ByteSize_text_winding]
    decide
  have halts : deleteHalt? (winding 314) (generatedBelow w.tree ["Generated"]) =
      some (.refused .nameTooLong (resolved ++ "Old.cs")) := by
    rw [show generatedBelow w.tree ["Generated"] = [["Old.cs"]] by rfl, deleteHalt?,
      List.findSome?_singleton, Workspace.overlong?, if_pos long, shown]
  have none : asked (winding 314) (generatedBelow w.tree ["Generated"]) = [] := by
    rw [show generatedBelow w.tree ["Generated"] = [["Old.cs"]] by rfl, asked,
      List.takeWhile_cons_of_neg (by simp [Workspace.overlong?, long])]
  have cleaned := clean_of_leadsTo (resolve_winding 313) leads
  rw [ofString_winding, sweep_of_deleteHalt rfl halts, none] at cleaned
  dsimp only at cleaned
  rw [without_nil] at cleaned
  have failed : (clean w directory).outcome =
      .error (.file (.refused .nameTooLong (resolved ++ "Old.cs"))) := by rw [cleaned]
  refine ⟨resolve_winding 313, leads, failed, by rw [cleaned], fun known reported sweeps => ?_⟩
  cases failed.symm.trans sweeps.returned

end Target

end EntityScribe
