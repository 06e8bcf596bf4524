import EntityScribe.Generation
import EntityScribe.Proofs.Cleaning
import EntityScribe.Proofs.Writing

/-!
# Calls and what they leave

The artifacts of every call are written before the next call is made. So at each call the files are
those of the workspace at the start, overlaid with all that the calls before it gave, and where the
calls stop they leave just that, with what was written of the last batch.
-/

namespace EntityScribe

/-- The artifacts of an answer; a handler that fails gives none. -/
def Answer.batch (answer : Answer) : List Artifact :=
  match answer.outcome with
  | .ok artifacts => artifacts
  | .error _ => []

def Reply.batch {σ : Type} (r : Reply σ) : List Artifact :=
  r.answer.batch

namespace Target

/-- Writes the file of one artifact. -/
def writeOne (directory : String) (w : Workspace) (a : Artifact) : Except FileError Workspace :=
  w.writeFile (a.fileIn directory) (Newline.toPlatform w.lineEnd a.text)

/-- Each artifact can be written once those before it are, and is then laid over them. -/
def AllWritten (directory : String) (laid : List Artifact → Workspace)
    (artifacts : List Artifact) : Prop :=
  ∀ before a, before ++ [a] <+: artifacts →
    writeOne directory (laid before) a = .ok (laid (before ++ [a]))

variable {w : Workspace} {directory : String} {artifacts : List Artifact}

theorem AllWritten.of_leading {laid : List Artifact → Workspace} {first : List Artifact}
    (written : AllWritten directory laid artifacts) (leading : first <+: artifacts) :
    AllWritten directory laid first :=
  fun before a further => written before a (further.trans leading)

theorem AllWritten.congr {laid other : List Artifact → Workspace}
    (written : AllWritten directory laid artifacts)
    (same : ∀ first, first <+: artifacts → other first = laid first) :
    AllWritten directory other artifacts := by
  intro before a leading
  rw [same _ leading, same _ ((List.prefix_append before [a]).trans leading)]
  exact written before a leading

theorem writeOne_overlay {a : Artifact} (fit : fits w directory a = true)
    (before : List Artifact) :
    writeOne directory (overlay w directory before) a =
      .ok (overlay w directory (before ++ [a])) := by
  have fitNow : fits (overlay w directory before) directory a = true := by rwa [fits_overlay]
  obtain ⟨place, goes⟩ := fits_iff.mp fitNow
  rw [writeOne, writeFile_eq, goes, overlay_append, overlay_singleton goes]

theorem allWritten_overlay_iff :
    AllWritten directory (overlay w directory) artifacts ↔
      ∀ a ∈ artifacts, fits w directory a = true := by
  constructor
  · intro written a member
    obtain ⟨before, after, rfl⟩ := List.append_of_mem member
    have stored := written before a ⟨after, by simp⟩
    rw [writeOne, writeFile_eq] at stored
    split at stored
    · cases stored
    · next place goes => rw [← fits_overlay w directory before, fits_iff.mpr ⟨place, goes⟩]
  · intro fit before a leading
    exact writeOne_overlay (fit a (leading.subset (by simp))) before

theorem AllWritten.append {first second : List Artifact}
    (fit : ∀ a ∈ first, fits w directory a = true)
    (written : AllWritten directory (overlay (overlay w directory first) directory) second) :
    AllWritten directory (overlay w directory) (first ++ second) := by
  have fitSecond := allWritten_overlay_iff.mp written
  rw [fits_overlay] at fitSecond
  exact allWritten_overlay_iff.mpr (List.forall_mem_append.mpr ⟨fit, fitSecond⟩)

end Target

namespace Generation

open Target

variable {σ : Type}

theorem zipIdx_map_zipIdx {α β : Type} (f : α × Nat → β) (as : List α) (k : Nat) :
    ((as.zipIdx k).map f).zipIdx k = (as.zipIdx k).map fun entry => (f entry, entry.2) := by
  induction as generalizing k with
  | nil => rfl
  | cons a rest ih => simp [ih]

/-- If the task of each plugin changes with the plugin, so do the tasks of a run. -/
theorem tasks_map_zipIdx {τ : Type} {m : Model} {change : Plugin σ × Nat → Plugin τ}
    {changed : Task σ → Task τ}
    (same : ∀ phase entry,
      task? m phase (change entry, entry.2) = (task? m phase entry).map changed)
    (plugins : List (Plugin σ)) :
    tasks m (plugins.zipIdx.map change) = (tasks m plugins).map changed := by
  rw [tasks, tasks, List.map_flatMap]
  congr 1
  funext phase
  rw [zipIdx_map_zipIdx, List.filterMap_map, List.map_filterMap]
  congr 1
  funext entry
  exact same phase entry

/-- The replies of tasks, each performed with the memory that the one before it leaves. -/
def replies (memory : σ) : List (Task σ) → List (Reply σ)
  | [] => []
  | t :: more => t.perform memory :: replies (t.perform memory).memory more

theorem length_replies (memory : σ) (ts : List (Task σ)) :
    (replies memory ts).length = ts.length := by
  induction ts generalizing memory with
  | nil => rfl
  | cons t more ih => rw [replies, List.length_cons, ih, List.length_cons]

/-- All artifacts of replies in their order. -/
def given (replies : List (Reply σ)) : List Artifact :=
  replies.flatMap Reply.batch

/-- The artifacts that performing tasks writes: what is given before the first failure, up to the
first that cannot be written. -/
def persisted (w : Workspace) (directory : String) (rs : List (Reply σ)) : List Artifact :=
  (given (rs.takeWhile (·.answer.outcome.isOk))).takeWhile (fits w directory)

/-- How performing tasks ends: with the number of calls that are made, the outcome and the workspace
that is left. `laid` tells what the workspace is when artifacts have been written. -/
inductive Ending (directory : String) (laid : List Artifact → Workspace) (rs : List (Reply σ)) :
    Nat → Except Failure (List Artifact) → Workspace → Prop where
  /-- No handler fails, and all artifacts are written. -/
  | complete (performed : ∀ r ∈ rs, r.answer.outcome = .ok r.batch)
      (written : AllWritten directory laid (given rs)) :
      Ending directory laid rs rs.length (.ok (given rs)) (laid (given rs))
  /-- The handler after the first `k` is the first to fail. -/
  | raised {k : Nat} {r : Reply σ} {failure : Failure}
      (performed : ∀ r ∈ rs.take k, r.answer.outcome = .ok r.batch)
      (written : AllWritten directory laid (given (rs.take k)))
      (here : rs[k]? = some r) (failed : r.answer.outcome = .error failure) :
      Ending directory laid rs (k + 1) (.error failure) (laid (given (rs.take k)))
  /-- In the batch after the first `k`, one artifact is the first that cannot be written. -/
  | blocked {k : Nat} {r : Reply σ} {before after : List Artifact} {a : Artifact} {e : FileError}
      (performed : ∀ r ∈ rs.take k, r.answer.outcome = .ok r.batch)
      (here : rs[k]? = some r) (batch : r.answer.outcome = .ok (before ++ a :: after))
      (written : AllWritten directory laid (given (rs.take k) ++ before))
      (refused : writeOne directory (laid (given (rs.take k) ++ before)) a = .error e) :
      Ending directory laid rs (k + 1) (.error (writeFailure (a.fileIn directory) e))
        (laid (given (rs.take k) ++ before))

section Performing

variable {w : Workspace} {directory : String} {memory : σ} {t : Task σ}

theorem performAll_of_raised (more : List (Task σ)) {failure : Failure}
    (failed : (t.perform memory).answer.outcome = .error failure) :
    let run := performAll directory w memory (t :: more)
    run.outcome = .error failure ∧ run.workspace = w ∧ run.calls = [callOf t w] := by
  rw [performAll, failed]
  exact ⟨rfl, rfl, rfl⟩

theorem performAll_of_blocked (more : List (Task σ)) {artifacts : List Artifact} {failure : Failure}
    (performed : (t.perform memory).answer.outcome = .ok artifacts)
    (blocked : (write w directory artifacts).outcome = .error failure) :
    let run := performAll directory w memory (t :: more)
    run.outcome = .error failure ∧ run.workspace = (write w directory artifacts).workspace ∧
      run.calls = [callOf t w] := by
  rw [performAll, performed]
  dsimp only
  rw [blocked]
  exact ⟨rfl, rfl, rfl⟩

theorem performAll_of_written (more : List (Task σ)) {artifacts : List Artifact}
    (performed : (t.perform memory).answer.outcome = .ok artifacts)
    (written : (write w directory artifacts).outcome = .ok ()) :
    let run := performAll directory w memory (t :: more)
    let rest := performAll directory (write w directory artifacts).workspace
      (t.perform memory).memory more
    run.outcome = rest.outcome.map (artifacts ++ ·) ∧ run.workspace = rest.workspace ∧
      run.calls = callOf t w :: rest.calls := by
  rw [performAll, performed]
  dsimp only
  rw [written]
  exact ⟨rfl, rfl, rfl⟩

theorem given_cons (r : Reply σ) (rs : List (Reply σ)) : given (r :: rs) = r.batch ++ given rs :=
  List.flatMap_cons

theorem batch_of_performed {r : Reply σ} {artifacts : List Artifact}
    (performed : r.answer.outcome = .ok artifacts) : r.batch = artifacts := by
  rw [Reply.batch, Answer.batch, performed]

/-- A batch that is all written goes before whatever the rest of the tasks leads to. -/
theorem Ending.cons {r : Reply σ} {rs : List (Reply σ)} {n : Nat}
    {outcome : Except Failure (List Artifact)} {final : Workspace}
    (performed : r.answer.outcome = .ok r.batch)
    (fit : ∀ a ∈ r.batch, fits w directory a = true)
    (ending : Ending directory (overlay (overlay w directory r.batch) directory) rs n outcome
      final) :
    Ending directory (overlay w directory) (r :: rs) (n + 1) (outcome.map (r.batch ++ ·))
      final := by
  cases ending with
  | complete performedRest written =>
      rw [← overlay_append, ← given_cons]
      refine .complete (List.forall_mem_cons.mpr ⟨performed, performedRest⟩) ?_
      rw [given_cons]
      exact written.append fit
  | @raised k _ _ performedRest written here failed =>
      rw [← overlay_append, ← given_cons, ← List.take_succ_cons]
      refine .raised (List.forall_mem_cons.mpr ⟨performed, performedRest⟩) ?_ here failed
      rw [List.take_succ_cons, given_cons]
      exact written.append fit
  | @blocked k _ before after a e performedRest here batch written refused =>
      rw [← overlay_append] at refused ⊢
      rw [← List.append_assoc, ← given_cons, ← List.take_succ_cons] at refused ⊢
      refine .blocked (List.forall_mem_cons.mpr ⟨performed, performedRest⟩) here batch ?_ refused
      rw [List.take_succ_cons, given_cons, List.append_assoc]
      exact written.append fit

/-- At every call the files are those of the calls before it. -/
def CallsSee (laid : List Artifact → Workspace) (ts : List (Task σ)) (rs : List (Reply σ))
    (calls : List Call) : Prop :=
  ∀ k call, calls[k]? = some call →
    ∃ t, ts[k]? = some t ∧ call = callOf t (laid (given (rs.take k)))

theorem CallsSee.single {ts : List (Task σ)} {rs : List (Reply σ)} :
    CallsSee (overlay w directory) (t :: ts) rs [callOf t w] := by
  intro k call called
  cases k with
  | zero => exact ⟨t, rfl, (Option.some.inj called).symm⟩
  | succ k => cases called

theorem CallsSee.cons {r : Reply σ} {ts : List (Task σ)} {rs : List (Reply σ)} {calls : List Call}
    (see : CallsSee (overlay (overlay w directory r.batch) directory) ts rs calls) :
    CallsSee (overlay w directory) (t :: ts) (r :: rs) (callOf t w :: calls) := by
  intro k call called
  cases k with
  | zero => exact ⟨t, rfl, (Option.some.inj called).symm⟩
  | succ k =>
      obtain ⟨later, there, seen⟩ := see k call called
      refine ⟨later, there, ?_⟩
      rw [List.take_succ_cons, given_cons, overlay_append]
      exact seen

/-- Performing tasks in a target that is there: every call sees the files of the calls before it,
and the end is one of the three possible ones. -/
theorem performAll_persists {top : Place} (leads : w.LeadsTo directory top) (memory : σ)
    (ts : List (Task σ)) :
    let run := performAll directory w memory ts
    CallsSee (overlay w directory) ts (replies memory ts) run.calls ∧
      Ending directory (overlay w directory) (replies memory ts) run.calls.length run.outcome
        run.workspace := by
  induction ts generalizing w memory with
  | nil =>
      constructor
      · exact fun k call called => nomatch called
      · exact .complete (List.forall_mem_nil _) (allWritten_overlay_iff.mpr (List.forall_mem_nil _))
  | cons t more ih =>
      have nothing : ∀ a ∈ ([] : List Artifact), fits w directory a = true := List.forall_mem_nil _
      cases performed : (t.perform memory).answer.outcome with
      | error failure =>
          obtain ⟨outcome, workspace, calls⟩ := performAll_of_raised more performed
          dsimp only
          rw [outcome, workspace, calls]
          refine ⟨.single, ?_⟩
          exact .raised (k := 0) (List.forall_mem_nil _) (allWritten_overlay_iff.mpr nothing) rfl
            performed
      | ok artifacts =>
          have batch := batch_of_performed performed
          rcases exists_first_unfit w directory artifacts with
            fit | ⟨before, a, after, rfl, fit, unfit⟩
          · obtain ⟨succeeded, left⟩ := writeEach_of_fits fit
            rw [← write_of_leadsTo leads] at succeeded left
            obtain ⟨outcome, workspace, calls⟩ := performAll_of_written more performed
              succeeded
            obtain ⟨see, ending⟩ := ih (leadsTo_overlay leads artifacts) (t.perform memory).memory
            rw [left, ← batch] at outcome workspace calls
            rw [← batch] at see ending performed fit
            dsimp only
            rw [outcome, workspace, calls]
            exact ⟨see.cons, ending.cons performed fit⟩
          · have unfitThen : fits (overlay w directory before) directory a = false := by
              rwa [fits_overlay]
            obtain ⟨e, refused⟩ := site_of_unfit unfitThen
            obtain ⟨failed, left⟩ := writeEach_of_unfit fit refused
            rw [← write_of_leadsTo leads] at failed left
            obtain ⟨outcome, workspace, calls⟩ := performAll_of_blocked more performed failed
            dsimp only
            rw [outcome, workspace, calls, left]
            refine ⟨.single, ?_⟩
            have stopped : writeOne directory (overlay w directory before) a = .error e := by
              rw [writeOne, writeFile_eq, refused]
            exact .blocked (k := 0) (List.forall_mem_nil _) rfl performed
              (allWritten_overlay_iff.mpr fit) stopped

theorem given_take_le (rs : List (Reply σ)) {j k : Nat} (le : j ≤ k) :
    given (rs.take j) <+: given (rs.take k) := by
  obtain ⟨rest, same⟩ := List.take_prefix_take_left (l := rs) le
  exact ⟨given rest, by rw [← same, given, given, given, List.flatMap_append]⟩

theorem given_take_subset (rs : List (Reply σ)) (k : Nat) : given (rs.take k) ⊆ given rs := by
  intro a member
  obtain ⟨r, inside, gives⟩ := List.mem_flatMap.mp member
  exact List.mem_flatMap.mpr ⟨r, List.mem_of_mem_take inside, gives⟩

theorem batch_subset_given {rs : List (Reply σ)} {r : Reply σ} {k : Nat} (here : rs[k]? = some r) :
    r.batch ⊆ given (rs.take (k + 1)) := by
  intro a member
  rw [List.take_add_one, here, given, List.flatMap_append]
  exact List.mem_append_right _ (by simpa using member)

theorem blocked_subset {rs : List (Reply σ)} {r : Reply σ} {k : Nat} {before after : List Artifact}
    {a : Artifact} (here : rs[k]? = some r)
    (batch : r.answer.outcome = .ok (before ++ a :: after)) :
    given (rs.take k) ++ before ⊆ given (rs.take (k + 1)) := by
  refine List.append_subset.mpr ⟨(given_take_le rs (Nat.le_succ k)).subset, ?_⟩
  have leading : before ⊆ before ++ a :: after := List.subset_append_left _ _
  rw [← batch_of_performed batch] at leading
  exact List.Subset.trans leading (batch_subset_given here)

variable {laid other : List Artifact → Workspace} {rs : List (Reply σ)} {n : Nat}
  {outcome : Except Failure (List Artifact)} {final : Workspace}

/-- What earlier calls gave has been written by the time of a call. -/
theorem Ending.written_before (ending : Ending directory laid rs n outcome final) {k : Nat}
    (called : k < n) : AllWritten directory laid (given (rs.take k)) := by
  cases ending with
  | complete performed written =>
      have leading := given_take_le rs (Nat.le_of_lt called)
      rw [List.take_length] at leading
      exact written.of_leading leading
  | raised performed written here failed =>
      exact written.of_leading (given_take_le rs (Nat.le_of_lt_succ called))
  | blocked performed here batch written refused =>
      have leading := given_take_le rs (Nat.le_of_lt_succ called)
      exact written.of_leading (leading.trans (List.prefix_append _ _))

/-- After a run without a failure, everything that has been given is there. -/
theorem Ending.of_ok {artifacts : List Artifact}
    (ending : Ending directory laid rs n outcome final) (succeeded : outcome = .ok artifacts) :
    artifacts = given rs ∧ final = laid artifacts := by
  cases ending with
  | complete performed written =>
      cases succeeded
      exact ⟨rfl, rfl⟩
  | raised performed written here failed => cases succeeded
  | blocked performed here batch written refused => cases succeeded

theorem Ending.all_of_ok {artifacts : List Artifact}
    (ending : Ending directory laid rs n outcome final) (succeeded : outcome = .ok artifacts) :
    (∀ r ∈ rs, r.answer.outcome.isOk = true) ∧ AllWritten directory laid (given rs) := by
  cases ending with
  | complete performed written =>
      refine ⟨fun r member => ?_, written⟩
      rw [performed r member]
      rfl
  | raised performed written here failed => cases succeeded
  | blocked performed here batch written refused => cases succeeded

/-- Where every handler gives artifacts and all of them can be written, nothing else happens. -/
theorem Ending.of_fits (performed : ∀ r ∈ rs, r.answer.outcome.isOk = true)
    (fit : ∀ a ∈ given rs, fits w directory a = true)
    (ending : Ending directory (overlay w directory) rs n outcome final) :
    outcome = .ok (given rs) := by
  cases ending with
  | complete _ written => rfl
  | raised _ written here failed =>
      have succeeds := performed _ (List.mem_of_getElem? here)
      rw [failed] at succeeds
      cases succeeds
  | @blocked k r before after a e _ here batch written refused =>
      have inside : a ∈ given rs := by
        refine given_take_subset rs (k + 1) (batch_subset_given here ?_)
        rw [batch_of_performed batch]
        exact List.mem_append_right before List.mem_cons_self
      rw [writeOne_overlay (fit a inside)] at refused
      cases refused

theorem given_eq_append {k : Nat} {r : Reply σ} (here : rs[k]? = some r) :
    given rs = given (rs.take k) ++ (r.batch ++ given (rs.drop (k + 1))) := by
  obtain ⟨within, same⟩ := List.getElem?_eq_some_iff.mp here
  rw [← given_cons, ← same, ← List.drop_eq_getElem_cons within, given, given, given,
    ← List.flatMap_append, List.take_append_drop]

/-- Where every handler gives artifacts, only one that cannot be written makes a run fail, and it is
the first of them. -/
theorem Ending.of_error {failure : Failure} (performed : ∀ r ∈ rs, r.answer.outcome.isOk = true)
    (ending : Ending directory (overlay w directory) rs n outcome final)
    (failed : outcome = .error failure) :
    ∃ before a after e, given rs = before ++ a :: after ∧
      (∀ b ∈ before, fits w directory b = true) ∧
      site (overlay w directory before) directory a = .error e ∧
      failure = writeFailure (a.fileIn directory) e := by
  cases ending with
  | complete _ written => cases failed
  | raised _ written here raised =>
      have succeeds := performed _ (List.mem_of_getElem? here)
      rw [raised] at succeeds
      cases succeeds
  | @blocked k r before after a e _ here batch written refused =>
      cases failed
      refine ⟨given (rs.take k) ++ before, a, after ++ given (rs.drop (k + 1)), e, ?_,
        allWritten_overlay_iff.mp written, ?_, rfl⟩
      · rw [given_eq_append here, batch_of_performed batch, List.append_assoc, List.append_assoc,
          List.cons_append]
      · rw [writeOne, writeFile_eq] at refused
        split at refused
        · next refusal stopped =>
            cases refused
            exact stopped
        · cases refused

theorem takeWhile_of_all {α : Type} {p : α → Bool} {as : List α} (all : ∀ a ∈ as, p a = true) :
    as.takeWhile p = as := by
  have whole : (as ++ []).takeWhile p = as ++ [].takeWhile p := List.takeWhile_append_of_pos all
  rwa [List.append_nil, List.takeWhile_nil, List.append_nil] at whole

theorem takeWhile_of_split {α : Type} {p : α → Bool} {before after : List α} {a : α}
    (all : ∀ b ∈ before, p b = true) (stops : p a = false) :
    (before ++ a :: after).takeWhile p = before := by
  rw [List.takeWhile_append_of_pos all, List.takeWhile_cons_of_neg (by simp [stops]),
    List.append_nil]

theorem takeWhile_isOk {k : Nat} {r : Reply σ}
    (performed : ∀ r ∈ rs.take k, r.answer.outcome = .ok r.batch) (here : rs[k]? = some r) :
    rs.takeWhile (·.answer.outcome.isOk) =
      rs.take k ++ (r :: rs.drop (k + 1)).takeWhile (·.answer.outcome.isOk) := by
  have succeeds : ∀ r ∈ rs.take k, r.answer.outcome.isOk = true := by
    intro r member
    rw [performed r member]
    rfl
  obtain ⟨within, same⟩ := List.getElem?_eq_some_iff.mp here
  rw [← List.takeWhile_append_of_pos succeeds, ← same, ← List.drop_eq_getElem_cons within,
    List.take_append_drop]

/-- What is left is the workspace overlaid with the artifacts that performing the tasks writes. -/
theorem Ending.final_eq (ending : Ending directory (overlay w directory) rs n outcome final) :
    final = overlay w directory (persisted w directory rs) := by
  cases ending with
  | complete performed written =>
      have succeeds : rs.takeWhile (·.answer.outcome.isOk) = rs := by
        refine takeWhile_of_all ?_
        intro r member
        rw [performed r member]
        rfl
      rw [persisted, succeeds, takeWhile_of_all (allWritten_overlay_iff.mp written)]
  | @raised k r failure performed written here failed =>
      have fails : r.answer.outcome.isOk = false := by
        rw [failed]
        rfl
      rw [persisted, takeWhile_isOk performed here, List.takeWhile_cons_of_neg (by simp [fails]),
        List.append_nil, takeWhile_of_all (allWritten_overlay_iff.mp written)]
  | @blocked k r before after a e performed here batch written refused =>
      have succeeds : r.answer.outcome.isOk = true := by
        rw [batch]
        rfl
      have unfit : fits w directory a = false := by
        cases fit : fits w directory a with
        | false => rfl
        | true =>
            rw [writeOne_overlay fit] at refused
            cases refused
      have gives : given (rs.takeWhile (·.answer.outcome.isOk)) =
          (given (rs.take k) ++ before) ++ a :: (after ++ given
            ((rs.drop (k + 1)).takeWhile (·.answer.outcome.isOk))) := by
        rw [takeWhile_isOk performed here, List.takeWhile_cons, succeeds, if_pos rfl, given,
          List.flatMap_append, List.flatMap_cons, batch_of_performed batch, List.append_assoc,
          List.append_assoc]
        rfl
      rw [persisted, gives, takeWhile_of_split (allWritten_overlay_iff.mp written) unfit]

theorem persisted_subset (w : Workspace) (directory : String) (rs : List (Reply σ)) :
    persisted w directory rs ⊆ given rs := by
  intro a member
  obtain ⟨r, inside, gives⟩ := List.mem_flatMap.mp (List.IsPrefix.subset
    ( List.takeWhile_prefix (fits w directory)) member)
  have among := List.IsPrefix.subset
    ( List.takeWhile_prefix fun r : Reply σ => r.answer.outcome.isOk) inside
  exact List.mem_flatMap.mpr ⟨r, among, gives⟩

theorem fits_of_mem_persisted {a : Artifact} (member : a ∈ persisted w directory rs) :
    fits w directory a = true :=
  List.all_eq_true.mp List.all_takeWhile a member

/-- It only matters how the artifacts lie that have been written. -/
theorem Ending.congr
    (same : ∀ artifacts, AllWritten directory laid artifacts →
      artifacts ⊆ given (rs.take n) → other artifacts = laid artifacts)
    (ending : Ending directory laid rs n outcome final) :
    Ending directory other rs n outcome final := by
  cases ending with
  | complete performed written =>
      rw [List.take_length] at same
      rw [← same _ written (List.Subset.refl _)]
      exact .complete performed (written.congr fun first leading =>
        same first (written.of_leading leading) leading.subset)
  | @raised k _ _ performed written here failed =>
      have inside : given (rs.take k) ⊆ given (rs.take (k + 1)) :=
        (given_take_le rs (Nat.le_succ k)).subset
      rw [← same _ written inside]
      exact .raised performed (written.congr fun first leading =>
        same first (written.of_leading leading) (List.Subset.trans leading.subset inside)) here
        failed
  | blocked performed here batch written refused =>
      have inside := blocked_subset here batch
      rw [← same _ written inside]
      refine .blocked performed here batch (written.congr fun first leading =>
        same first (written.of_leading leading) (List.Subset.trans leading.subset inside)) ?_
      rw [same _ written inside]
      exact refused

end Performing

end Generation

end EntityScribe
