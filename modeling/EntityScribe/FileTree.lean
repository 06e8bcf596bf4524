/-!
# File trees

A tree of directories and files is a list of places with what stands there. A place is the list of
names on the way to it from the root, and the root itself is always a directory.
-/

namespace EntityScribe

/-- The names on the way from the root. -/
abbrev Place := List String

inductive Entry where
  | directory
  | file (content : ByteArray)

theorem Entry.file_eq_file_iff {a b : ByteArray} :
    Entry.file a = Entry.file b ↔ a.data = b.data := by
  rw [Entry.file.injEq]
  constructor
  · intro same
    rw [same]
  · intro same
    cases a
    cases b
    exact congrArg ByteArray.mk same

/-- Files are the same if their bytes are. -/
instance : DecidableEq Entry
  | .directory, .directory => isTrue rfl
  | .directory, .file _ => isFalse Entry.noConfusion
  | .file _, .directory => isFalse Entry.noConfusion
  | .file _, .file _ => decidable_of_iff' _ Entry.file_eq_file_iff

def Entry.isFile : Entry → Bool
  | directory => false
  | file _ => true

namespace Place

/-- Places are ordered by their names from the root on, names by code points. -/
def before : Place → Place → Bool
  | [], _ => true
  | _ :: _, [] => false
  | a :: p, b :: q => if a = b then before p q else decide (a < b)

/-- The rest of a place below another. -/
def below? : Place → Place → Option Place
  | [], place => if place = [] then none else some place
  | _ :: _, [] => none
  | a :: p, b :: q => if a = b then below? p q else none

end Place

/-- Puts an element into an ordered list, in front of the first that it comes before. -/
def insertBy {α : Type} (before : α → α → Bool) (a : α) : List α → List α
  | [] => [a]
  | b :: rest => if before a b then a :: b :: rest else b :: insertBy before a rest

/-- The elements in the given order; equal ones keep the order they have. -/
def sortBy {α : Type} (before : α → α → Bool) : List α → List α
  | [] => []
  | a :: rest => insertBy before a (sortBy before rest)

theorem mem_insertBy {α : Type} {before : α → α → Bool} {a b : α} {l : List α} :
    b ∈ insertBy before a l ↔ b = a ∨ b ∈ l := by
  induction l with
  | nil => simp [insertBy]
  | cons c rest ih =>
      by_cases h : before a c
      · simp [insertBy, h]
      · simp only [insertBy, h, Bool.false_eq_true, if_false, List.mem_cons, ih]
        exact or_left_comm

/-- Sorting neither adds nor loses an element. -/
theorem mem_sortBy {α : Type} {before : α → α → Bool} {b : α} {l : List α} :
    b ∈ sortBy before l ↔ b ∈ l := by
  induction l with
  | nil => simp [sortBy]
  | cons a rest ih => simp [sortBy, mem_insertBy, ih]

@[ext]
structure FileTree where
  entries : List (Place × Entry)
  /-- Nothing stands twice at one place. -/
  distinct : entries.Pairwise fun a b => a.1 ≠ b.1

namespace FileTree

def empty : FileTree := ⟨[], .nil⟩

/-- What stands at a place. -/
def get? (t : FileTree) (p : Place) : Option Entry :=
  if p = [] then some .directory else t.entries.lookup p

@[simp]
theorem get?_root (t : FileTree) : t.get? [] = some .directory := by simp [get?]

def isDirectory (t : FileTree) (p : Place) : Bool :=
  t.get? p == some .directory

/-- The tree without what stands at a place. -/
def erase (t : FileTree) (p : Place) : FileTree :=
  ⟨t.entries.filter (·.1 != p), t.distinct.filter _⟩

theorem ne_of_mem_erase {t : FileTree} {p : Place} {entry : Place × Entry}
    (member : entry ∈ (t.erase p).entries) : p ≠ entry.1 := by
  have kept := (List.mem_filter.mp member).2
  exact fun same => bne_iff_ne.mp kept same.symm

/-- The tree with a given entry at a place, whatever stood there. -/
def put (t : FileTree) (p : Place) (e : Entry) : FileTree :=
  ⟨(p, e) :: (t.erase p).entries,
    List.pairwise_cons.mpr ⟨fun _ member => ne_of_mem_erase member, (t.erase p).distinct⟩⟩

theorem lookup_filter_ne (entries : List (Place × Entry)) (p q : Place) :
    (entries.filter (·.1 != p)).lookup q = if q = p then none else entries.lookup q := by
  induction entries with
  | nil => simp
  | cons entry rest ih =>
      obtain ⟨r, e⟩ := entry
      by_cases hr : r = p <;> by_cases hq : q = r <;> grind

/-- Below the root, what has been put stands at its place, and every other place is as before. -/
theorem get?_put (t : FileTree) {p : Place} (below : p ≠ []) (e : Entry) (q : Place) :
    (t.put p e).get? q = if q = p then some e else t.get? q := by
  by_cases root : q = []
  · subst root
    simp [Ne.symm below]
  · by_cases same : q = p
    · subst same
      simp [get?, put, root]
    · have other : (q == p) = false := beq_false_of_ne same
      simp [get?, put, erase, root, same, other, lookup_filter_ne, List.lookup_cons]

/-- Everything below a place, each with the rest of its own place. -/
def below (t : FileTree) (p : Place) : List (Place × Entry) :=
  t.entries.filterMap fun (q, e) => (Place.below? p q).map fun rest => (rest, e)

/-- The names that stand in a directory. -/
def names (t : FileTree) (p : Place) : List String :=
  (t.below p).filterMap fun (rest, _) =>
    match rest with
    | [name] => some name
    | _ => none

/-- What stands at a place and at all places above it is made a directory, where nothing stands. -/
def putDirectories (t : FileTree) (p : Place) : FileTree :=
  (List.range p.length).foldl (fun tree n =>
    let place := p.take (n + 1)
    if (tree.get? place).isSome then tree else tree.put place .directory) t

/-- A file with all the directories that lead to it. -/
def putFile (t : FileTree) (p : Place) (content : ByteArray) : FileTree :=
  (t.putDirectories p.dropLast).put p (.file content)

end FileTree

end EntityScribe
