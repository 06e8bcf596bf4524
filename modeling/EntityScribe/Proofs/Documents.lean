import EntityScribe.Proofs.Outcomes
import EntityScribe.Yaml

/-!
# Mappings without repeated keys

A mapping gives every key one value. Entries that come from pairs have no key twice, and all
documents that are read from YAML are made of such mappings.
-/

namespace EntityScribe

/-- Only a text is the same key as a text. -/
theorem Scalar.same_text_iff {s : String} {key : Scalar} :
    (Scalar.text s).same key = true ↔ key = .text s := by
  cases key with
  | text t => rw [same_text, beq_iff_eq, Scalar.text.injEq, eq_comm]
  | _ => simp [same, whole?]

namespace Entries

variable {α : Type} {entries : Entries α} {key : Scalar} {name : String} {value : α}

/-- No two entries have the same key. -/
def Distinct (entries : Entries α) : Prop :=
  entries.Pairwise fun first second => first.1.same second.1 = false

theorem fst_of_mem_put {entry : Scalar × α} (member : entry ∈ entries.put key value) :
    entry.1 = key ∨ ∃ old ∈ entries, old.1 = entry.1 := by
  induction entries with
  | nil => exact .inl (by rw [List.mem_singleton.mp member])
  | cons first rest ih =>
      rw [put] at member
      split at member
      · rcases List.mem_cons.mp member with rfl | later
        · exact .inr ⟨first, List.mem_cons_self, rfl⟩
        · exact .inr ⟨entry, List.mem_cons_of_mem first later, rfl⟩
      · rcases List.mem_cons.mp member with rfl | later
        · exact .inr ⟨_, List.mem_cons_self, rfl⟩
        · rcases ih later with new | ⟨old, inside, same⟩
          · exact .inl new
          · exact .inr ⟨old, List.mem_cons_of_mem first inside, same⟩

theorem Distinct.put (distinct : Distinct entries) (key : Scalar) (value : α) :
    Distinct (entries.put key value) := by
  induction entries with
  | nil => exact List.pairwise_singleton _ _
  | cons first rest ih =>
      obtain ⟨others, restDistinct⟩ := List.pairwise_cons.mp distinct
      rw [Entries.put]
      split
      · exact List.pairwise_cons.mpr ⟨others, restDistinct⟩
      · next new =>
          refine List.pairwise_cons.mpr ⟨fun entry member => ?_, ih restDistinct⟩
          rcases fst_of_mem_put member with isKey | ⟨old, inside, same⟩
          · rw [isKey]
            exact Bool.eq_false_iff.mpr new
          · rw [← same]
            exact others old inside

theorem distinct_ofPairs (pairs : List (Scalar × α)) : Distinct (ofPairs pairs) := by
  have grows : ∀ {entries : Entries α}, Distinct entries →
      Distinct (pairs.foldl (fun entries pair => put entries pair.1 pair.2) entries) := by
    induction pairs with
    | nil => exact fun distinct => distinct
    | cons pair rest ih => exact fun distinct => ih (distinct.put pair.1 pair.2)
  exact grows List.Pairwise.nil

theorem get?_cons_of_ne {k : Scalar} (other : k ≠ .text name) :
    get? ((k, value) :: entries) name = entries.get? name := by
  cases k with
  | text s => exact if_neg fun same => other (congrArg Scalar.text same)
  | _ => rfl

theorem mem_of_get? (found : entries.get? name = some value) : (.text name, value) ∈ entries := by
  induction entries with
  | nil => cases found
  | cons first rest ih =>
      obtain ⟨k, own⟩ := first
      by_cases same : k = .text name
      · subst same
        rw [get?, if_pos rfl] at found
        obtain rfl := Option.some.inj found
        exact List.mem_cons_self
      · rw [get?_cons_of_ne same] at found
        exact List.mem_cons_of_mem _ (ih found)

end Entries

/-- No mapping in the graph has a key twice. -/
def Graph.Distinct (g : Graph) : Prop :=
  ∀ entries, Cell.map entries ∈ g.cells → Entries.Distinct entries

namespace Document

variable {d : Document} {entries : Entries Document}

/-- No mapping in the document has a key twice. -/
inductive Keyed : Document → Prop where
  | scalar (s : Scalar) : Keyed (.scalar s)
  | list {items : List Document} (inner : ∀ item ∈ items, Keyed item) : Keyed (.list items)
  | map {entries : List (Scalar × Document)} (distinct : Entries.Distinct entries)
      (inner : ∀ entry ∈ entries, Keyed entry.2) : Keyed (.map entries)
  | node {graph : Graph} (index : Nat) (distinct : graph.Distinct) : Keyed (.node graph index)

theorem keyed_ofPart {g : Graph} (distinct : g.Distinct) (part : Part) : (ofPart g part).Keyed := by
  cases part with
  | scalar s => exact .scalar s
  | cell index => exact .node index distinct

/-- The entries of a mapping without a key twice are distinct, and so are those further inside. -/
theorem Keyed.of_entries? (keyed : d.Keyed) (mapping : d.entries? = some entries) :
    Entries.Distinct entries ∧ ∀ entry ∈ entries, entry.2.Keyed := by
  cases keyed with
  | scalar s => cases mapping
  | list inner => cases mapping
  | map distinct inner =>
      cases mapping
      exact ⟨distinct, inner⟩
  | @node g index distinct =>
      simp only [entries?] at mapping
      split at mapping
      · next parts cell =>
          cases mapping
          have apart := distinct parts (Array.mem_of_getElem? cell)
          refine ⟨List.pairwise_map.mpr apart, ?_⟩
          intro entry member
          obtain ⟨part, _, rfl⟩ := List.mem_map.mp member
          exact keyed_ofPart distinct part.2
      · cases mapping

/-- Mappings from pairs have no key twice. -/
theorem keyed_mapping {pairs : List (Scalar × Document)} (inner : ∀ pair ∈ pairs, pair.2.Keyed) :
    (mapping pairs).Keyed := by
  have keeps : ∀ {entries : Entries Document} {key : Scalar} {value : Document},
      (∀ entry ∈ entries, entry.2.Keyed) → value.Keyed →
        ∀ entry ∈ entries.put key value, entry.2.Keyed := by
    intro entries key value before new
    induction entries with
    | nil =>
        intro entry member
        rw [List.mem_singleton.mp member]
        exact new
    | cons first rest ih =>
        obtain ⟨here, there⟩ := List.forall_mem_cons.mp before
        rw [Entries.put]
        split
        · exact List.forall_mem_cons.mpr ⟨new, there⟩
        · exact List.forall_mem_cons.mpr ⟨here, ih there⟩
  have all : ∀ {entries : Entries Document}, (∀ entry ∈ entries, entry.2.Keyed) →
      ∀ entry ∈ pairs.foldl (fun entries pair => entries.put pair.1 pair.2) entries,
        entry.2.Keyed := by
    induction pairs with
    | nil => exact fun before => before
    | cons pair rest ih =>
        obtain ⟨here, there⟩ := List.forall_mem_cons.mp inner
        exact fun before => ih there (keeps before here)
  exact .map (Entries.distinct_ofPairs pairs) (all (List.forall_mem_nil _))

/-! ## What stands under a key -/

/-- The value under a key, which only mappings have. -/
def value? (d : Document) (key : String) : Option Document :=
  d.entries?.bind (·.get? key)

/-- The entries of the mapping under a key, or none if no mapping is there. -/
def entriesUnder (d : Document) (key : String) : Entries Document :=
  ((d.value? key).bind entries?).getD []

theorem isNull_iff : d.isNull = true ↔ d = .null := by
  constructor
  · intro isNull
    cases d with
    | scalar s =>
        cases s with
        | null => rfl
        | _ => cases isNull
    | _ => cases isNull
  · rintro rfl
    rfl

theorem isVoid_iff_of_items? {items : List Document} (listed : d.items? = some items) :
    d.isVoid = true ↔ items = [] := by
  cases d with
  | scalar s => cases listed
  | list own =>
      cases listed
      exact List.isEmpty_iff
  | map own => cases listed
  | node g index =>
      simp only [items?] at listed
      split at listed
      · next parts cell =>
          cases listed
          simp [isVoid, cell, Cell.isEmpty]
      · cases listed

theorem isVoid_iff_of_entries? (mapping : d.entries? = some entries) :
    d.isVoid = true ↔ entries = [] := by
  cases d with
  | scalar s => cases mapping
  | list own => cases mapping
  | map own =>
      cases mapping
      exact List.isEmpty_iff
  | node g index =>
      simp only [entries?] at mapping
      split at mapping
      · next parts cell =>
          cases mapping
          simp [isVoid, cell, Cell.isEmpty]
      · cases mapping

theorem Keyed.of_value? {key : String} {value : Document} (keyed : d.Keyed)
    (found : d.value? key = some value) : value.Keyed := by
  obtain ⟨entries, mapping, found⟩ := Option.bind_eq_some_iff.mp found
  exact (keyed.of_entries? mapping).2 _ (Entries.mem_of_get? found)

/-- What stands under a key has no key twice either. -/
theorem Keyed.of_entriesUnder (keyed : d.Keyed) (key : String) :
    Entries.Distinct (d.entriesUnder key) ∧ ∀ entry ∈ d.entriesUnder key, entry.2.Keyed := by
  unfold entriesUnder
  cases mapping : (d.value? key).bind entries? with
  | none => exact ⟨List.Pairwise.nil, List.forall_mem_nil _⟩
  | some entries =>
      obtain ⟨value, found, mapping⟩ := Option.bind_eq_some_iff.mp mapping
      exact (keyed.of_value? found).of_entries? mapping

end Document

/-! ## Documents from YAML -/

namespace Yaml

theorem Builder.distinct_of_cell {b c : Builder} {n : Nat} {entries : Entries Part}
    (filled : b.cell n = .ok (.map entries, c)) : Entries.Distinct entries := by
  unfold Builder.cell at filled
  split at filled
  · obtain ⟨_, _, filled⟩ := Except.bind_eq_ok_iff.mp filled
    cases filled
  · obtain ⟨nodes, _, filled⟩ := Except.bind_eq_ok_iff.mp filled
    obtain ⟨⟨pairs, _⟩, _, filled⟩ := Except.bind_eq_ok_iff.mp filled
    cases filled
    exact Entries.distinct_ofPairs pairs
  · cases filled

theorem Builder.distinct_of_fill {limit : Nat} {b : Builder} {cells filled : Array Cell}
    (before : Graph.Distinct ⟨cells⟩) (result : Builder.fill limit b cells = .ok filled) :
    Graph.Distinct ⟨filled⟩ := by
  induction limit generalizing b cells with
  | zero =>
      cases result
      exact before
  | succ limit ih =>
      rw [Builder.fill] at result
      split at result
      · cases result
        exact before
      · obtain ⟨⟨cell, next⟩, here, result⟩ := Except.bind_eq_ok_iff.mp result
        refine ih ?_ result
        intro entries member
        rcases Array.mem_push.mp member with old | rfl
        · exact before entries old
        · exact Builder.distinct_of_cell here

/-- No mapping in a document that is read has a key twice. -/
theorem keyed_of_read {bytes : ByteArray} {d : Document} (result : read bytes = .ok d) :
    d.Keyed := by
  obtain ⟨table, _, result⟩ := Except.bind_eq_ok_iff.mp result
  split at result
  · cases result
    exact .scalar .null
  · obtain ⟨⟨part, b⟩, _, result⟩ := Except.bind_eq_ok_iff.mp result
    obtain ⟨cells, filled, result⟩ := Except.bind_eq_ok_iff.mp result
    cases result
    exact Document.keyed_ofPart (Builder.distinct_of_fill (by simp [Graph.Distinct]) filled) part

end Yaml

end EntityScribe
