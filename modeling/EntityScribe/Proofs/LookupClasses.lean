import EntityScribe.BuiltIn.LookupClasses

/-!
# What lookup classes know

Classes are only added and enlarged. So whatever pool or component has once been entered is known
in the end, and no class comes from anywhere else.
-/

namespace EntityScribe

theorem eraseDups_concat {α : Type} [DecidableEq α] (l : List α) (a : α) :
    (l ++ [a]).eraseDups = if a ∈ l then l.eraseDups else l.eraseDups ++ [a] := by
  rw [List.eraseDups_append]
  by_cases member : a ∈ l
  · simp [List.removeAll, member]
  · simp [List.removeAll, member, List.eraseDups_cons]

namespace BuiltIn.LookupClasses

/-- There is a class with the tag that knows the names. -/
def Knows (classes : List LookupClass) (tag : String) (names : List String) : Prop :=
  ∃ k ∈ classes, k.tag = tag ∧ names ⊆ k.components

/-- All that is known stays known. -/
def Spreads (first second : List LookupClass) : Prop :=
  ∀ tag names, Knows first tag names → Knows second tag names

variable {classes : List LookupClass} {tag component : String} {names : List String}

theorem Knows.cons (k : LookupClass) (known : Knows classes tag names) :
    Knows (k :: classes) tag names := by
  obtain ⟨l, member, here⟩ := known
  exact ⟨l, List.mem_cons_of_mem k member, here⟩

theorem spreads_cons {first second : List LookupClass} (k : LookupClass)
    (spreads : Spreads first second) : Spreads (k :: first) (k :: second) := by
  rintro tag names ⟨l, member, here⟩
  rcases List.mem_cons.mp member with rfl | later
  · exact ⟨l, List.mem_cons_self, here⟩
  · exact (spreads tag names ⟨l, later, here⟩).cons k

/-! ## One entry -/

theorem spreads_declare (tag : String) (classes : List LookupClass) :
    Spreads classes (declare tag classes) := by
  induction classes with
  | nil => exact fun _ _ known => nomatch known
  | cons k rest ih =>
      rw [declare]
      split
      · exact fun _ _ known => known
      · exact spreads_cons k ih

theorem knows_declare (tag : String) (classes : List LookupClass) :
    Knows (declare tag classes) tag [] := by
  induction classes with
  | nil => exact ⟨⟨tag, []⟩, List.mem_cons_self, rfl, List.nil_subset _⟩
  | cons k rest ih =>
      rw [declare]
      split
      · next same => exact ⟨k, List.mem_cons_self, same, List.nil_subset _⟩
      · exact ih.cons k

theorem spreads_enter (component tag : String) (classes : List LookupClass) :
    Spreads classes (enter component tag classes) := by
  induction classes with
  | nil => exact fun _ _ known => nomatch known
  | cons k rest ih =>
      rw [enter]
      split
      · next same =>
          rintro other names ⟨l, member, here, inside⟩
          rcases List.mem_cons.mp member with rfl | later
          · exact ⟨⟨tag, l.components ++ [component]⟩, List.mem_cons_self, same.symm.trans here,
              List.Subset.trans inside (List.subset_append_left _ _)⟩
          · exact ⟨l, List.mem_cons_of_mem _ later, here, inside⟩
      · exact spreads_cons k ih

theorem knows_enter (component tag : String) (classes : List LookupClass) :
    Knows (enter component tag classes) tag [component] := by
  induction classes with
  | nil => exact ⟨⟨tag, [component]⟩, List.mem_cons_self, rfl, List.Subset.refl _⟩
  | cons k rest ih =>
      rw [enter]
      split
      · exact ⟨⟨tag, k.components ++ [component]⟩, List.mem_cons_self, rfl,
          List.subset_append_right _ _⟩
      · exact ih.cons k

/-! ## Many entries -/

section Folding

variable {β : Type} {f : List LookupClass → β → List LookupClass}

theorem spreads_foldl (spreads : ∀ classes b, Spreads classes (f classes b)) (bs : List β)
    (classes : List LookupClass) : Spreads classes (bs.foldl f classes) := by
  induction bs generalizing classes with
  | nil => exact fun _ _ known => known
  | cons b rest ih =>
      exact fun tag names known => ih _ tag names (spreads classes b tag names known)

theorem knows_foldl (spreads : ∀ classes b, Spreads classes (f classes b)) {b : β} {bs : List β}
    (member : b ∈ bs) (knows : ∀ classes, Knows (f classes b) tag names)
    (classes : List LookupClass) : Knows (bs.foldl f classes) tag names := by
  induction bs generalizing classes with
  | nil => cases member
  | cons c rest ih =>
      rcases List.mem_cons.mp member with rfl | later
      · exact spreads_foldl spreads rest _ tag names (knows classes)
      · exact ih later _

end Folding

theorem spreads_add (classes : List LookupClass) (c : Component) :
    Spreads classes (add classes c) :=
  spreads_foldl (fun classes tag => spreads_enter c.shortName tag classes) c.lookupTags classes

theorem knows_add {c : Component} (member : tag ∈ c.lookupTags) (classes : List LookupClass) :
    Knows (add classes c) tag [c.shortName] :=
  knows_foldl (fun classes tag => spreads_enter c.shortName tag classes) member
    (knows_enter c.shortName tag) classes

/-- Every pool has its class. -/
theorem knows_pool (components : List Component) {pools : List String} {pool : String}
    (member : pool ∈ pools) :
    Knows (LookupClasses.classes pools components) (Naming.lookupTag pool) [] :=
  spreads_foldl spreads_add components _ _ _
    (knows_foldl (fun classes pool => spreads_declare (Naming.lookupTag pool) classes) member
      (knows_declare (Naming.lookupTag pool)) [])

/-- Every component is known in the classes of all its pools. -/
theorem knows_component (pools : List String) {components : List Component} {c : Component}
    (member : c ∈ components) (inside : tag ∈ c.lookupTags) :
    Knows (LookupClasses.classes pools components) tag [c.shortName] :=
  knows_foldl spreads_add member (knows_add inside) (ofPools pools)

/-! ## Tags -/

/-- A tag is added at the end unless it is there. -/
def Inserts (tag : String) (before after : List LookupClass) : Prop :=
  after.map (·.tag) =
    if tag ∈ before.map (·.tag) then before.map (·.tag) else before.map (·.tag) ++ [tag]

theorem inserts_cons {k : LookupClass} {before after : List LookupClass} (other : k.tag ≠ tag)
    (inserts : Inserts tag before after) : Inserts tag (k :: before) (k :: after) := by
  have again : tag ∈ (k :: before).map (·.tag) ↔ tag ∈ before.map (·.tag) := by
    rw [List.map_cons, List.mem_cons, or_iff_right (Ne.symm other)]
  unfold Inserts
  rw [List.map_cons, inserts]
  simp only [again]
  split <;> rfl

theorem inserts_declare (tag : String) (classes : List LookupClass) :
    Inserts tag classes (declare tag classes) := by
  induction classes with
  | nil => rfl
  | cons k rest ih =>
      rw [declare]
      split
      · next own => exact (if_pos (by simp [own])).symm
      · next other => exact inserts_cons other ih

theorem inserts_enter (component tag : String) (classes : List LookupClass) :
    Inserts tag classes (enter component tag classes) := by
  induction classes with
  | nil => rfl
  | cons k rest ih =>
      rw [enter]
      split
      · next own =>
          rw [Inserts, if_pos (by simp [own]), List.map_cons, List.map_cons, own]
      · next other => exact inserts_cons other ih

theorem Inserts.tags {before after : List LookupClass} {l : List String}
    (inserts : Inserts tag before after) (tags : before.map (·.tag) = l.eraseDups) :
    after.map (·.tag) = (l ++ [tag]).eraseDups := by
  rw [inserts, tags, eraseDups_concat]
  simp only [List.mem_eraseDups]

/-- If each step adds the tags that are not there, so do all of them. -/
theorem tags_foldl {β : Type} {f : List LookupClass → β → List LookupClass}
    (tagsOf : β → List String)
    (adds : ∀ classes b l, classes.map (·.tag) = l.eraseDups →
      (f classes b).map (·.tag) = (l ++ tagsOf b).eraseDups)
    {bs : List β} {classes : List LookupClass} {l : List String}
    (tags : classes.map (·.tag) = l.eraseDups) :
    (bs.foldl f classes).map (·.tag) = (l ++ bs.flatMap tagsOf).eraseDups := by
  induction bs generalizing classes l with
  | nil => rwa [List.flatMap_nil, List.append_nil]
  | cons b rest ih =>
      rw [List.foldl_cons, ih (adds classes b l tags), List.flatMap_cons, List.append_assoc]

/-- The classes are those of the pools and of the pools of the components, each once. -/
theorem tags_classes (pools : List String) (components : List Component) :
    (LookupClasses.classes pools components).map (·.tag) =
      (pools.map Naming.lookupTag ++ components.flatMap Component.lookupTags).eraseDups := by
  refine tags_foldl Component.lookupTags (fun classes c l tags => ?_) ?_
  · rw [← List.flatMap_singleton' c.lookupTags]
    exact tags_foldl (fun tag => [tag])
      (fun classes tag l => (inserts_enter c.shortName tag classes).tags) tags
  · have declared : (ofPools pools).map (·.tag) =
        ([] ++ pools.flatMap fun pool => [Naming.lookupTag pool]).eraseDups :=
      tags_foldl _ (fun classes pool l => (inserts_declare (Naming.lookupTag pool) classes).tags)
        rfl
    rwa [List.nil_append, ← List.map_eq_flatMap] at declared

/-- Components in known pools add no classes to those of the pools. -/
theorem tags_of_known {pools : List String} {components : List Component}
    (known : ∀ c ∈ components, c.pools ⊆ pools) :
    (LookupClasses.classes pools components).map (·.tag) =
      (pools.map Naming.lookupTag).eraseDups := by
  have inside : ∀ tag ∈ components.flatMap Component.lookupTags,
      tag ∈ pools.map Naming.lookupTag := by
    intro tag member
    obtain ⟨c, among, own⟩ := List.mem_flatMap.mp member
    exact List.map_subset _ (known c among) own
  have noneAdded : (components.flatMap Component.lookupTags).removeAll
      (pools.map Naming.lookupTag) = [] := by
    rw [List.removeAll, List.filter_eq_nil_iff]
    intro tag member
    simpa using inside tag member
  rw [tags_classes, List.eraseDups_append, noneAdded, List.eraseDups_nil, List.append_nil]

/-- Every class is that of a pool or of a pool of a component. -/
theorem tag_of_mem_classes {pools : List String} {components : List Component} {k : LookupClass}
    (member : k ∈ LookupClasses.classes pools components) :
    k.tag ∈ pools.map Naming.lookupTag ∨ k.tag ∈ components.flatMap Component.lookupTags := by
  have listed := List.mem_map_of_mem (f := (·.tag)) member
  rw [tags_classes, List.mem_eraseDups] at listed
  exact List.mem_append.mp listed

end BuiltIn.LookupClasses

end EntityScribe
