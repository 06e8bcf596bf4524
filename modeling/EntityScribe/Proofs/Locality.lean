import EntityScribe.Proofs.Models
import EntityScribe.Proofs.Replies
import Mathlib.Data.List.Forall2

/-!
# Editing one component

What a component is made of shows in its own extension only. Two documents that differ in the fields
of one component, and in whether it stands for a single entity, give the same artifacts up to the
content of that extension.

Documents from files share their parts, so that equal parts of two documents need not be equal
values. They are compared by what can be read of them.
-/

namespace EntityScribe

/-! ## Values that may be missing -/

section Related

variable {α β γ δ : Type} {R : α → β → Prop} {S : γ → δ → Prop} {a : Option α} {b : Option β}

theorem rel_bind (related : Option.Rel R a b) {f : α → Option γ} {g : β → Option δ}
    (inner : ∀ x y, R x y → Option.Rel S (f x) (g y)) : Option.Rel S (a.bind f) (b.bind g) := by
  cases related with
  | none => exact .none
  | some here => exact inner _ _ here

theorem rel_mono {T : α → β → Prop} (related : Option.Rel R a b)
    (weaker : ∀ x y, R x y → T x y) : Option.Rel T a b := by
  cases related with
  | none => exact .none
  | some here => exact .some (weaker _ _ here)

theorem rel_refl {R : α → α → Prop} (reflexive : ∀ x, R x x) (a : Option α) : Option.Rel R a a := by
  cases a with
  | none => exact .none
  | some x => exact .some (reflexive x)

end Related

namespace Document

/-! ## Documents that are alike -/

/-- Two entries have one key and values that are related. -/
def SameKey (R : Document → Document → Prop) (first second : Scalar × Document) : Prop :=
  first.1 = second.1 ∧ R first.2 second.2

/-- The same is read of two documents, up to a relation between what is inside them. -/
structure Agree (R : Document → Document → Prop) (d e : Document) : Prop where
  text : d.asText = e.asText
  isVoid : d.isVoid = e.isVoid
  items : Option.Rel (List.Forall₂ R) d.items? e.items?
  entries : Option.Rel (List.Forall₂ (SameKey R)) d.entries? e.entries?

/-- Nothing that is read of two documents, or of what is inside them, tells them apart. -/
def Alike (d e : Document) : Prop :=
  ∃ R : Document → Document → Prop, R d e ∧ ∀ first second, R first second → Agree R first second

variable {d e : Document} {first second : Option Document}

theorem Agree.mono {R S : Document → Document → Prop} (agree : Agree R d e)
    (weaker : ∀ first second, R first second → S first second) : Agree S d e where
  text := agree.text
  isVoid := agree.isVoid
  items := rel_mono agree.items fun _ _ related => related.imp weaker
  entries := rel_mono agree.entries fun _ _ related =>
    related.imp fun _ _ both => ⟨both.1, weaker _ _ both.2⟩

theorem Alike.agree (alike : Alike d e) : Agree Alike d e := by
  obtain ⟨R, related, closed⟩ := alike
  exact (closed d e related).mono fun first second inside => ⟨R, inside, closed⟩

theorem Alike.refl (d : Document) : Alike d d := by
  refine ⟨Eq, rfl, ?_⟩
  rintro d _ rfl
  exact ⟨rfl, rfl, rel_refl (fun _ => List.forall₂_same.mpr fun _ _ => rfl) d.items?,
    rel_refl (fun _ => List.forall₂_same.mpr fun _ _ => ⟨rfl, rfl⟩) d.entries?⟩

theorem rel_get? {R : Document → Document → Prop} {entries others : Entries Document}
    (related : List.Forall₂ (SameKey R) entries others) (name : String) :
    Option.Rel R (entries.get? name) (others.get? name) := by
  induction related with
  | nil => exact .none
  | @cons first second rest more same _ ih =>
      obtain ⟨key, value⟩ := first
      obtain ⟨_, other⟩ := second
      obtain ⟨rfl, values⟩ := same
      by_cases here : key = .text name
      · subst here
        rw [Entries.get?, Entries.get?, if_pos rfl, if_pos rfl]
        exact .some values
      · rw [Entries.get?_cons_of_ne here, Entries.get?_cons_of_ne here]
        exact ih

theorem Alike.value? (alike : Alike d e) (key : String) :
    Option.Rel Alike (d.value? key) (e.value? key) :=
  rel_bind alike.agree.entries fun _ _ related => rel_get? related key

theorem forall₂_entries (alike : Option.Rel Alike first second) :
    List.Forall₂ (SameKey Alike) ((first.bind entries?).getD [])
      ((second.bind entries?).getD []) := by
  have entries := rel_bind alike fun _ _ same => same.agree.entries
  generalize first.bind entries? = own at entries ⊢
  generalize second.bind entries? = other at entries ⊢
  cases entries with
  | none => exact .nil
  | some related => exact related

theorem map_asText_congr {items others : List Document}
    (alike : List.Forall₂ Alike items others) : items.map asText = others.map asText := by
  induction alike with
  | nil => rfl
  | cons same _ ih => rw [List.map_cons, List.map_cons, same.agree.text, ih]

end Document

open Document (Alike SameKey)

namespace Schema

/-! ## Edited documents -/

/-- The definition of the component may differ in its fields and in whether it is single, and that
of any other in nothing that is read. -/
inductive EditedEntry (component : String) : Scalar × Document → Scalar × Document → Prop where
  | own {key : Scalar} {first second : Document} (named : key.recordText? = some component)
      (alike : ∀ part, part ≠ "fields" → part ≠ "single_entity" →
        Option.Rel Alike (first.value? part) (second.value? part)) :
      EditedEntry component (key, first) (key, second)
  | other {first second : Scalar × Document} (alike : SameKey Alike first second) :
      EditedEntry component first second

/-- Two documents differ at most in the fields of a component, in whether it is single, and in
entries that do not belong to a model. -/
structure Edited (component : String) (d e : Document) : Prop where
  pools : Option.Rel Alike (d.value? poolsKey) (e.value? poolsKey)
  blueprints : Option.Rel Alike (d.value? blueprintsKey) (e.value? blueprintsKey)
  components : List.Forall₂ (EditedEntry component) (d.entriesUnder componentsKey)
    (e.entriesUnder componentsKey)

/-- Components with one name and the same pools, which differ otherwise only under the given
name. -/
structure EditedComponent (component : String) (c k : Component) : Prop where
  name : c.name = k.name
  pools : c.pools = k.pools
  rest : c.name = component ∨ c = k

/-- Models that differ in the component with the given name only. -/
structure EditedModel (component : String) (m n : Model) : Prop where
  pools : m.pools = n.pools
  blueprints : m.blueprints = n.blueprints
  components : List.Forall₂ (EditedComponent component) m.components n.components

variable {component : String} {d e : Document} {first second : Option Document}

theorem namesIn_congr (alike : Option.Rel Alike first second) (default : List String) :
    namesIn first default = namesIn second default := by
  have items := rel_bind alike fun _ _ same => same.agree.items
  unfold namesIn
  generalize first.bind Document.items? = own at items ⊢
  generalize second.bind Document.items? = other at items ⊢
  cases items with
  | none => rfl
  | some related => exact Document.map_asText_congr related

theorem effectivePools_congr (alike : Option.Rel Alike first second) :
    (effectivePools first).map Document.asText = (effectivePools second).map Document.asText := by
  have items := rel_bind alike fun _ _ same => same.agree.items
  unfold effectivePools
  generalize first.bind Document.items? = own at items ⊢
  generalize second.bind Document.items? = other at items ⊢
  cases items with
  | none => rfl
  | some related =>
      cases related with
      | nil => rfl
      | cons head tail => exact Document.map_asText_congr (.cons head tail)

theorem map_fieldIn_congr {fields others : Entries Document}
    (alike : List.Forall₂ (SameKey Alike) fields others) :
    fields.map fieldIn = others.map fieldIn := by
  induction alike with
  | nil => rfl
  | cons same _ ih =>
      rw [List.map_cons, List.map_cons, ih, fieldIn, fieldIn, same.1, same.2.agree.text]

/-- Definitions that are alike are read as one component. -/
theorem componentIn_congr {a b : Scalar × Document} (alike : SameKey Alike a b) :
    componentIn a = componentIn b := by
  obtain ⟨name, values⟩ := alike
  have single : (a.2.value? "single_entity").map (fun flag => !flag.isVoid) =
      (b.2.value? "single_entity").map fun flag => !flag.isVoid := by
    have flags := values.value? "single_entity"
    generalize a.2.value? "single_entity" = own at flags ⊢
    generalize b.2.value? "single_entity" = other at flags ⊢
    cases flags with
    | none => rfl
    | some same => rw [Option.map_some, Option.map_some, same.agree.isVoid]
  have fields := map_fieldIn_congr (Document.forall₂_entries (values.value? "fields"))
  have pools := effectivePools_congr (values.value? "pools")
  unfold componentIn poolsIn Document.entriesUnder
  rw [name, single, fields, pools]

theorem editedComponent_of_entry {a b : Scalar × Document} (edited : EditedEntry component a b) :
    EditedComponent component (componentIn a) (componentIn b) := by
  cases edited with
  | own named alike =>
      refine ⟨rfl, effectivePools_congr (alike "pools" (by decide) (by decide)), .inl ?_⟩
      rw [componentIn, nameOf, named, Option.getD_some]
  | other alike =>
      have same := componentIn_congr alike
      exact ⟨congrArg Component.name same, congrArg Component.pools same, .inr same⟩

theorem editedModel_modelIn (edited : Edited component d e) :
    EditedModel component (modelIn d) (modelIn e) where
  pools := namesIn_congr edited.pools _
  blueprints := namesIn_congr edited.blueprints _
  components := List.rel_map (fun _ _ entry => editedComponent_of_entry entry) edited.components

end Schema

namespace BuiltIn

open Generation Schema

/-! ## Artifacts -/

/-- Two artifacts differ at most in their content, and there only if they are the extension of a
component. -/
structure SameBut (component : String) (a b : Artifact) : Prop where
  name : a.name = b.name
  generator : a.generator = b.generator
  content : a.content = b.content ∨
    a.name = component ++ "GeneratedExtension" ∧ a.generator = "ComponentExtensionsGenerator"

variable {component : String} {m n : Model}

theorem SameBut.refl (component : String) (a : Artifact) : SameBut component a a :=
  ⟨rfl, rfl, .inl rfl⟩

theorem forall₂_sameBut {artifacts others : List Artifact} (same : artifacts = others) :
    List.Forall₂ (SameBut component) artifacts others :=
  same ▸ List.forall₂_same.mpr fun a _ => .refl component a

/-- Lookup classes know components by their names and their pools only. -/
theorem classes_congr (pools : List String) {components others : List Component}
    (edited : List.Forall₂ (EditedComponent component) components others) :
    LookupClasses.classes pools components = LookupClasses.classes pools others := by
  unfold LookupClasses.classes
  -- Each component adds to the classes of those before it, which are the same on both sides.
  generalize LookupClasses.ofPools pools = start
  induction edited generalizing start with
  | nil => rfl
  | cons first _ ih =>
      rw [List.foldl_cons, List.foldl_cons, ih, LookupClasses.add, LookupClasses.add,
        Component.lookupTags, Component.lookupTags, Component.shortName, Component.shortName,
        first.name, first.pools]

theorem sameBut_extension {c k : Component} (edited : EditedComponent component c k) :
    SameBut component (Extensions.artifact c) (Extensions.artifact k) := by
  rcases edited.rest with own | same
  · refine ⟨congrArg (· ++ "GeneratedExtension") edited.name, rfl, .inr ⟨?_, rfl⟩⟩
    exact congrArg (· ++ "GeneratedExtension") own
  · rw [same]
    exact .refl component _

/-- Every generator makes the same of edited models, up to the extension of the component. -/
theorem sameBut_batch (edited : EditedModel component m n) (b : BuiltIn) :
    List.Forall₂ (SameBut component) (b.answer m).batch (b.answer n).batch := by
  cases b with
  | poolAttributes =>
      exact forall₂_sameBut (congrArg (fun p => (PoolAttributes.generate p).batch) edited.pools)
  | pools =>
      exact forall₂_sameBut (congrArg (fun p => (PoolAccessors.generate p).batch) edited.pools)
  | componentIndices =>
      refine forall₂_sameBut (congrArg (List.map LookupClasses.artifact) ?_)
      rw [classes_congr m.pools edited.components, edited.pools]
  | componentExtensions =>
      exact List.rel_map (fun _ _ component => sameBut_extension component) edited.components
  | blueprints =>
      exact forall₂_sameBut
        (congrArg (fun names => (BlueprintMethods.generate names).batch) edited.blueprints)

theorem sameBut_given (edited : EditedModel component m n) (instances others : List (BuiltIn × Nat))
    (kinds : instances.map (·.1) = others.map (·.1)) (memory other : PoolMemory) :
    List.Forall₂ (SameBut component) (given (replies memory (tasks m (pluginsOf instances))))
      (given (replies other (tasks n (pluginsOf others)))) := by
  rw [given_replies, given_replies, kinds]
  refine List.rel_flatMap (List.forall₂_same.mpr fun phase _ => rfl) ?_
  rintro phase _ rfl
  refine List.rel_flatMap (List.forall₂_same.mpr fun b _ => rfl) ?_
  rintro b _ rfl
  unfold batchIn
  split
  · exact sameBut_batch edited b
  · exact .nil

/-- Runs of the same generators on two documents that differ in one component give artifacts of the
same names and generators, one by one, and of the same content unless they are that component's
extension. -/
theorem generate_local {d e : Document} (edited : Edited component d e)
    (accepted : Model.ofDocument d = .ok m) (editedAccepted : Model.ofDocument e = .ok n)
    {instances others : List (BuiltIn × Nat)} (kinds : instances.map (·.1) = others.map (·.1))
    {w v : Workspace} {directory target : Document} {memory other : PoolMemory}
    {artifacts changed : List Artifact}
    (succeeded : (generate w m directory (pluginsOf instances) memory).outcome = .ok artifacts)
    (editedSucceeded : (generate v n target (pluginsOf others) other).outcome = .ok changed) :
    List.Forall₂ (SameBut component) artifacts changed := by
  obtain ⟨_, rfl⟩ := Model.ofDocument_eq_ok_iff.mp accepted
  obtain ⟨_, rfl⟩ := Model.ofDocument_eq_ok_iff.mp editedAccepted
  rw [given_of_generate succeeded, given_of_generate editedSucceeded]
  exact sameBut_given (editedModel_modelIn edited) instances others kinds memory other

/-- A component that loses its field and becomes single, next to one that stays as it is. -/
theorem generate_local_single :
    let w : Workspace :=
      ⟨FileTree.empty.put ["Generated"] .directory, [], [], "\n", Workspace.usualRoom⟩
    let document (definition : Document) : Document := .mapping
      [(.text "_components", .mapping [(.text "Player", definition), (.text "Enemy", .null)])]
    let d := document (.mapping [(.text "fields", .mapping [(.text "lives", .text "int")])])
    let e := document (.mapping [(.text "single_entity", .scalar (.bool true))])
    let instances := [(componentIndices, 0), (componentExtensions, 1)]
    Edited "Player" d e ∧ ∃ m n artifacts changed,
      Model.ofDocument d = .ok m ∧ Model.ofDocument e = .ok n ∧
      (generate w m (.text "Generated") (pluginsOf instances) .none).outcome = .ok artifacts ∧
      (generate w n (.text "Generated") (pluginsOf instances) .none).outcome = .ok changed ∧
      List.Forall₂ (SameBut "Player") artifacts changed := by
  intro w document d e instances
  let m : Model :=
    ⟨["Pool"], [{ name := "Player", fields := [⟨"lives", "int"⟩] }, { name := "Enemy" }], []⟩
  let n : Model := ⟨["Pool"], [{ name := "Player", single := true }, { name := "Enemy" }], []⟩
  have edited : Edited "Player" d e := by
    refine ⟨.none, .none, .cons (.own rfl fun key noFields noFlag => ?_) (.cons (.other ?_) .nil)⟩
    · have missing : ∀ {own : String} (value : Document), key ≠ own →
          (Document.mapping [(.text own, value)]).value? key = none :=
        fun value other => if_neg (Ne.symm other)
      dsimp only
      rw [missing _ noFields, missing _ noFlag]
      exact .none
    · exact ⟨rfl, .refl _⟩
  have accepted : Model.ofDocument d = .ok m := by rfl
  have editedAccepted : Model.ofDocument e = .ok n := by rfl
  have cleaned : (Target.clean w (.text "Generated")).outcome = .ok [] := by rfl
  have succeeds : ∀ k : Model, k = m ∨ k = n →
      (generate w k (.text "Generated") (pluginsOf instances) .none).outcome =
        .ok (given (replies .none (tasks k (pluginsOf instances)))) := by
    rintro k (rfl | rfl)
    · exact generate_of_fits rfl cleaned (by decide) (by decide)
    · exact generate_of_fits rfl cleaned (by decide) (by decide)
  have first := succeeds m (.inl rfl)
  have second := succeeds n (.inr rfl)
  exact ⟨edited, m, n, _, _, accepted, editedAccepted, first, second,
    generate_local edited accepted editedAccepted rfl first second⟩

end BuiltIn

end EntityScribe
