/-!
# Outcomes of several steps

A sequence of steps ends well if each of its steps does, and fails as the first step that fails.
-/

namespace EntityScribe

namespace Except

variable {ε α β : Type} {x : Except ε α} {f : α → Except ε β} {as : List α} {bs : List β} {b : β}
  {e : ε}

theorem bind_eq_ok_iff : (x >>= f) = .ok b ↔ ∃ a, x = .ok a ∧ f a = .ok b := by
  constructor
  · intro result
    cases x with
    | error e => cases result
    | ok a => exact ⟨a, rfl, result⟩
  · rintro ⟨a, here, result⟩
    rw [here]
    exact result

theorem bind_eq_error_iff :
    (x >>= f) = .error e ↔ x = .error e ∨ ∃ a, x = .ok a ∧ f a = .error e := by
  constructor
  · intro failed
    cases x with
    | error e' =>
        cases failed
        exact .inl rfl
    | ok a => exact .inr ⟨a, rfl, failed⟩
  · rintro (failed | ⟨a, here, failed⟩)
    · rw [failed]
      rfl
    · rw [here]
      exact failed

/-- If every step gives a value that is known beforehand wherever it gives one at all, so do all
steps together. -/
theorem mapM_eq_ok_iff {P : α → Prop} {g : α → β} (step : ∀ a b, f a = .ok b ↔ P a ∧ b = g a) :
    as.mapM f = .ok bs ↔ (∀ a ∈ as, P a) ∧ bs = as.map g := by
  induction as generalizing bs with
  | nil =>
      rw [List.mapM_nil, List.map_nil]
      constructor
      · intro result
        cases result
        exact ⟨List.forall_mem_nil _, rfl⟩
      · rintro ⟨_, rfl⟩
        rfl
  | cons a rest ih =>
      rw [List.mapM_cons, bind_eq_ok_iff, List.forall_mem_cons, List.map_cons]
      constructor
      · rintro ⟨first, here, result⟩
        obtain ⟨others, there, result⟩ := bind_eq_ok_iff.mp result
        cases result
        obtain ⟨fits, rfl⟩ := (step a first).mp here
        obtain ⟨fit, rfl⟩ := ih.mp there
        exact ⟨⟨fits, fit⟩, rfl⟩
      · rintro ⟨⟨fits, fit⟩, rfl⟩
        exact ⟨g a, (step a _).mpr ⟨fits, rfl⟩,
          bind_eq_ok_iff.mpr ⟨rest.map g, ih.mpr ⟨fit, rfl⟩, rfl⟩⟩

theorem exists_of_mapM_eq_error (failed : as.mapM f = .error e) : ∃ a ∈ as, f a = .error e := by
  induction as with
  | nil => cases failed
  | cons a rest ih =>
      rw [List.mapM_cons] at failed
      rcases bind_eq_error_iff.mp failed with here | ⟨_, _, later⟩
      · exact ⟨a, List.mem_cons_self, here⟩
      · rcases bind_eq_error_iff.mp later with there | ⟨_, _, none⟩
        · obtain ⟨c, member, fails⟩ := ih there
          exact ⟨c, List.mem_cons_of_mem a member, fails⟩
        · cases none

end Except

theorem Option.mapM_eq_some_iff {α β : Type} {f : α → Option β} {as : List α} {bs : List β}
    {P : α → Prop} {g : α → β} (step : ∀ a b, f a = some b ↔ P a ∧ b = g a) :
    as.mapM f = some bs ↔ (∀ a ∈ as, P a) ∧ bs = as.map g := by
  induction as generalizing bs with
  | nil => simp [eq_comm]
  | cons a rest ih =>
      rw [List.mapM_cons, List.forall_mem_cons, List.map_cons]
      constructor
      · intro result
        obtain ⟨first, here, result⟩ := Option.bind_eq_some_iff.mp result
        obtain ⟨others, there, result⟩ := Option.bind_eq_some_iff.mp result
        cases result
        obtain ⟨fits, rfl⟩ := (step a first).mp here
        obtain ⟨fit, rfl⟩ := ih.mp there
        exact ⟨⟨fits, fit⟩, rfl⟩
      · rintro ⟨⟨fits, fit⟩, rfl⟩
        rw [(step a _).mpr ⟨fits, rfl⟩, ih.mpr ⟨fit, rfl⟩]
        rfl

end EntityScribe
