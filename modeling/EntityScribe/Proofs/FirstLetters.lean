import EntityScribe.Text.LetterCase
import Mathlib.Data.List.Nodup

/-!
# First letters

Different texts become the same by the case of their first letter if they differ in this case alone.
A letter may become several characters; then the other text has the first of them by its own first
letter, and spells out the others.
-/

namespace EntityScribe.Text

variable {letter : Char → List Char} {s t : String}

theorem mapCase_ne_nil {expansions : List (Nat × List Nat)} (filled : ∀ e ∈ expansions, e.2 ≠ [])
    (shifts : List CaseShift) (c : Char) : mapCase expansions shifts c ≠ [] := by
  unfold mapCase
  split
  · next codes found =>
      obtain ⟨_, _, split, _⟩ := List.lookup_eq_some_iff.mp found
      have some := filled (c.toNat, codes) (split ▸ List.mem_append_right _ List.mem_cons_self)
      exact fun none => some (List.map_eq_nil_iff.mp none)
  · split <;> exact List.cons_ne_nil _ _

theorem upper_ne_nil (c : Char) : upper c ≠ [] :=
  mapCase_ne_nil (by decide) upperShifts c

theorem lower_ne_nil (c : Char) : lower c ≠ [] :=
  mapCase_ne_nil (by decide) lowerShifts c

theorem ofNat_eq_space {n : Nat} (same : Char.ofNat n = ' ') : n = 32 := by
  by_cases valid : n.isValidChar
  · rw [Char.ofNat, dif_pos valid] at same
    exact congrArg Char.toNat same
  · rw [Char.ofNat, dif_neg valid] at same
    cases same

/-- Only a space has a space in its upper case. -/
theorem space_not_mem_upper {c : Char} (other : c ≠ ' ') : ' ' ∉ upper c := by
  have expanded : ∀ e ∈ upperExpansions, 32 ∉ e.2 := by decide
  have shifted : ∀ shift ∈ upperShifts, 32 < (shift.first : Int) + shift.offset := by
    decide +kernel
  intro member
  unfold upper mapCase at member
  split at member
  · next codes found =>
      obtain ⟨code, among, same⟩ := List.mem_map.mp member
      obtain ⟨_, _, split, _⟩ := List.lookup_eq_some_iff.mp found
      rw [ofNat_eq_space same] at among
      exact expanded (c.toNat, codes) (split ▸ List.mem_append_right _ List.mem_cons_self) among
  · split at member
    · next shift found =>
        have image := ofNat_eq_space (List.mem_singleton.mp member).symm
        have least := shifted shift (List.mem_of_find?_eq_some found)
        have covers := List.find?_some found
        simp only [CaseShift.covers, Bool.and_eq_true, decide_eq_true_eq] at covers
        simp only [CaseShift.apply] at image
        omega
    · exact other (List.mem_singleton.mp member).symm

/-- Characters with the first of them in some case. -/
def firstBy (letter : Char → List Char) : List Char → List Char
  | [] => []
  | c :: rest => letter c ++ rest

/-- More characters stay more, whatever the case of the first of them. -/
theorem firstBy_append_eq (filled : ∀ c, letter c ≠ []) {l more : List Char}
    (same : firstBy letter (l ++ more) = firstBy letter l) : more = [] := by
  cases l with
  | nil =>
      cases more with
      | nil => rfl
      | cons c rest => exact absurd (List.append_eq_nil_iff.mp same).1 (filled c)
  | cons c rest =>
      rw [List.cons_append, firstBy, firstBy, List.append_cancel_left_eq] at same
      exact List.append_right_eq_self.mp same

theorem space_not_mem_firstBy {l : List Char} (free : ' ' ∉ l) : ' ' ∉ firstBy upper l := by
  cases l with
  | nil => exact free
  | cons c rest =>
      rw [List.mem_cons, not_or] at free
      rw [firstBy, List.mem_append, not_or]
      exact ⟨space_not_mem_upper (Ne.symm free.1), free.2⟩

theorem upperFirst_eq (s : String) : upperFirst s = String.ofList (firstBy upper s.toList) := by
  unfold upperFirst
  cases s.toList <;> rfl

theorem lowerFirst_eq (s : String) : lowerFirst s = String.ofList (firstBy lower s.toList) := by
  unfold lowerFirst
  cases s.toList <;> rfl

theorem lowerFirst_append (filled : s ≠ "") (t : String) :
    lowerFirst (s ++ t) = lowerFirst s ++ t := by
  cases chars : s.toList with
  | nil => exact absurd (String.toList_eq_nil_iff.mp chars) filled
  | cons c rest =>
      rw [← String.toList_inj, lowerFirst_eq, lowerFirst_eq, String.toList_append,
        String.toList_append, chars]
      simp [firstBy]

/-- By its case the first letter of a text becomes that of another and some characters more, which
the other text has behind its first letter. The rest is the same. -/
def Covers (letter : Char → List Char) (s t : String) : Prop :=
  ∃ c d more rest, s.toList = c :: rest ∧ t.toList = d :: (more ++ rest) ∧
    letter c = letter d ++ more

/-- Different texts that differ in the case of their first letter alone. -/
def CaseTwins (letter : Char → List Char) (s t : String) : Prop :=
  s ≠ t ∧ (Covers letter s t ∨ Covers letter t s)

theorem Covers.firstBy_eq (covers : Covers letter s t) :
    firstBy letter s.toList = firstBy letter t.toList := by
  obtain ⟨c, d, more, rest, first, second, same⟩ := covers
  rw [first, second, firstBy, firstBy, same, List.append_assoc]

/-- Texts with the same characters once the first letter has its case differ in nothing else. -/
theorem caseTwins_iff (filled : ∀ c, letter c ≠ []) :
    CaseTwins letter s t ↔ s ≠ t ∧ firstBy letter s.toList = firstBy letter t.toList := by
  refine and_congr_right fun other => ⟨?_, fun same => ?_⟩
  · rintro (covers | covers)
    · exact covers.firstBy_eq
    · exact covers.firstBy_eq.symm
  · cases first : s.toList with
    | nil =>
        cases second : t.toList with
        | nil => exact absurd (String.toList_inj.mp (first.trans second.symm)) other
        | cons d rest =>
            rw [first, second] at same
            exact absurd (List.append_eq_nil_iff.mp same.symm).1 (filled d)
    | cons c rest =>
        cases second : t.toList with
        | nil =>
            rw [first, second] at same
            exact absurd (List.append_eq_nil_iff.mp same).1 (filled c)
        | cons d others =>
            rw [first, second] at same
            rcases List.append_eq_append_iff.mp same with
              ⟨more, longer, split⟩ | ⟨more, longer, split⟩
            · exact .inr ⟨d, c, more, others, second, split ▸ first, longer⟩
            · exact .inl ⟨c, d, more, rest, first, split ▸ second, longer⟩

theorem caseTwins_upper_iff : CaseTwins upper s t ↔ s ≠ t ∧ upperFirst s = upperFirst t := by
  rw [caseTwins_iff upper_ne_nil, upperFirst_eq, upperFirst_eq, String.ofList_inj]

theorem caseTwins_lower_iff : CaseTwins lower s t ↔ s ≠ t ∧ lowerFirst s = lowerFirst t := by
  rw [caseTwins_iff lower_ne_nil, lowerFirst_eq, lowerFirst_eq, String.ofList_inj]

instance (s t : String) : Decidable (CaseTwins upper s t) :=
  decidable_of_iff _ caseTwins_upper_iff.symm

instance (s t : String) : Decidable (CaseTwins lower s t) :=
  decidable_of_iff _ caseTwins_lower_iff.symm

/-- The sharp s becomes two letters, the second of which the other text has. -/
example : CaseTwins upper "ßet" "sSet" := by
  decide

end EntityScribe.Text
