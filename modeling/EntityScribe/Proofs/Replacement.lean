import EntityScribe.Text.Replace
import Mathlib.Data.List.Infix

/-!
# Replacing

Where the target begins it is replaced as a whole, and where it cannot begin the text stays. A
target of one character is replaced character by character.
-/

namespace EntityScribe.Text

variable {target replacement : List Char}

theorem replaceChars_skip (n : Nat) (cs : List Char) :
    replaceChars target replacement n cs = replaceChars target replacement 0 (cs.drop n) := by
  induction n generalizing cs with
  | zero => rfl
  | succ n ih =>
      cases cs with
      | nil => rfl
      | cons c rest => rw [replaceChars, ih, List.drop_succ_cons]

theorem replaceChars_self (some : target ≠ []) (cs : List Char) :
    replaceChars target replacement 0 (target ++ cs) =
      replacement ++ replaceChars target replacement 0 cs := by
  obtain ⟨c, rest, rfl⟩ := List.exists_cons_of_ne_nil some
  have there : (c :: rest).isPrefixOf (c :: (rest ++ cs)) = true :=
    List.isPrefixOf_iff_prefix.mpr (List.prefix_append (c :: rest) cs)
  rw [List.cons_append, replaceChars, if_pos there, replaceChars_skip, List.length_cons,
    Nat.add_sub_cancel, List.drop_left]

theorem replaceChars_cons {c : Char} {rest : List Char} (other : ¬target <+: c :: rest) :
    replaceChars target replacement 0 (c :: rest) =
      c :: replaceChars target replacement 0 rest := by
  rw [replaceChars, if_neg fun there => other (List.isPrefixOf_iff_prefix.mp there)]

/-- Where the target cannot begin, nothing is replaced. -/
theorem replaceChars_append {first : Char} {more : List Char} {l : List Char} (free : first ∉ l)
    (cs : List Char) :
    replaceChars (first :: more) replacement 0 (l ++ cs) =
      l ++ replaceChars (first :: more) replacement 0 cs := by
  induction l with
  | nil => rfl
  | cons c rest ih =>
      have other : ¬first :: more <+: c :: (rest ++ cs) := by
        intro there
        exact free (List.cons_prefix_cons.mp there |>.1 ▸ List.mem_cons_self)
      have freeRest : first ∉ rest := fun later => free (List.mem_cons_of_mem c later)
      rw [List.cons_append, replaceChars_cons other, ih freeRest, List.cons_append]

theorem replaceChars_singleton (a : Char) (cs : List Char) :
    replaceChars [a] replacement 0 cs = cs.flatMap fun c => if c = a then replacement else [c] := by
  induction cs with
  | nil => rfl
  | cons c rest ih =>
      rw [List.flatMap_cons, ← ih]
      by_cases same : c = a
      · rw [if_pos same, ← same]
        exact replaceChars_self (List.cons_ne_nil c []) rest
      · have other : ¬[a] <+: c :: rest := fun there =>
          same (List.cons_prefix_cons.mp there).1.symm
        rw [if_neg same, replaceChars_cons other, List.singleton_append]

/-- What is replaced is gone, unless the replacement brings it back. -/
theorem not_mem_replaceChars {a : Char} (free : a ∉ replacement) (cs : List Char) :
    a ∉ replaceChars [a] replacement 0 cs := by
  rw [replaceChars_singleton, List.mem_flatMap]
  rintro ⟨c, _, inside⟩
  split at inside
  · exact free inside
  · next other => exact other (List.mem_singleton.mp inside).symm

/-- A text without a character is got back from the one in which it takes another's place. -/
theorem replaceChars_replaceChars {a b : Char} {cs : List Char} (free : a ∉ cs) :
    replaceChars [a] [b] 0 (replaceChars [b] [a] 0 cs) = cs := by
  rw [replaceChars_singleton, replaceChars_singleton, List.flatMap_assoc]
  refine Eq.trans (List.flatMap_congr fun c member => ?_) (List.flatMap_singleton' cs)
  have other : c ≠ a := fun same => free (same ▸ member)
  by_cases same : c = b
  · simp [same]
  · simp [same, other]

theorem replaceChars_same (a : Char) (cs : List Char) : replaceChars [a] [a] 0 cs = cs := by
  rw [replaceChars_singleton]
  refine Eq.trans (List.flatMap_congr fun c _ => ?_) (List.flatMap_singleton' cs)
  split
  · next same => rw [same]
  · rfl

theorem toList_replaceAll (s target replacement : String) :
    (replaceAll s target replacement).toList =
      replaceChars target.toList replacement.toList 0 s.toList :=
  String.toList_ofList

end EntityScribe.Text
