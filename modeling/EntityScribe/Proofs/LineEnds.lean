import EntityScribe.Newline
import EntityScribe.Proofs.Replacement

/-!
# Converting line ends

A pass over a text takes one carriage return out in front of each line feed. Where more of them are
stacked up than a conversion has passes, one is left, and the next conversion takes it for a line
end. So converting twice is converting once exactly in texts without such stacks.
-/

namespace EntityScribe.Newline

/-! ## One pass -/

/-- One carriage return is taken out in front of each line feed. -/
def shorten : List Char → List Char
  | '\r' :: '\n' :: rest => '\n' :: shorten rest
  | c :: rest => c :: shorten rest
  | [] => []

/-- Carriage returns with a line feed after them. -/
def stack (n : Nat) : List Char := List.replicate n '\r' ++ ['\n']

theorem stack_succ (n : Nat) : stack (n + 1) = '\r' :: stack n := rfl

theorem replaceChars_eq_shorten (cs : List Char) :
    Text.replaceChars "\r\n".toList "\n".toList 0 cs = shorten cs := by
  fun_induction shorten cs with
  | case1 rest ih =>
      rw [← ih]
      exact Text.replaceChars_self (List.cons_ne_nil _ _) rest
  | case2 c rest other ih =>
      have notHere : ¬"\r\n".toList <+: c :: rest := by
        intro begins
        obtain ⟨isReturn, more, feed⟩ := List.cons_prefix_cons.mp begins
        exact other more isReturn.symm feed.symm
      rw [Text.replaceChars_cons notHere, ih]
  | case3 => rfl

/-- A line feed that begins a shortened text was there, or had a carriage return before it. -/
theorem stack_zero_prefix_shorten_iff (cs : List Char) :
    stack 0 <+: shorten cs ↔ stack 0 <+: cs ∨ stack 1 <+: cs := by
  fun_cases shorten cs with
  | case1 rest => simp [stack]
  | case2 c rest other =>
      have feed : stack 0 <+: c :: shorten rest ↔ stack 0 <+: c :: rest := by simp [stack]
      have notHere : ¬stack 1 <+: c :: rest := by
        intro begins
        obtain ⟨isReturn, more, after⟩ := List.cons_prefix_cons.mp begins
        exact other more isReturn.symm after.symm
      rw [feed, or_iff_left notHere]
  | case3 => simp [stack]

theorem stack_prefix_shorten_iff (n : Nat) (cs : List Char) :
    stack (n + 1) <+: shorten cs ↔ stack (n + 2) <+: cs := by
  induction n generalizing cs with
  | zero =>
      fun_cases shorten cs with
      | case1 rest => simp [stack]
      | case2 c rest other =>
          rw [stack_succ, stack_succ 1, List.cons_prefix_cons, List.cons_prefix_cons]
          refine and_congr_right fun isReturn => ?_
          have noFeed : ¬stack 0 <+: rest := fun ⟨more, after⟩ =>
            other more isReturn.symm after.symm
          rw [stack_zero_prefix_shorten_iff, or_iff_right noFeed]
      | case3 => simp [stack]
  | succ n ih =>
      fun_cases shorten cs with
      | case1 rest => simp [stack, List.replicate_succ]
      | case2 c rest other =>
          rw [stack_succ, stack_succ (n + 2), List.cons_prefix_cons, List.cons_prefix_cons, ih]
      | case3 => simp [stack, List.replicate_succ]

/-- Every stack loses one carriage return, as long as it had two. -/
theorem stack_infix_shorten_iff (n : Nat) (cs : List Char) :
    stack (n + 1) <:+: shorten cs ↔ stack (n + 2) <:+: cs := by
  fun_induction shorten cs with
  | case1 rest ih =>
      have feed : ¬stack (n + 1) <+: '\n' :: shorten rest := by simp [stack_succ]
      have single : ¬stack (n + 2) <+: '\r' :: '\n' :: rest := by simp [stack_succ]
      have after : ¬stack (n + 2) <+: '\n' :: rest := by simp [stack_succ]
      rw [List.infix_cons_iff, List.infix_cons_iff, List.infix_cons_iff, or_iff_right feed,
        or_iff_right single, or_iff_right after, ih]
  | case2 c rest other ih =>
      have here := stack_prefix_shorten_iff n (c :: rest)
      rw [shorten.eq_2 c rest other] at here
      rw [List.infix_cons_iff, List.infix_cons_iff, here, ih]
  | case3 => simp [stack]

/-- A text stays as it is if no carriage return stands before a line feed. -/
theorem shorten_eq_self_iff (cs : List Char) : shorten cs = cs ↔ ¬stack 1 <:+: cs := by
  fun_induction shorten cs with
  | case1 rest ih =>
      have there : stack 1 <:+: '\r' :: '\n' :: rest := List.infix_append [] (stack 1) rest
      have changed : '\n' :: shorten rest ≠ '\r' :: '\n' :: rest := by simp
      exact iff_of_false changed (not_not_intro there)
  | case2 c rest other ih =>
      have notHere : ¬stack 1 <+: c :: rest := by
        intro begins
        obtain ⟨isReturn, more, after⟩ := List.cons_prefix_cons.mp begins
        exact other more isReturn.symm after.symm
      rw [List.infix_cons_iff, or_iff_right notHere, ← ih, List.cons.injEq, and_iff_right rfl]
  | case3 => simp [stack]

/-! ## Widening -/

/-- Every line feed is given a carriage return. -/
def widen (cs : List Char) : List Char :=
  cs.flatMap fun c => if c = '\n' then ['\r', '\n'] else [c]

theorem not_stack_zero_prefix_widen (cs : List Char) : ¬stack 0 <+: widen cs := by
  cases cs with
  | nil => simp [stack, widen]
  | cons c rest =>
      rw [widen, List.flatMap_cons]
      split
      · simp [stack]
      · next other =>
          intro begins
          exact other (List.cons_prefix_cons.mp begins).1.symm

/-- A pass undoes a widening. -/
theorem shorten_widen (cs : List Char) : shorten (widen cs) = cs := by
  induction cs with
  | nil => rfl
  | cons c rest ih =>
      rw [widen, List.flatMap_cons, ← widen]
      split
      · next feed =>
          rw [feed]
          exact congrArg ('\n' :: ·) ih
      · have alone : ∀ more, c = '\r' → widen rest = '\n' :: more → False :=
          fun more _ after => not_stack_zero_prefix_widen rest ⟨more, after.symm⟩
        rw [List.singleton_append, shorten.eq_2 c _ alone, ih]

theorem widen_injective : Function.Injective widen :=
  Function.LeftInverse.injective shorten_widen

/-! ## Conversions by platform -/

theorem toList_toUnix_lineFeed (s : String) : (toUnix "\n" s).toList = shorten s.toList := by
  rw [toUnix, Text.toList_replaceAll, Text.toList_replaceAll, replaceChars_eq_shorten]
  exact Text.replaceChars_same '\n' _

/-- Where lines end in line feeds, they are written as they are brought to line feeds. -/
theorem toPlatform_lineFeed (s : String) : toPlatform "\n" s = toUnix "\n" s := by
  rw [← String.toList_inj, toPlatform, Text.toList_replaceAll]
  exact Text.replaceChars_same '\n' _

/-- Where lines end in a carriage return and a line feed, a conversion has a second pass. -/
theorem toList_toUnix_both (s : String) :
    (toUnix "\r\n" s).toList = shorten (shorten s.toList) := by
  rw [toUnix, Text.toList_replaceAll, Text.toList_replaceAll, replaceChars_eq_shorten,
    replaceChars_eq_shorten]

theorem toList_toPlatform_both (s : String) :
    (toPlatform "\r\n" s).toList = widen (toUnix "\r\n" s).toList := by
  rw [toPlatform, Text.toList_replaceAll]
  exact Text.replaceChars_singleton '\n' _

theorem toPlatform_both_inj {s t : String} :
    toPlatform "\r\n" s = toPlatform "\r\n" t ↔ toUnix "\r\n" s = toUnix "\r\n" t := by
  rw [← String.toList_inj, toList_toPlatform_both, toList_toPlatform_both, widen_injective.eq_iff,
    String.toList_inj]

/-- Where lines end in carriage returns, none of them is left by a conversion to line feeds, so
they all come back. -/
theorem toUnix_toPlatform_return (s : String) :
    toUnix "\r" (toPlatform "\r" s) = toUnix "\r" s := by
  have noReturn : '\r' ∉ (toUnix "\r" s).toList := by
    rw [toUnix, Text.toList_replaceAll]
    exact Text.not_mem_replaceChars (by decide) _
  have noFeed : '\n' ∉ (toPlatform "\r" s).toList := by
    rw [toPlatform, Text.toList_replaceAll]
    exact Text.not_mem_replaceChars (by decide) _
  have kept : shorten (toPlatform "\r" s).toList = (toPlatform "\r" s).toList := by
    rw [shorten_eq_self_iff]
    intro there
    exact noFeed (there.subset (by decide))
  rw [← String.toList_inj]
  conv => lhs; rw [toUnix, Text.toList_replaceAll, Text.toList_replaceAll, replaceChars_eq_shorten]
  rw [kept, toPlatform, Text.toList_replaceAll]
  exact Text.replaceChars_replaceChars noReturn

/-! ## Converting twice -/

/-- The line ends that platforms have. -/
def platformEnds : List String := ["\n", "\r\n", "\r"]

/-- More carriage returns stand in front of a line feed than a conversion takes out. -/
def Overstacked (lineEnd s : String) : Prop :=
  (lineEnd = "\n" ∧ "\r\r\n".toList <:+: s.toList) ∨
    (lineEnd = "\r\n" ∧ "\r\r\r\n".toList <:+: s.toList)

instance (lineEnd s : String) : Decidable (Overstacked lineEnd s) :=
  inferInstanceAs (Decidable (_ ∨ _))

theorem overstacked_lineFeed_iff (s : String) : Overstacked "\n" s ↔ stack 2 <:+: s.toList := by
  simp [Overstacked, stack, List.replicate_succ]

theorem overstacked_both_iff (s : String) : Overstacked "\r\n" s ↔ stack 3 <:+: s.toList := by
  simp [Overstacked, stack, List.replicate_succ]

/-- Converting to the platform twice is converting once, and a converted text comes back as the
text itself does, exactly if carriage returns are not stacked up too high. -/
theorem roundTrips_iff {lineEnd : String} (known : lineEnd ∈ platformEnds) (s : String) :
    (toPlatform lineEnd (toPlatform lineEnd s) = toPlatform lineEnd s ↔ ¬Overstacked lineEnd s) ∧
      (toUnix lineEnd (toPlatform lineEnd s) = toUnix lineEnd s ↔ ¬Overstacked lineEnd s) := by
  simp only [platformEnds, List.mem_cons, List.not_mem_nil, or_false] at known
  rcases known with rfl | rfl | rfl
  · have back : toUnix "\n" (toUnix "\n" s) = toUnix "\n" s ↔ ¬Overstacked "\n" s := by
      rw [← String.toList_inj, toList_toUnix_lineFeed, toList_toUnix_lineFeed,
        shorten_eq_self_iff, stack_infix_shorten_iff, overstacked_lineFeed_iff]
    rw [toPlatform_lineFeed s, toPlatform_lineFeed (toUnix "\n" s)]
    exact ⟨back, back⟩
  · have back : toUnix "\r\n" (toPlatform "\r\n" s) = toUnix "\r\n" s ↔
        ¬Overstacked "\r\n" s := by
      rw [← String.toList_inj, toList_toUnix_both, toList_toPlatform_both, shorten_widen,
        toList_toUnix_both, shorten_eq_self_iff, stack_infix_shorten_iff, stack_infix_shorten_iff,
        overstacked_both_iff]
    exact ⟨toPlatform_both_inj.trans back, back⟩
  · have free : ¬Overstacked "\r" s := by simp [Overstacked]
    have back := toUnix_toPlatform_return s
    have again : toPlatform "\r" (toPlatform "\r" s) = toPlatform "\r" s := by
      rw [toPlatform, back, ← toPlatform]
    exact ⟨iff_of_true again free, iff_of_true back free⟩

/-- Line ends of all kinds in one text, and two carriage returns before a line feed. -/
theorem roundTrips_mixed :
    let s := "a\nb\r\nc\rd\r\r\n"
    "\r\n" ∈ platformEnds ∧ toPlatform "\r\n" (toPlatform "\r\n" s) = toPlatform "\r\n" s ∧
      toUnix "\r\n" (toPlatform "\r\n" s) = toUnix "\r\n" s := by
  intro s
  have known : "\r\n" ∈ platformEnds := by decide
  have free : ¬Overstacked "\r\n" s := by decide
  obtain ⟨again, back⟩ := roundTrips_iff known s
  exact ⟨known, again.mpr free, back.mpr free⟩

/-- Of two carriage returns before a line feed, a conversion leaves one, which the next takes for
part of a line end. -/
theorem not_roundTrips_stacked :
    toPlatform "\n" "\r\r\n" = "\r\n" ∧
      toPlatform "\n" (toPlatform "\n" "\r\r\n") = "\n" ∧
      toUnix "\n" (toPlatform "\n" "\r\r\n") ≠ toUnix "\n" "\r\r\n" ∧
      toPlatform "\r\n" "\r\r\r\n" = "\r\r\n" ∧
      toPlatform "\r\n" (toPlatform "\r\n" "\r\r\r\n") = "\r\n" ∧
      toUnix "\r\n" (toPlatform "\r\n" "\r\r\r\n") ≠ toUnix "\r\n" "\r\r\r\n" := by
  decide

end EntityScribe.Newline
