import EntityScribe.Proofs.Replacement
import EntityScribe.Template
import Mathlib.Data.List.TakeWhile

/-!
# Substitution in a single pass

A line is cut into the characters of its text and its placeholders. To fill it in a single pass is
to give every placeholder the text of its key at once. Replacing one key after the other comes to
the same as long as, when the turn of a key comes, what has been filled in so far does not spell the
placeholder of that key.
-/

namespace EntityScribe

namespace Template

/-! ## Keys -/

/-- The key of a placeholder is a word. -/
def IsKey (key : String) : Prop :=
  key.toList ≠ [] ∧ ∀ c ∈ key.toList, Text.isWord c = true

theorem toList_placeholder (key : String) :
    (placeholder key).toList = '{' :: '{' :: (key.toList ++ ['}', '}']) := by
  rw [placeholder, String.toList_append, String.toList_append]
  rfl

theorem IsKey.not_mem {key : String} (isKey : IsKey key) {c : Char}
    (other : Text.isWord c = false) : c ∉ key.toList := by
  intro member
  rw [isKey.2 c member] at other
  cases other

/-- A key with its closing braces holds no opening one. -/
theorem IsKey.no_brace {key : String} (isKey : IsKey key) : '{' ∉ key.toList ++ ['}', '}'] := by
  rw [List.mem_append, not_or]
  exact ⟨isKey.not_mem (by decide), by decide⟩

theorem takeWhile_key {key : String} (isKey : IsKey key) (rest : List Char) :
    (key.toList ++ '}' :: rest).takeWhile Text.isWord = key.toList ∧
      (key.toList ++ '}' :: rest).dropWhile Text.isWord = '}' :: rest := by
  have closes : Text.isWord '}' = false := by decide
  rw [List.takeWhile_append_of_pos isKey.2, List.dropWhile_append_of_pos isKey.2]
  simp [closes]

theorem keyAt_eq_some_iff {cs key : List Char} :
    keyAt cs = some key ↔
      IsKey (String.ofList key) ∧ ∃ rest, cs = key ++ '}' :: '}' :: rest := by
  unfold keyAt
  dsimp only
  constructor
  · intro found
    split at found
    · next both =>
        cases found
        obtain ⟨rest, closing⟩ := List.isPrefixOf_iff_prefix.mp both.2
        refine ⟨⟨by simpa using both.1, fun c member => ?_⟩, rest, ?_⟩
        · rw [String.toList_ofList] at member
          exact List.mem_takeWhile_imp member
        · exact (List.takeWhile_append_dropWhile).symm.trans (congrArg _ closing.symm)
    · cases found
  · rintro ⟨isKey, rest, rfl⟩
    obtain ⟨front, back⟩ := takeWhile_key isKey ('}' :: rest)
    rw [String.toList_ofList] at front back
    have some := isKey.1
    rw [String.toList_ofList] at some
    rw [front, back, if_pos ⟨some, rfl⟩]

/-- Two placeholders that begin at the same character have the same key. -/
theorem key_unique {key other : String} (isKey : IsKey key) (isOther : IsKey other)
    {rest : List Char}
    (begins : (placeholder key).toList <+: (placeholder other).toList ++ rest) : key = other := by
  obtain ⟨more, same⟩ := begins
  simp only [toList_placeholder, List.cons_append, List.append_assoc, List.cons.injEq, true_and,
    List.nil_append] at same
  have here := (takeWhile_key isKey ('}' :: more)).1
  rw [same, (takeWhile_key isOther ('}' :: rest)).1] at here
  exact String.toList_inj.mp here.symm

/-! ## Pieces -/

/-- A piece of a line. -/
inductive Piece where
  | char (c : Char)
  /-- A placeholder. -/
  | hole (key : String)
  deriving DecidableEq, Repr

def Piece.chars : Piece → List Char
  | char c => [c]
  | hole key => (placeholder key).toList

/-- What is written with pieces. -/
def spelled (pieces : List Piece) : List Char :=
  pieces.flatMap Piece.chars

theorem spelled_cons (piece : Piece) (rest : List Piece) :
    spelled (piece :: rest) = piece.chars ++ spelled rest :=
  List.flatMap_cons

theorem spelled_append (first second : List Piece) :
    spelled (first ++ second) = spelled first ++ spelled second :=
  List.flatMap_append

theorem spelled_map_char (l : List Char) : spelled (l.map .char) = l := by
  rw [spelled, List.flatMap_map]
  exact List.flatMap_singleton' l

/-- The pieces of some characters, from left to right; the first argument counts the characters of
the placeholder that is being passed. -/
def piecesIn : Nat → List Char → List Piece
  | _, [] => []
  | skip + 1, _ :: rest => piecesIn skip rest
  | 0, c :: rest =>
      match c, rest with
      | '{', '{' :: more =>
          match keyAt more with
          | some key => .hole (String.ofList key) :: piecesIn (key.length + 3) rest
          | none => .char c :: piecesIn 0 rest
      | _, _ => .char c :: piecesIn 0 rest

def Piece.key? : Piece → Option String
  | char _ => none
  | hole key => some key

/-- The keys of placeholders among pieces. -/
def holes (pieces : List Piece) : List String :=
  pieces.filterMap Piece.key?

/-- Cutting characters into pieces loses nothing. -/
theorem spelled_piecesIn (n : Nat) (cs : List Char) : spelled (piecesIn n cs) = cs.drop n := by
  fun_induction piecesIn n cs with
  | case1 n => simp [spelled]
  | case2 skip c rest ih => rw [ih, List.drop_succ_cons]
  | case3 more key found ih =>
      obtain ⟨_, rest, rfl⟩ := keyAt_eq_some_iff.mp found
      rw [spelled_cons, ih]
      simp [Piece.chars, toList_placeholder]
  | case4 more none ih => rw [spelled_cons, ih]; rfl
  | case5 c rest other ih => rw [spelled_cons, ih]; rfl

theorem holes_piecesIn (n : Nat) (cs : List Char) :
    holes (piecesIn n cs) = (keysIn n cs).map String.ofList := by
  fun_induction piecesIn n cs with
  | case1 n => simp [holes, keysIn]
  | case2 skip c rest ih => rw [ih, keysIn]
  | case3 more key found ih =>
      rw [keysIn, found]
      exact congrArg (String.ofList key :: ·) ih
  | case4 more none ih =>
      rw [keysIn, none]
      exact ih
  | case5 c rest other ih =>
      rw [keysIn]
      · exact ih
      · exact other

/-- The keys of the placeholders in a line are words. -/
theorem isKey_of_mem_piecesIn {n : Nat} {cs : List Char} {key : String}
    (member : .hole key ∈ piecesIn n cs) : IsKey key := by
  fun_induction piecesIn n cs with
  | case1 n => cases member
  | case2 skip c rest ih => exact ih member
  | case3 more found at_ ih =>
      rcases List.mem_cons.mp member with same | later
      · cases same
        exact (keyAt_eq_some_iff.mp at_).1
      · exact ih later
  | case4 more none ih => exact ih (by simpa using member)
  | case5 c rest other ih => exact ih (by simpa using member)

/-- Some pieces spell a placeholder that is none of them: its characters come one by one. -/
def Spells (key : String) (pieces : List Piece) : Prop :=
  (placeholder key).toList.map .char <:+: pieces

instance (key : String) (pieces : List Piece) : Decidable (Spells key pieces) :=
  inferInstanceAs (Decidable (_ <:+: _))

theorem spells_cons_iff {key : String} {piece : Piece} {rest : List Piece} :
    Spells key (piece :: rest) ↔
      (placeholder key).toList.map .char <+: piece :: rest ∨ Spells key rest :=
  List.infix_cons_iff

theorem not_spells_nil (key : String) : ¬Spells key [] := by
  intro spells
  have none := List.infix_nil.mp spells
  rw [toList_placeholder] at none
  cases none

/-- A placeholder that is spelled by the next characters would have been cut out. -/
theorem keyAt_of_spelled {key : String} (isKey : IsKey key) {c : Char} {rest : List Char}
    (begins : (placeholder key).toList.map .char <+: .char c :: piecesIn 0 rest) :
    ∃ more, c = '{' ∧ rest = '{' :: more ∧ keyAt more = some key.toList := by
  obtain ⟨after, same⟩ := begins
  have written := congrArg spelled same
  rw [spelled_append, spelled_map_char, toList_placeholder] at written
  change _ = c :: spelled (piecesIn 0 rest) at written
  rw [spelled_piecesIn, List.drop_zero] at written
  obtain ⟨first, others⟩ := List.cons.inj written
  refine ⟨key.toList ++ '}' :: '}' :: spelled after, first.symm, ?_, ?_⟩
  · rw [← others]
    simp
  · exact keyAt_eq_some_iff.mpr ⟨by rwa [String.ofList_toList], _, rfl⟩

/-- A line that is cut into pieces spells no placeholder besides. -/
theorem not_spells_piecesIn {key : String} (isKey : IsKey key) (n : Nat) (cs : List Char) :
    ¬Spells key (piecesIn n cs) := by
  fun_induction piecesIn n cs with
  | case1 n => exact not_spells_nil key
  | case2 skip c rest ih => exact ih
  | case3 more found cut ih =>
      rw [spells_cons_iff, not_or]
      refine ⟨fun begins => ?_, ih⟩
      rw [toList_placeholder] at begins
      cases (List.cons_prefix_cons.mp begins).1
  | case4 more none ih =>
      rw [spells_cons_iff, not_or]
      refine ⟨fun begins => ?_, ih⟩
      obtain ⟨_, _, same, found⟩ := keyAt_of_spelled isKey begins
      obtain rfl := (List.cons.inj same).2
      rw [none] at found
      cases found
  | case5 c rest other ih =>
      rw [spells_cons_iff, not_or]
      refine ⟨fun begins => ?_, ih⟩
      obtain ⟨more, first, second, _⟩ := keyAt_of_spelled isKey begins
      exact other more first second

/-! ## Filling -/

section Filling

variable {key : String} {ps : List Piece} {value : String → List Char}

/-- What becomes of a piece once some keys have been filled in. -/
def fill (value : String → List Char) (done : List String) : Piece → List Piece
  | .char c => [.char c]
  | .hole key => if key ∈ done then (value key).map .char else [.hole key]

/-- Some pieces with every placeholder given the text of its key at once. -/
def onePass (value : String → List Char) (ps : List Piece) : List Char :=
  ps.flatMap fun
    | .char c => [c]
    | .hole key => value key

theorem chars_of_no_brace {l : List Char} (noBrace : '{' ∉ l) (begins : l <+: spelled ps) :
    l.map .char <+: ps := by
  induction l generalizing ps with
  | nil => exact List.nil_prefix
  | cons c rest ih =>
      rw [List.mem_cons, not_or] at noBrace
      cases ps with
      | nil => cases List.prefix_nil.mp begins
      | cons piece others =>
          rw [spelled_cons] at begins
          cases piece with
          | char d =>
              obtain ⟨rfl, later⟩ := List.cons_prefix_cons.mp begins
              exact List.cons_prefix_cons.mpr ⟨rfl, ih noBrace.2 later⟩
          | hole other =>
              rw [Piece.chars, toList_placeholder] at begins
              exact absurd (List.cons_prefix_cons.mp begins).1.symm noBrace.1

/-- Where a placeholder is written, it is a piece, or its characters are pieces. -/
theorem placeholder_cases (isKey : IsKey key) (keys : ∀ other ∈ holes ps, IsKey other)
    (begins : (placeholder key).toList <+: spelled ps) :
    (∃ rest, ps = .hole key :: rest) ∨ (placeholder key).toList.map .char <+: ps := by
  have closing := isKey.no_brace
  match ps with
  | [] =>
      rw [toList_placeholder] at begins
      cases List.prefix_nil.mp begins
  | .hole other :: rest =>
      obtain rfl := key_unique isKey (keys other List.mem_cons_self) begins
      exact .inl ⟨rest, rfl⟩
  | [.char c] =>
      rw [toList_placeholder] at begins
      cases List.prefix_nil.mp (List.cons_prefix_cons.mp begins).2
  | .char c :: .hole other :: rest =>
      -- The second brace would open the other placeholder, and the key would begin with a brace.
      rw [toList_placeholder] at begins
      have later : _ <+: spelled (.hole other :: rest) := (List.cons_prefix_cons.mp begins).2
      rw [spelled_cons, Piece.chars, toList_placeholder] at later
      have inner := (List.cons_prefix_cons.mp later).2
      obtain ⟨first, more, some⟩ := List.exists_cons_of_ne_nil isKey.1
      rw [some] at inner closing
      exact absurd ((List.cons_prefix_cons.mp inner).1 ▸ List.mem_cons_self) closing
  | .char c :: .char d :: rest =>
      rw [toList_placeholder] at begins ⊢
      obtain ⟨rfl, later⟩ := List.cons_prefix_cons.mp begins
      obtain ⟨rfl, inner⟩ := List.cons_prefix_cons.mp later
      exact .inr (List.cons_prefix_cons.mpr ⟨rfl, List.cons_prefix_cons.mpr
        ⟨rfl, chars_of_no_brace closing inner⟩⟩)

/-- Passing over a placeholder with another key replaces nothing in it. -/
theorem replaceChars_hole {other : String} (isKey : IsKey key) (isOther : IsKey other)
    (differ : key ≠ other) (replacement cs : List Char) :
    Text.replaceChars (placeholder key).toList replacement 0 ((placeholder other).toList ++ cs) =
      (placeholder other).toList ++
        Text.replaceChars (placeholder key).toList replacement 0 cs := by
  have first : ¬(placeholder key).toList <+: (placeholder other).toList ++ cs :=
    fun begins => differ (key_unique isKey isOther begins)
  have second : ¬(placeholder key).toList <+: '{' :: (other.toList ++ ['}', '}'] ++ cs) := by
    intro begins
    obtain ⟨c, more, some⟩ := List.exists_cons_of_ne_nil isOther.1
    rw [toList_placeholder, some] at begins
    have inside := (List.cons_prefix_cons.mp (List.cons_prefix_cons.mp begins).2).1
    exact isOther.not_mem (show Text.isWord '{' = false by decide)
      (by rw [some, ← inside]; exact List.mem_cons_self)
  rw [toList_placeholder other] at first ⊢
  rw [List.cons_append, List.cons_append] at first ⊢
  rw [Text.replaceChars_cons first, Text.replaceChars_cons second, toList_placeholder key,
    Text.replaceChars_append isOther.no_brace]
  rfl

/-- If the placeholder of a key is not spelled besides, replacing it fills in the key. -/
theorem replaceChars_spelled (isKey : IsKey key) (keys : ∀ other ∈ holes ps, IsKey other)
    (free : ¬Spells key ps) :
    Text.replaceChars (placeholder key).toList (value key) 0 (spelled ps) =
      spelled (ps.flatMap (fill value [key])) := by
  induction ps with
  | nil => rfl
  | cons piece rest ih =>
      rw [spells_cons_iff, not_or] at free
      rw [List.flatMap_cons, spelled_append]
      cases piece with
      | char c =>
          have other : ¬(placeholder key).toList <+: c :: spelled rest := by
            intro begins
            rcases placeholder_cases isKey keys begins with ⟨_, same⟩ | spelt
            · cases same
            · exact free.1 spelt
          rw [← ih keys free.2]
          exact Text.replaceChars_cons other
      | hole other =>
          obtain ⟨isOther, keysRest⟩ := List.forall_mem_cons.mp keys
          rw [← ih keysRest free.2]
          by_cases same : key = other
          · subst same
            have some : (placeholder key).toList ≠ [] := by simp [toList_placeholder]
            rw [fill, if_pos List.mem_cons_self, spelled_map_char]
            exact Text.replaceChars_self some (spelled rest)
          · have apart : other ∉ [key] := fun member => same (List.mem_singleton.mp member).symm
            rw [fill, if_neg apart, spelled_cons, spelled_cons]
            change _ = (placeholder other).toList ++ [] ++ _
            rw [List.append_nil]
            exact replaceChars_hole isKey isOther same (value key) (spelled rest)

theorem flatMap_fill_chars (done : List String) (l : List Char) :
    (l.map .char).flatMap (fill value done) = l.map .char := by
  rw [List.flatMap_map]
  exact List.map_eq_flatMap.symm

theorem flatMap_fill_nil (ps : List Piece) : ps.flatMap (fill value []) = ps := by
  have same : fill value [] = fun piece => [piece] := by
    funext piece
    cases piece with
    | char c => rfl
    | hole key => rw [fill, if_neg List.not_mem_nil]
  rw [same, List.flatMap_singleton']

theorem flatMap_fill_fill (done : List String) (key : String) (ps : List Piece) :
    (ps.flatMap (fill value done)).flatMap (fill value [key]) =
      ps.flatMap (fill value (done ++ [key])) := by
  rw [List.flatMap_assoc]
  refine congrArg (ps.flatMap ·) (funext fun piece => ?_)
  cases piece with
  | char c => rfl
  | hole other =>
      by_cases before : other ∈ done
      · rw [fill, if_pos before, fill, if_pos (List.mem_append_left _ before),
          flatMap_fill_chars]
      · rw [fill, if_neg before, List.flatMap_singleton, fill, fill]
        simp only [List.mem_append, before, false_or]

theorem mem_holes_iff : key ∈ holes ps ↔ .hole key ∈ ps := by
  rw [holes, List.mem_filterMap]
  constructor
  · rintro ⟨piece, member, found⟩
    cases piece with
    | char c => cases found
    | hole other =>
        cases found
        exact member
  · exact fun member => ⟨_, member, rfl⟩

/-- Filling in brings no placeholders. -/
theorem holes_flatMap_fill_subset (done : List String) :
    holes (ps.flatMap (fill value done)) ⊆ holes ps := by
  intro key member
  rw [mem_holes_iff, List.mem_flatMap] at member
  obtain ⟨piece, inside, comes⟩ := member
  cases piece with
  | char c => cases List.mem_singleton.mp comes
  | hole other =>
      rw [fill] at comes
      split at comes
      · obtain ⟨_, _, same⟩ := List.mem_map.mp comes
        cases same
      · cases List.mem_singleton.mp comes
        exact mem_holes_iff.mpr inside

/-- Once all keys are filled in, the single pass is done. -/
theorem spelled_fill_holes (ps : List Piece) :
    spelled (ps.flatMap (fill value (holes ps))) = onePass value ps := by
  rw [spelled, List.flatMap_assoc, onePass]
  refine List.flatMap_congr fun piece member => ?_
  cases piece with
  | char c => rfl
  | hole key =>
      rw [fill, if_pos (mem_holes_iff.mpr member)]
      exact spelled_map_char (value key)

/-- When the turn of a key comes that is not the first, what the keys before it have filled in does
not spell its placeholder. -/
def Undisturbed (value : String → List Char) (ps : List Piece) : Prop :=
  ∀ n, ∀ turn : n < (holes ps).length, 0 < n →
    ¬Spells (holes ps)[n] (ps.flatMap (fill value ((holes ps).take n)))

instance (value : String → List Char) (ps : List Piece) : Decidable (Undisturbed value ps) :=
  inferInstanceAs (Decidable (∀ n, ∀ turn : n < (holes ps).length, 0 < n →
    ¬Spells (holes ps)[n] (ps.flatMap (fill value ((holes ps).take n)))))

/-- Undisturbed, the placeholders of the first keys are replaced one key after the other. -/
theorem foldl_replaceChars_take (keys : ∀ key ∈ holes ps, IsKey key)
    (cut : ∀ key ∈ holes ps, ¬Spells key ps) (undisturbed : Undisturbed value ps) {n : Nat}
    (within : n ≤ (holes ps).length) :
    ((holes ps).take n).foldl
        (fun cs key => Text.replaceChars (placeholder key).toList (value key) 0 cs) (spelled ps) =
      spelled (ps.flatMap (fill value ((holes ps).take n))) := by
  induction n with
  | zero => rw [List.take_zero, List.foldl_nil, flatMap_fill_nil]
  | succ n ih =>
      have inside := List.getElem_mem within
      have free : ¬Spells (holes ps)[n] (ps.flatMap (fill value ((holes ps).take n))) := by
        cases n with
        | zero =>
            rw [List.take_zero, flatMap_fill_nil]
            exact cut _ inside
        | succ n => exact undisturbed (n + 1) within (Nat.succ_pos n)
      rw [← List.take_append_getElem within, List.foldl_append, List.foldl_cons, List.foldl_nil,
        ih (Nat.le_of_succ_le within), ← flatMap_fill_fill]
      exact replaceChars_spelled (keys _ inside)
        (fun other member => keys other (holes_flatMap_fill_subset _ member)) free

end Filling

/-! ## Lines -/

def pieces (line : String) : List Piece :=
  piecesIn 0 line.toList

theorem spelled_pieces (line : String) : spelled (pieces line) = line.toList :=
  spelled_piecesIn 0 line.toList

theorem holes_pieces (line : String) : holes (pieces line) = keys line :=
  holes_piecesIn 0 line.toList

theorem isKey_of_mem_keys {line key : String} (member : key ∈ keys line) : IsKey key := by
  rw [← holes_pieces, mem_holes_iff] at member
  exact isKey_of_mem_piecesIn member

/-- Undisturbed, replacing one key of a line after the other is a single pass over it. -/
theorem inline_eq_onePass {values : Entries Document} {line : String} {value : String → List Char}
    (shown : ∀ key ∈ keys line,
      ((values.get? key).getD Document.null).asText.toList = value key)
    (undisturbed : Undisturbed value (pieces line)) :
    inline values line (keys line) = String.ofList (onePass value (pieces line)) := by
  have isKeys : ∀ key ∈ holes (pieces line), IsKey key := fun key member =>
    isKey_of_mem_keys (holes_pieces line ▸ member)
  have cut : ∀ key ∈ holes (pieces line), ¬Spells key (pieces line) := fun key member =>
    not_spells_piecesIn (isKeys key member) 0 line.toList
  have all := foldl_replaceChars_take isKeys cut undisturbed (Nat.le_refl _)
  rw [List.take_length, spelled_fill_holes, spelled_pieces, holes_pieces] at all
  -- The texts of the intermediate lines are the lists of characters above.
  have chars : ((keys line).foldl (fun text key => Text.replaceAll text (placeholder key)
        ((values.get? key).getD Document.null).asText) line).toList =
      (keys line).foldl (fun cs key => Text.replaceChars (placeholder key).toList
        ((values.get? key).getD Document.null).asText.toList 0 cs) line.toList := by
    refine (List.foldl_hom String.toList fun text key => ?_).symm
    rw [Text.replaceAll, String.toList_ofList]
  rw [← all, inline, ← String.toList_inj, String.toList_ofList, chars]
  exact List.foldl_ext _ _ _ fun cs key member => by rw [shown key member]

end Template

end EntityScribe
