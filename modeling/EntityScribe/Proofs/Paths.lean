import EntityScribe.Path

/-!
# The segments of a path

A text is cut into segments and joined again without loss. Showing a path in normal form and
reading it back gives the same segments and the same start, so the system finds by the shown path
what it finds by the segments.
-/

namespace EntityScribe

section Last

variable {segments : List String}

theorem dropLast_append_getLastD (some : segments ≠ []) :
    segments.dropLast ++ [segments.getLastD ""] = segments := by
  rw [List.getLastD_eq_getLast?, List.getLast?_eq_some_getLast some]
  exact List.dropLast_concat_getLast some

theorem getLastD_append (lead : List String) (some : segments ≠ []) :
    (lead ++ segments).getLastD "" = segments.getLastD "" := by
  rw [List.getLastD_eq_getLast?, List.getLast?_append, List.getLastD_eq_getLast?,
    List.getLast?_eq_some_getLast some, Option.some_or]

end Last

namespace Text

/-- Cutting a text is the cutting of lists. -/
theorem splitChars_eq_splitOn (separator : Char) (cs : List Char) :
    splitChars separator cs = cs.splitOn separator := by
  induction cs with
  | nil => rfl
  | cons c rest ih =>
      rw [List.splitOn_cons_eq_if_modifyHead, splitChars, ih]
      by_cases same : c = separator
      · simp [same]
      · have someParts := List.splitOn_ne_nil separator rest
        obtain ⟨part, more, parts⟩ := List.exists_cons_of_ne_nil someParts
        simp [same, parts]

theorem splitAt_append (s t : String) :
    splitAt '/' (s ++ "/" ++ t) = splitAt '/' s ++ splitAt '/' t := by
  have joined : (s ++ "/" ++ t).toList = s.toList ++ '/' :: t.toList := by simp
  rw [splitAt, joined, splitChars_eq_splitOn, List.splitOn_append_cons_self, List.map_append,
    splitAt, splitAt, splitChars_eq_splitOn, splitChars_eq_splitOn]

theorem splitAt_of_not_mem {s : String} (whole : '/' ∉ s.toList) : splitAt '/' s = [s] := by
  rw [splitAt, splitChars_eq_splitOn, List.splitOn_eq_singleton whole, List.map_singleton,
    String.ofList_toList]

theorem splitAt_intercalate {segments : List String} (some : segments ≠ [])
    (whole : ∀ segment ∈ segments, '/' ∉ segment.toList) :
    splitAt '/' ("/".intercalate segments) = segments := by
  have wholeChars : ∀ part ∈ segments.map String.toList, '/' ∉ part := by
    intro part member
    obtain ⟨segment, inside, rfl⟩ := List.mem_map.mp member
    exact whole segment inside
  have parts := List.splitOn_intercalate '/' wholeChars (by simpa using some)
  rw [splitAt, splitChars_eq_splitOn, String.toList_intercalate]
  change List.map String.ofList (List.splitOn '/' (['/'].intercalate _)) = segments
  rw [parts, List.map_map]
  exact List.map_id'' (fun s => String.ofList_toList) segments

/-- A cut text is got back by joining its parts. -/
theorem intercalate_splitAt (s : String) : "/".intercalate (splitAt '/' s) = s := by
  refine String.toList_inj.mp ?_
  have parts : (splitAt '/' s).map String.toList = s.toList.splitOn '/' := by
    rw [splitAt, splitChars_eq_splitOn, List.map_map]
    exact List.map_id'' (fun cs => String.toList_ofList) _
  rw [String.toList_intercalate, parts]
  exact List.intercalate_splitOn '/'

theorem utf8ByteSize_intercalate_cons (first : String) {rest : List String} (some : rest ≠ []) :
    ("/".intercalate (first :: rest)).utf8ByteSize =
      first.utf8ByteSize + 1 + ("/".intercalate rest).utf8ByteSize := by
  rw [String.intercalate_cons_of_ne_nil some, String.utf8ByteSize_append,
    String.utf8ByteSize_append]
  rfl

/-- With parts left out, joining gives no longer text. -/
theorem utf8ByteSize_intercalate_le {segments others : List String}
    (sublist : segments.Sublist others) :
    ("/".intercalate segments).utf8ByteSize ≤ ("/".intercalate others).utf8ByteSize := by
  induction sublist with
  | slnil => exact Nat.le_refl _
  | @cons l₁ l₂ first inner ih =>
      by_cases none : l₂ = []
      · subst none
        obtain rfl := List.sublist_nil.mp inner
        exact Nat.zero_le _
      · rw [utf8ByteSize_intercalate_cons first none]
        omega
  | @cons_cons l₁ l₂ first inner ih =>
      by_cases none : l₂ = []
      · subst none
        obtain rfl := List.sublist_nil.mp inner
        exact Nat.le_refl _
      · rw [utf8ByteSize_intercalate_cons first none]
        by_cases short : l₁ = []
        · rw [short, String.intercalate_singleton]
          omega
        · rw [utf8ByteSize_intercalate_cons first short]
          omega

/-- A text is no longer than another with all its segments. -/
theorem utf8ByteSize_le_of_sublist {s t : String}
    (sublist : (splitAt '/' s).Sublist (splitAt '/' t)) :
    s.utf8ByteSize ≤ t.utf8ByteSize := by
  have joined := utf8ByteSize_intercalate_le sublist
  rwa [intercalate_splitAt, intercalate_splitAt] at joined

theorem splitAt_ne_nil (s : String) : splitAt '/' s ≠ [] := by
  simpa [splitAt] using splitChars_ne_nil '/' s.toList

/-- No part of a cut text holds the separator. -/
theorem not_mem_of_mem_splitChars {separator : Char} {cs part : List Char}
    (member : part ∈ splitChars separator cs) : separator ∉ part := by
  induction cs generalizing part with
  | nil =>
      simp only [splitChars, List.mem_singleton] at member
      simp [member]
  | cons c rest ih =>
      rw [splitChars] at member
      by_cases same : c = separator
      · rw [if_pos same] at member
        rcases List.mem_cons.mp member with rfl | later
        · exact List.not_mem_nil
        · exact ih later
      · rw [if_neg same] at member
        obtain ⟨first, more, parts⟩ := List.exists_cons_of_ne_nil (splitChars_ne_nil separator rest)
        rw [parts] at ih member
        rcases List.mem_cons.mp member with rfl | later
        · have inFirst := ih List.mem_cons_self
          simp [Ne.symm same, inFirst]
        · exact ih (List.mem_cons_of_mem _ later)

theorem not_mem_of_mem_splitAt {s segment : String} (member : segment ∈ splitAt '/' s) :
    '/' ∉ segment.toList := by
  obtain ⟨part, inside, rfl⟩ := List.mem_map.mp member
  simpa using not_mem_of_mem_splitChars inside

/-- Cutting a text loses no character but the separator. -/
theorem exists_mem_splitChars_iff {separator c : Char} (other : c ≠ separator) {cs : List Char} :
    (∃ part ∈ splitChars separator cs, c ∈ part) ↔ c ∈ cs := by
  induction cs with
  | nil => simp [splitChars]
  | cons d rest ih =>
      rw [splitChars, List.mem_cons, ← ih]
      by_cases same : d = separator
      · subst same
        simp [other]
      · obtain ⟨first, more, parts⟩ := List.exists_cons_of_ne_nil (splitChars_ne_nil separator rest)
        simp [same, parts, or_assoc]

theorem exists_mem_splitAt_iff {c : Char} (notSlash : c ≠ '/') {s : String} :
    (∃ segment ∈ splitAt '/' s, c ∈ segment.toList) ↔ c ∈ s.toList := by
  rw [← exists_mem_splitChars_iff notSlash, splitAt]
  constructor
  · rintro ⟨segment, member, inside⟩
    obtain ⟨part, among, rfl⟩ := List.mem_map.mp member
    exact ⟨part, among, by simpa using inside⟩
  · rintro ⟨part, among, inside⟩
    exact ⟨String.ofList part, List.mem_map_of_mem among, by simpa using inside⟩

/-- The last part of a text that ends without the separator has the same end. -/
theorem suffix_getLastD_splitChars {separator : Char} (cs : List Char) {ending : List Char}
    (whole : separator ∉ ending) :
    ending <:+ (splitChars separator (cs ++ ending)).getLastD [] := by
  induction cs with
  | nil =>
      rw [List.nil_append, splitChars_eq_splitOn, List.splitOn_eq_singleton whole]
      exact List.suffix_refl ending
  | cons c rest ih =>
      obtain ⟨first, more, parts⟩ := List.exists_cons_of_ne_nil
        (splitChars_ne_nil separator (rest ++ ending))
      rw [List.cons_append, splitChars, parts]
      rw [parts] at ih
      split
      · exact ih
      · cases more with
        | nil => exact ih.trans (List.suffix_cons c first)
        | cons second others => exact ih

theorem suffix_getLastD_splitAt (s : String) {ending : String} (whole : '/' ∉ ending.toList) :
    ending.toList <:+ ((splitAt '/' (s ++ ending)).getLastD "").toList := by
  have last := suffix_getLastD_splitChars s.toList whole
  rw [← String.toList_append] at last
  rw [splitAt, List.getLastD_eq_getLast?, List.getLast?_map]
  rw [List.getLastD_eq_getLast?] at last
  cases found : (splitChars '/' (s ++ ending).toList).getLast? with
  | none =>
      rw [found] at last
      exact last
  | some part =>
      rw [found] at last
      simpa using last

end Text

namespace Path

/-- The text starts at the root of the file system. -/
def startsAtRoot (s : String) : Bool :=
  "/".toList.isPrefixOf s.toList

theorem startsAtRoot_of_cons {s : String} {c : Char} {rest : List Char}
    (chars : s.toList = c :: rest) : startsAtRoot s = ('/' == c) := by
  rw [startsAtRoot, chars]
  exact Bool.and_true _

theorem rootOf_cases (s : String) :
    (rootOf s.toList = "" ∧ startsAtRoot s = false) ∨
      ((rootOf s.toList = "/" ∨ rootOf s.toList = "//") ∧ startsAtRoot s = true) := by
  cases chars : s.toList with
  | nil => left; simp [rootOf, startsAtRoot, chars]
  | cons c rest =>
      by_cases slash : c = '/'
      · right
        subst slash
        refine ⟨?_, startsAtRoot_of_cons chars⟩
        simp only [rootOf, List.takeWhile_cons, beq_self_eq_true, if_true, List.length_cons]
        split
        · contradiction
        · exact .inr rfl
        · exact .inl rfl
      · left
        constructor
        · simp [rootOf, slash]
        · rw [startsAtRoot_of_cons chars]
          exact beq_false_of_ne (Ne.symm slash)

theorem moves_of_mem_segments {s segment : String} (member : segment ∈ (ofString s).segments) :
    moves segment = true :=
  (List.mem_filter.mp member).2

theorem not_mem_of_mem_segments {s segment : String} (member : segment ∈ (ofString s).segments) :
    '/' ∉ segment.toList :=
  Text.not_mem_of_mem_splitAt (List.mem_filter.mp member).1

/-- A path of the form that reading a text gives. -/
structure Normal (p : Path) : Prop where
  root : p.root = "" ∨ p.root = "/" ∨ p.root = "//"
  moving : ∀ segment ∈ p.segments, moves segment = true
  whole : ∀ segment ∈ p.segments, '/' ∉ segment.toList

theorem normal_ofString (s : String) : (ofString s).Normal where
  root := by
    rcases rootOf_cases s with ⟨root, _⟩ | ⟨root, _⟩
    · exact .inl root
    · exact .inr root
  moving _ member := moves_of_mem_segments member
  whole _ member := not_mem_of_mem_segments member

theorem Normal.parent {p : Path} (normal : p.Normal) : p.parent.Normal where
  root := normal.root
  moving _ member := normal.moving _ (List.dropLast_subset _ member)
  whole _ member := normal.whole _ (List.dropLast_subset _ member)

/-- The shown path is cut into the segments of the path, with empty ones in front for the root. -/
theorem Normal.splitAt_text {p : Path} (normal : p.Normal) (some : p.segments ≠ []) :
    ∃ lead, Text.splitAt '/' p.text = lead ++ p.segments ∧ (∀ segment ∈ lead, segment = "") ∧
      (lead = [] ↔ p.root = "") := by
  have inner := Text.splitAt_intercalate some normal.whole
  rw [text, if_neg fun both => some both.2]
  rcases normal.root with root | root | root
  · exact ⟨[], by rw [root, String.empty_append, inner, List.nil_append], by simp, by simp [root]⟩
  · refine ⟨[""], ?_, by simp, by simp [root]⟩
    rw [show p.root = "" ++ "/" from root, Text.splitAt_append, inner]
    rfl
  · refine ⟨["", ""], ?_, by simp, by simp [root]⟩
    rw [show p.root = "/" ++ "/" from root, Text.splitAt_append, inner]
    rfl

theorem Normal.text_ne_empty {p : Path} (normal : p.Normal) (some : p.segments ≠ []) :
    p.text ≠ "" := by
  intro empty
  obtain ⟨lead, parts, _, _⟩ := normal.splitAt_text some
  have only : lead ++ p.segments = [""] := by
    rw [← parts, empty]
    rfl
  have member : p.segments.getLast some ∈ lead ++ p.segments :=
    List.mem_append_right lead (List.getLast_mem some)
  have moving := normal.moving _ (List.getLast_mem some)
  rw [only, List.mem_singleton] at member
  rw [member] at moving
  cases moving

/-- What a path shows begins with what the path above it shows, unless that has no segments. -/
theorem exists_text_eq_parent_append {p : Path} (some : p.parent.segments ≠ []) :
    ∃ rest, p.text = p.parent.text ++ rest := by
  have nonempty : p.segments ≠ [] := by
    intro none
    exact some (by rw [parent, none, List.dropLast_nil])
  obtain ⟨last, split⟩ : ∃ last, p.segments = p.parent.segments ++ [last] :=
    ⟨_, (List.dropLast_concat_getLast nonempty).symm⟩
  refine ⟨"/" ++ last, ?_⟩
  rw [text, text, if_neg fun both => nonempty both.2, if_neg fun both => some both.2, split,
    String.intercalate_append_of_ne_nil some (List.cons_ne_nil _ _), String.intercalate_singleton,
    String.append_assoc, String.append_assoc]
  rfl

/-- What is appended to a path stands behind a separator in what it shows. -/
theorem text_append {p : Path} {rest : List String} (some : p.segments ≠ []) (more : rest ≠ []) :
    (p.append ⟨"", rest⟩).text = p.text ++ ("/" ++ "/".intercalate rest) := by
  have nonempty : p.segments ++ rest ≠ [] := List.append_ne_nil_of_left_ne_nil some rest
  rw [append, if_pos rfl, text, text, if_neg fun both => nonempty both.2,
    if_neg fun both => some both.2, String.intercalate_append_of_ne_nil some more]
  simp only [String.append_assoc]

theorem segments_ofString (s : String) :
    (ofString s).segments = (Text.splitAt '/' s).filter moves := rfl

/-- The shown path has the segments of the path, up to those that stay where they are. -/
theorem Normal.filter_splitAt_text {p : Path} (normal : p.Normal) :
    (Text.splitAt '/' p.text).filter moves = p.segments := by
  by_cases none : p.segments = []
  · rw [text, none]
    rcases normal.root with root | root | root <;> rw [root] <;> decide
  · obtain ⟨lead, parts, empty, _⟩ := normal.splitAt_text none
    have still : lead.filter moves = [] := by
      refine List.filter_eq_nil_iff.mpr fun segment member => ?_
      rw [empty segment member]
      decide
    rw [parts, List.filter_append, still, List.nil_append]
    exact List.filter_eq_self.mpr normal.moving

/-- The segments of a path hold every character of its text but those that separate and stay. -/
theorem exists_mem_segments_iff {c : Char} (notSlash : c ≠ '/') (notDot : c ≠ '.') {s : String} :
    (∃ segment ∈ (ofString s).segments, c ∈ segment.toList) ↔ c ∈ s.toList := by
  rw [← Text.exists_mem_splitAt_iff notSlash]
  constructor
  · rintro ⟨segment, member, inside⟩
    exact ⟨segment, (List.mem_filter.mp member).1, inside⟩
  · rintro ⟨segment, member, inside⟩
    refine ⟨segment, List.mem_filter.mpr ⟨member, ?_⟩, inside⟩
    rw [moves, Bool.and_eq_true, bne_iff_ne, bne_iff_ne]
    constructor
    · rintro rfl
      cases inside
    · rintro rfl
      exact notDot (List.mem_singleton.mp inside)

theorem mem_text_iff {c : Char} (notSlash : c ≠ '/') (notDot : c ≠ '.') {s : String} :
    c ∈ (ofString s).text.toList ↔ c ∈ s.toList := by
  have same : (ofString (ofString s).text).segments = (ofString s).segments := by
    rw [segments_ofString, (normal_ofString s).filter_splitAt_text]
  rw [← exists_mem_segments_iff notSlash notDot, same, exists_mem_segments_iff notSlash notDot]

theorem startsAtRoot_iff {s : String} :
    startsAtRoot s = true ↔ ∃ more, more ≠ [] ∧ Text.splitAt '/' s = "" :: more := by
  cases chars : s.toList with
  | nil => simp [startsAtRoot, Text.splitAt, Text.splitChars, chars]
  | cons c rest =>
      rw [startsAtRoot_of_cons chars, beq_iff_eq, Text.splitAt, chars, Text.splitChars]
      have parts := Text.splitChars_ne_nil '/' rest
      by_cases slash : c = '/'
      · subst slash
        simpa using parts
      · obtain ⟨first, more, cut⟩ := List.exists_cons_of_ne_nil parts
        simp only [slash, Ne.symm slash, if_false, cut, List.map_cons, false_iff]
        rintro ⟨_, _, same⟩
        simpa using congrArg String.toList (List.cons.inj same).1

theorem Normal.startsAtRoot_text_iff {p : Path} (normal : p.Normal) :
    startsAtRoot p.text = true ↔ p.root ≠ "" := by
  by_cases none : p.segments = []
  · rw [text, none]
    rcases normal.root with root | root | root <;> rw [root] <;> decide
  · obtain ⟨lead, parts, empty, atRoot⟩ := normal.splitAt_text none
    rw [startsAtRoot_iff, parts, ne_eq, ← atRoot]
    cases lead with
    | nil =>
        simp only [List.nil_append, not_true, iff_false]
        rintro ⟨more, _, same⟩
        have moving := normal.moving "" (by simp [same])
        simp [moves] at moving
    | cons first rest => simp [empty first, none]

theorem startsAtRoot_iff_root_ne {s : String} : startsAtRoot s = true ↔ (ofString s).root ≠ "" := by
  change startsAtRoot s = true ↔ rootOf s.toList ≠ ""
  rcases rootOf_cases s with ⟨root, starts⟩ | ⟨root | root, starts⟩ <;> simp [root, starts]

theorem startsAtRoot_text (s : String) : startsAtRoot (ofString s).text = startsAtRoot s := by
  rw [Bool.eq_iff_iff, startsAtRoot_iff_root_ne (s := s)]
  exact (normal_ofString s).startsAtRoot_text_iff

/-- A relative path is read from what it shows, also with a separator behind that. -/
theorem Normal.ofString_text_append {p : Path} (normal : p.Normal) (some : p.segments ≠ [])
    (relative : p.root = "") : ofString (p.text ++ "/") = p := by
  obtain ⟨lead, parts, _, atRoot⟩ := normal.splitAt_text some
  rw [atRoot.mpr relative, List.nil_append] at parts
  have cut : Text.splitAt '/' (p.text ++ "/") = p.segments ++ [""] := by
    have joined := Text.splitAt_append p.text ""
    rwa [String.append_empty, parts] at joined
  have inside : startsAtRoot (p.text ++ "/") = false := by
    rw [Bool.eq_false_iff, ne_eq, startsAtRoot_iff, cut]
    rintro ⟨more, _, same⟩
    obtain ⟨first, others, split⟩ := List.exists_cons_of_ne_nil some
    rw [split, List.cons_append] at same
    obtain rfl := (List.cons.inj same).1
    cases normal.moving "" (by simp [split])
  have root : rootOf (p.text ++ "/").toList = p.root := by
    rcases rootOf_cases (p.text ++ "/") with ⟨root, _⟩ | ⟨_, atRoot⟩
    · rw [root, relative]
    · cases atRoot.symm.trans inside
  have segments : (p.segments ++ [""]).filter moves = p.segments := by
    rw [List.filter_append, List.filter_eq_self.mpr normal.moving]
    exact List.append_nil _
  rw [ofString, root, cut, segments]

/-- The root of two separators stands for a text that starts with them. -/
theorem exists_of_rootOf {cs : List Char} (root : rootOf cs = "//") :
    ∃ rest, cs = '/' :: '/' :: rest := by
  match cs with
  | [] => simp [rootOf] at root
  | [c] => by_cases slash : c = '/' <;> simp [rootOf, slash] at root
  | c :: d :: rest =>
      by_cases slash : c = '/'
      · by_cases again : d = '/'
        · exact ⟨rest, by rw [slash, again]⟩
        · simp [rootOf, slash, again] at root
      · simp [rootOf, slash] at root

/-- What a path shows is cut into segments that its text has too. -/
theorem splitAt_text_sublist {s : String} (some : (ofString s).segments ≠ []) :
    (Text.splitAt '/' (ofString s).text).Sublist (Text.splitAt '/' s) := by
  have inner := Text.splitAt_intercalate some (normal_ofString s).whole
  have sublist : (ofString s).segments.Sublist (Text.splitAt '/' s) := List.filter_sublist
  rw [text, if_neg fun both => some both.2]
  rcases rootOf_cases s with ⟨root, _⟩ | ⟨root | root, starts⟩
  · rwa [show (ofString s).root = "" from root, String.empty_append, inner]
  · obtain ⟨more, _, parts⟩ := startsAtRoot_iff.mp starts
    rw [show (ofString s).root = "" ++ "/" from root, Text.splitAt_append, inner,
      segments_ofString, parts]
    exact (List.filter_sublist (l := more)).cons_cons ""
  · obtain ⟨rest, chars⟩ := exists_of_rootOf root
    obtain ⟨more, parts⟩ : ∃ more, Text.splitAt '/' s = "" :: "" :: more :=
      ⟨_, by
        rw [Text.splitAt, chars, Text.splitChars, if_pos rfl, Text.splitChars, if_pos rfl]
        rfl⟩
    rw [show (ofString s).root = "/" ++ "/" from root, Text.splitAt_append, inner,
      segments_ofString, parts]
    exact ((List.filter_sublist (l := more)).cons_cons "").cons_cons ""

end Path

end EntityScribe
