import EntityScribe.Proofs.Substitution
import Mathlib.Data.List.Forall2

/-!
# Rendering a template

Every line of a template becomes something of its own: it is dropped with a warning, gives a line
for each item of a value, or is filled in. What a template gives is what its lines become, in their
order.
-/

namespace EntityScribe

namespace Text

/-! ## Blanks at the ends -/

/-- A text is what is left when the blanks are taken off its ends, between those blanks. -/
theorem split_stripChars (cs : List Char) :
    ∃ after, cs = cs.takeWhile isBlank ++ (stripChars cs ++ after) ∧
      ∀ c ∈ after, isBlank c = true := by
  refine ⟨((cs.dropWhile isBlank).reverse.takeWhile isBlank).reverse, ?_, fun c member => ?_⟩
  · rw [stripChars, ← List.reverse_append, List.takeWhile_append_dropWhile, List.reverse_reverse,
      List.takeWhile_append_dropWhile]
  · exact List.mem_takeWhile_imp (List.mem_reverse.mp member)

/-- Blanks in front of another character are all that the text begins with. -/
theorem takeWhile_blanks {blanks : List Char} {c : Char}
    (blank : ∀ b ∈ blanks, isBlank b = true) (other : isBlank c = false) (rest : List Char) :
    (blanks ++ c :: rest).takeWhile isBlank = blanks ∧
      (blanks ++ c :: rest).dropWhile isBlank = c :: rest := by
  rw [List.takeWhile_append_of_pos blank, List.dropWhile_append_of_pos blank]
  simp [other]

theorem stripChars_blanks {before middle after : List Char} {first last : Char}
    (blankBefore : ∀ c ∈ before, isBlank c = true) (blankAfter : ∀ c ∈ after, isBlank c = true)
    (begins : isBlank first = false) (ends : isBlank last = false) :
    stripChars (before ++ (first :: middle ++ [last]) ++ after) = first :: middle ++ [last] := by
  have turnedAfter : ∀ c ∈ after.reverse, isBlank c = true :=
    fun c member => blankAfter c (List.mem_reverse.mp member)
  have front := (takeWhile_blanks blankBefore begins (middle ++ [last] ++ after)).2
  have back := (takeWhile_blanks turnedAfter ends (middle.reverse ++ [first])).2
  have whole : before ++ (first :: middle ++ [last]) ++ after =
      before ++ first :: (middle ++ [last] ++ after) := by simp
  have turned : (first :: (middle ++ [last] ++ after)).reverse =
      after.reverse ++ last :: (middle.reverse ++ [first]) := by simp
  rw [stripChars, whole, front, turned, back]
  simp

end Text

namespace Template

/-! ## Lines that are one placeholder -/

/-- A line that is one placeholder between blanks. -/
structure Alone (line before key after : String) : Prop where
  split : line = before ++ placeholder key ++ after
  isKey : IsKey key
  blankBefore : Text.allBlank before = true
  blankAfter : Text.allBlank after = true

theorem piecesIn_skip (n : Nat) (cs : List Char) : piecesIn n cs = piecesIn 0 (cs.drop n) := by
  induction n generalizing cs with
  | zero => rfl
  | succ n ih =>
      cases cs with
      | nil => rw [piecesIn, List.drop_nil, piecesIn]
      | cons c rest => rw [piecesIn, ih, List.drop_succ_cons]

/-- Characters without an opening brace are pieces of their own. -/
theorem piecesIn_append {l : List Char} (noBrace : '{' ∉ l) (cs : List Char) :
    piecesIn 0 (l ++ cs) = l.map .char ++ piecesIn 0 cs := by
  induction l with
  | nil => rfl
  | cons c rest ih =>
      rw [List.mem_cons, not_or] at noBrace
      rw [List.cons_append, piecesIn]
      · rw [ih noBrace.2]
        rfl
      · exact fun more first _ => noBrace.1 first.symm

theorem piecesIn_placeholder {key : String} (isKey : IsKey key) (cs : List Char) :
    piecesIn 0 ((placeholder key).toList ++ cs) = .hole key :: piecesIn 0 cs := by
  have found : keyAt (key.toList ++ '}' :: '}' :: cs) = some key.toList :=
    keyAt_eq_some_iff.mpr ⟨by rwa [String.ofList_toList], cs, rfl⟩
  have whole : (placeholder key).toList ++ cs = '{' :: '{' :: (key.toList ++ '}' :: '}' :: cs) := by
    simp [toList_placeholder]
  rw [whole, piecesIn, found]
  dsimp only
  rw [String.ofList_toList, piecesIn_skip]
  congr 2
  simp

namespace Alone

variable {line before key after : String}

theorem toList (alone : Alone line before key after) :
    line.toList = before.toList ++ ((placeholder key).toList ++ after.toList) := by
  rw [alone.split, String.toList_append, String.toList_append, List.append_assoc]

theorem no_brace {blanks : String} (blank : Text.allBlank blanks = true) :
    '{' ∉ blanks.toList := by
  intro member
  have isBlank := List.all_eq_true.mp blank _ member
  revert isBlank
  decide

theorem keys_eq (alone : Alone line before key after) : keys line = [key] := by
  have chars : pieces line = before.toList.map .char ++ (.hole key :: after.toList.map .char) := by
    have tail := piecesIn_append (no_brace alone.blankAfter) []
    rw [List.append_nil, piecesIn, List.append_nil] at tail
    rw [pieces, alone.toList, piecesIn_append (no_brace alone.blankBefore),
      piecesIn_placeholder alone.isKey, tail]
  have none : ∀ l : List Char, (l.map Piece.char).filterMap Piece.key? = [] := by
    intro l
    rw [List.filterMap_map]
    exact List.filterMap_eq_nil_iff.mpr fun _ _ => rfl
  rw [← holes_pieces, chars, holes, List.filterMap_append, none, List.nil_append]
  exact congrArg (key :: ·) (none after.toList)

theorem strip_eq (alone : Alone line before key after) :
    Text.strip line = placeholder key ∧ Text.leadingBlanks line = before := by
  have blankBefore := List.all_eq_true.mp alone.blankBefore
  have blankAfter := List.all_eq_true.mp alone.blankAfter
  have core : (placeholder key).toList = '{' :: ('{' :: key.toList ++ ['}']) ++ ['}'] := by
    simp [toList_placeholder]
  constructor
  · rw [Text.strip, alone.toList, ← List.append_assoc, core,
      Text.stripChars_blanks blankBefore blankAfter (by decide) (by decide), ← core,
      String.ofList_toList]
  · rw [Text.leadingBlanks, alone.toList, core, List.cons_append, List.cons_append,
      (Text.takeWhile_blanks blankBefore (by decide) _).1, String.ofList_toList]

/-- A line with one placeholder is nothing but it, between blanks, if the blanks at its ends are all
that it has besides. -/
theorem of_strip (single : keys line = [key]) (stripped : Text.strip line = placeholder key) :
    ∃ after, Alone line (Text.leadingBlanks line) key after := by
  obtain ⟨after, split, blank⟩ := Text.split_stripChars line.toList
  refine ⟨String.ofList after, ?_, isKey_of_mem_keys (single ▸ List.mem_cons_self), ?_, ?_⟩
  · rw [← stripped, ← String.toList_inj, String.toList_append, String.toList_append,
      Text.leadingBlanks, Text.strip, String.toList_ofList, String.toList_ofList,
      String.toList_ofList, List.append_assoc]
    exact split
  · rw [Text.allBlank, Text.leadingBlanks, String.toList_ofList, List.all_eq_true]
    exact fun c member => List.mem_takeWhile_imp member
  · rw [Text.allBlank, String.toList_ofList, List.all_eq_true]
    exact blank

end Alone

/-! ## Variables -/

/-- What a variable stands for. -/
inductive Value where
  | text (s : String)
  | list (items : List String)

namespace Value

def document : Value → Document
  | text s => .text s
  | list items => .list (items.map .text)

/-- The items of a list, or the lines of a text. -/
def items : Value → List String
  | text s => Text.splitLines s
  | list items => items

/-- The text that stands for a value within a line. -/
def shown (value : Value) : String :=
  value.document.asText

end Value

abbrev Variables := List (String × Value)

namespace Variables

def entries (vars : Variables) : Entries Document :=
  vars.map fun v => (.text v.1, v.2.document)

/-- The characters that stand for a variable within a line. -/
def shown (vars : Variables) (key : String) : List Char :=
  ((vars.lookup key).map fun value => value.shown.toList).getD []

theorem get?_entries (vars : Variables) (key : String) :
    vars.entries.get? key = (vars.lookup key).map Value.document := by
  induction vars with
  | nil => rfl
  | cons v rest ih =>
      obtain ⟨name, value⟩ := v
      change (if name = key then some value.document else Entries.get? (entries rest) key) = _
      rw [ih, List.lookup_cons]
      by_cases same : name = key
      · simp [same]
      · simp [same, beq_false_of_ne (Ne.symm same)]

theorem isNone_get?_entries (vars : Variables) (key : String) :
    (vars.entries.get? key).isNone = (vars.lookup key).isNone := by
  rw [get?_entries, Option.isNone_map]

end Variables

theorem itemsOf_document (value : Value) :
    itemsOf value.document = value.items.map Document.text := by
  cases value <;> rfl

theorem itemLine_text (indent item : String) :
    itemLine indent (.text item) = .ok (if item = "" then none else some (indent ++ item)) := by
  have void : (Document.text item).isVoid = true ↔ item = "" := by
    simp [Document.text, Document.isVoid, Scalar.isVoid]
  unfold itemLine
  by_cases empty : item = ""
  · rw [if_pos (void.mpr empty), if_pos empty]
  · rw [if_neg (mt void.mp empty), if_neg empty]
    rfl

theorem mapM_itemLine (indent : String) (items : List String) :
    (items.map Document.text).mapM (itemLine indent) =
      .ok (items.map fun item => if item = "" then none else some (indent ++ item)) := by
  induction items with
  | nil => rfl
  | cons item rest ih =>
      rw [List.map_cons, List.mapM_cons, itemLine_text, ih]
      rfl

theorem standalone_document (indent : String) (value : Value) :
    standalone indent value.document =
      .lines ((value.items.filter (· ≠ "")).map (indent ++ ·)) := by
  rw [standalone, itemsOf_document, mapM_itemLine]
  refine congrArg LineText.lines ?_
  rw [List.filterMap_map]
  induction value.items with
  | nil => rfl
  | cons item rest ih =>
      by_cases empty : item = ""
      · rw [List.filterMap_cons_none (by simp [empty]), List.filter_cons_of_neg (by simp [empty])]
        exact ih
      · rw [List.filterMap_cons_some (b := indent ++ item) (by simp [empty]),
          List.filter_cons_of_pos (by simp [empty]), List.map_cons, ih]

/-! ## What a line becomes -/

/-- What a line becomes in a single pass. -/
inductive Becomes (vars : Variables) (line : String) : LineText → Prop where
  /-- Some of its keys are unknown. -/
  | dropped (unknown : (keys line).filter (fun key => (vars.lookup key).isNone) ≠ []) :
      Becomes vars line (.missing ((keys line).filter fun key => (vars.lookup key).isNone))
  /-- It is one placeholder between blanks: a line for each item that is not empty. -/
  | items {before key after : String} {value : Value} (alone : Alone line before key after)
      (known : vars.lookup key = some value) :
      Becomes vars line (.lines ((value.items.filter (· ≠ "")).map (before ++ ·)))
  /-- Any other line is filled in, all of its placeholders at once. -/
  | filled (known : ∀ key ∈ keys line, (vars.lookup key).isSome)
      (joined : ∀ before key after, ¬Alone line before key after) :
      Becomes vars line (.lines [String.ofList (onePass vars.shown (pieces line))])

variable {vars : Variables} {line : String}

theorem unknown_eq_nil_iff :
    (keys line).filter (fun key => (vars.lookup key).isNone) = [] ↔
      ∀ key ∈ keys line, (vars.lookup key).isSome := by
  simp [List.filter_eq_nil_iff, Option.isSome_iff_ne_none]

theorem Alone.known {before key after : String} {value : Value}
    (alone : Alone line before key after) (found : vars.lookup key = some value) :
    ∀ other ∈ keys line, (vars.lookup other).isSome := by
  intro other member
  rw [alone.keys_eq, List.mem_singleton] at member
  rw [member, found]
  rfl

/-- What a line becomes is fixed by the line. -/
theorem Becomes.unique {first second : LineText} (left : Becomes vars line first)
    (right : Becomes vars line second) : first = second := by
  cases left with
  | dropped unknown =>
      cases right with
      | dropped _ => rfl
      | items alone found => exact absurd (unknown_eq_nil_iff.mpr (alone.known found)) unknown
      | filled all _ => exact absurd (unknown_eq_nil_iff.mpr all) unknown
  | @items before key after value alone found =>
      cases right with
      | dropped unknown => exact absurd (unknown_eq_nil_iff.mpr (alone.known found)) unknown
      | @items before' key' after' value' alone' found' =>
          obtain rfl : key = key' := by
            have same := alone.keys_eq.symm.trans alone'.keys_eq
            exact (List.cons.inj same).1
          rw [found] at found'
          cases found'
          rw [← alone.strip_eq.2, ← alone'.strip_eq.2]
      | filled _ joined => exact absurd alone (joined _ _ _)
  | filled all joined =>
      cases right with
      | dropped unknown => exact absurd (unknown_eq_nil_iff.mpr all) unknown
      | items alone found => exact absurd alone (joined _ _ _)
      | filled _ _ => rfl

theorem lineText_of_unknown
    (unknown : (keys line).filter (fun key => (vars.lookup key).isNone) ≠ []) :
    lineText vars.entries line =
      .missing ((keys line).filter fun key => (vars.lookup key).isNone) := by
  have same : (fun key => (vars.entries.get? key).isNone) = fun key => (vars.lookup key).isNone :=
    funext vars.isNone_get?_entries
  rw [lineText, same]
  split
  · next none => exact absurd none unknown
  · rfl

/-- Where every key is known, it is the shape of the line that decides. -/
theorem lineText_of_known (known : ∀ key ∈ keys line, (vars.lookup key).isSome) :
    lineText vars.entries line =
      match keys line with
      | [key] =>
          if Text.strip line = placeholder key then
            standalone (Text.leadingBlanks line) ((vars.entries.get? key).getD Document.null)
          else .lines [inline vars.entries line (keys line)]
      | _ => .lines [inline vars.entries line (keys line)] := by
  have same : (fun key => (vars.entries.get? key).isNone) = fun key => (vars.lookup key).isNone :=
    funext vars.isNone_get?_entries
  rewrite [lineText, same, unknown_eq_nil_iff.mpr known]
  rfl

theorem lineText_of_alone {before key after : String} {value : Value}
    (alone : Alone line before key after) (found : vars.lookup key = some value) :
    lineText vars.entries line =
      .lines ((value.items.filter (· ≠ "")).map (before ++ ·)) := by
  obtain ⟨stripped, indent⟩ := alone.strip_eq
  rw [lineText_of_known (alone.known found), alone.keys_eq]
  dsimp only
  rw [if_pos stripped, indent, Variables.get?_entries, found, Option.map_some, Option.getD_some,
    standalone_document]

theorem lineText_of_joined (known : ∀ key ∈ keys line, (vars.lookup key).isSome)
    (joined : ∀ before key after, ¬Alone line before key after) :
    lineText vars.entries line = .lines [inline vars.entries line (keys line)] := by
  rw [lineText_of_known known]
  split
  · next key single =>
      have other : ¬Text.strip line = placeholder key := by
        intro stripped
        obtain ⟨after, alone⟩ := Alone.of_strip single stripped
        exact joined _ _ _ alone
      rw [if_neg other]
  · rfl

/-- A line is dropped, or one known placeholder alone, or filled in. -/
theorem lineText_cases (vars : Variables) (line : String) :
    (keys line).filter (fun key => (vars.lookup key).isNone) ≠ [] ∨
      (∃ before key after value, Alone line before key after ∧ vars.lookup key = some value) ∨
      ((∀ key ∈ keys line, (vars.lookup key).isSome) ∧
        ∀ before key after, ¬Alone line before key after) := by
  by_cases unknown : (keys line).filter (fun key => (vars.lookup key).isNone) = []
  · have known := unknown_eq_nil_iff.mp unknown
    by_cases single : ∃ before key after, Alone line before key after
    · obtain ⟨before, key, after, alone⟩ := single
      obtain ⟨value, found⟩ := Option.isSome_iff_exists.mp
        (known key (alone.keys_eq ▸ List.mem_cons_self))
      exact .inr (.inl ⟨before, key, after, value, alone, found⟩)
    · exact .inr (.inr ⟨known, fun before key after alone => single ⟨before, key, after, alone⟩⟩)
  · exact .inl unknown

/-- Nothing disturbs the replacing of one key after the other in a line that is not dropped. -/
def Calm (vars : Variables) (line : String) : Prop :=
  (∀ key ∈ keys line, (vars.lookup key).isSome) → Undisturbed vars.shown (pieces line)

instance (vars : Variables) (line : String) : Decidable (Calm vars line) :=
  inferInstanceAs (Decidable (_ → _))

/-- Where every key is known, filling a line in key after key is a single pass over it. -/
theorem inline_entries (known : ∀ key ∈ keys line, (vars.lookup key).isSome)
    (calm : Calm vars line) :
    inline vars.entries line (keys line) = String.ofList (onePass vars.shown (pieces line)) := by
  refine inline_eq_onePass (fun key member => ?_) (calm known)
  obtain ⟨value, found⟩ := Option.isSome_iff_exists.mp (known key member)
  rw [Variables.get?_entries, Variables.shown, found]
  rfl

theorem becomes_lineText (calm : Calm vars line) :
    Becomes vars line (lineText vars.entries line) := by
  rcases lineText_cases vars line with
    unknown | ⟨before, key, after, value, alone, found⟩ | ⟨known, joined⟩
  · rw [lineText_of_unknown unknown]
    exact .dropped unknown
  · rw [lineText_of_alone alone found]
    exact .items alone found
  · rw [lineText_of_joined known joined, inline_entries known calm]
    exact .filled known joined

/-- Under texts and lists of texts, no line is unusable. -/
theorem lineText_ne_unusable (vars : Variables) (line : String) :
    lineText vars.entries line ≠ .unusable := by
  rcases lineText_cases vars line with
    unknown | ⟨before, key, after, value, alone, found⟩ | ⟨known, joined⟩
  · rw [lineText_of_unknown unknown]
    exact LineText.noConfusion
  · rw [lineText_of_alone alone found]
    exact LineText.noConfusion
  · rw [lineText_of_joined known joined]
    exact LineText.noConfusion

/-! ## What a template gives -/

/-- The lines that a line gives. -/
def LineText.output : LineText → List String
  | missing _ => []
  | lines given => given
  | unusable => []

/-- The warning about a line, if it is dropped. -/
def LineText.warning? (name : String) : LineText → Option LogRecord
  | missing keys => some (warning name keys)
  | lines _ => none
  | unusable => none

theorem renderLines_eq {values : Entries Document} (name : String) {lines : List String}
    (usable : ∀ line ∈ lines, lineText values line ≠ .unusable) :
    renderLines name values lines =
      ⟨.ok (lines.flatMap fun line => (lineText values line).output),
        lines.filterMap fun line => (lineText values line).warning? name⟩ := by
  induction lines with
  | nil => rfl
  | cons line rest ih =>
      obtain ⟨usableFirst, usableRest⟩ := List.forall_mem_cons.mp usable
      rw [renderLines, ih usableRest, List.flatMap_cons, List.filterMap_cons]
      cases became : lineText values line with
      | missing keys => rfl
      | lines given => rfl
      | unusable => exact absurd became usableFirst

theorem render_eq (t : Template) (name : String) (vars : Variables) :
    t.render name vars.entries =
      ⟨.ok (t.lines.flatMap fun line => (lineText vars.entries line).output),
        t.lines.filterMap fun line => (lineText vars.entries line).warning? name⟩ :=
  renderLines_eq name fun line _ => lineText_ne_unusable vars line

/-- Rendering is a single pass: what it gives is what the lines become, in their order, with a
warning for each line that is dropped, as long as nothing disturbs the lines with several
placeholders. -/
theorem render_onePass (t : Template) (name : String) (vars : Variables)
    (calm : ∀ line ∈ t.lines, Calm vars line) :
    ∃ become, List.Forall₂ (Becomes vars) t.lines become ∧
      t.render name vars.entries =
        ⟨.ok (become.flatMap LineText.output), become.filterMap (LineText.warning? name)⟩ := by
  refine ⟨t.lines.map (lineText vars.entries), ?_, ?_⟩
  · exact List.forall₂_map_right_iff.mpr (List.forall₂_same.mpr fun line member =>
      becomes_lineText (calm line member))
  · rw [render_eq, List.flatMap_map, List.filterMap_map]
    rfl

/-- A dropped line with a key repeated, placeholders alone, one of them indented, and lines in which
values hold braces that come too late to matter. -/
theorem render_onePass_mixed :
    let t : Template := ⟨["\x7b\x7bX\x7d\x7d \x7b\x7bA\x7d\x7d \x7b\x7bX\x7d\x7d",
      "  \x7b\x7bL\x7d\x7d ", "\x7b\x7bT\x7d\x7d", "\x7b\x7bA\x7d\x7d-\x7b\x7bB\x7d\x7d"]⟩
    let vars : Variables := [("A", .text "a"), ("B", .text "\x7b\x7bA\x7d\x7d"),
      ("L", .list ["one", "", "two"]), ("T", .text "up\n\ndown")]
    ∃ become, List.Forall₂ (Becomes vars) t.lines become ∧
      t.render "x" vars.entries =
        ⟨.ok (become.flatMap LineText.output), become.filterMap (LineText.warning? "x")⟩ := by
  intro t vars
  exact render_onePass t "x" vars (by decide)

/-- A value that looks like a placeholder is taken for one when the turn of its key comes. -/
theorem not_onePass_repeated :
    let t : Template := ⟨["[\x7b\x7bA\x7d\x7d|\x7b\x7bB\x7d\x7d|\x7b\x7bA\x7d\x7d]"]⟩
    let vars : Variables := [("A", .text "\x7b\x7bB\x7d\x7d"), ("B", .text "w")]
    ¬∃ become, List.Forall₂ (Becomes vars) t.lines become ∧
      (t.render "x" vars.entries).outcome = .ok (become.flatMap LineText.output) := by
  rintro t vars ⟨become, becomes, given⟩
  obtain ⟨became, rest, first, none, rfl⟩ := List.forall₂_cons_left_iff.mp becomes
  cases none
  have known : ∀ key ∈ keys t.lines[0], (vars.lookup key).isSome := by decide
  have joined : ∀ before key after, ¬Alone t.lines[0] before key after := by
    intro before key after alone
    have several : (keys t.lines[0]).length = 3 := by decide
    rw [alone.keys_eq] at several
    cases several
  have code : inline vars.entries t.lines[0] (keys t.lines[0]) = "[w|w|w]" := by decide
  have pass : String.ofList (onePass vars.shown (pieces t.lines[0])) =
      "[\x7b\x7bB\x7d\x7d|w|\x7b\x7bB\x7d\x7d]" := by decide
  have filled : Becomes vars t.lines[0] (.lines ["[\x7b\x7bB\x7d\x7d|w|\x7b\x7bB\x7d\x7d]"]) :=
    pass ▸ .filled known joined
  have line := lineText_of_joined known joined
  rw [code] at line
  rw [first.unique filled, render_eq] at given
  change Except.ok ((lineText vars.entries t.lines[0]).output ++ []) = _ at given
  rw [line] at given
  exact absurd (Except.ok.inj given) (by decide)

end Template

end EntityScribe
