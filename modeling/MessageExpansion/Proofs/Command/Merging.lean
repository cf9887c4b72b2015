import MessageExpansion.Command.Inline
import MessageExpansion.Proofs.Expansion.Mapping

/-!
# Merged scripts

Inlined scripts that go to one place stand one behind the other, each on lines of its own.  The
lines of a script are moved down by the lines before it, and so are the mappings that the merged map
takes over from the map of the script.  No mapping of another script is on its lines, so the merged
map leads each of its characters where the map of the script does.
-/

namespace MessageExpansion

open Text (Position lineStarts withFinalNewline)

/-! ### Lines -/

/-- What follows a text begins a line, or nothing precedes it. -/
def Text.StartsLine (before : List Char) : Prop := before = [] ∨ before.getLast? = some '\n'

namespace Text

theorem startsLine_withFinalNewline
    (text : List Char) :
    StartsLine (withFinalNewline text) := by
  unfold withFinalNewline
  split
  · next empty => exact Or.inl (List.getLast?_eq_none_iff.mp empty)
  · next c last =>
      split
      · next feed => exact Or.inr (feed ▸ last)
      · exact Or.inr List.getLast?_concat

/-- A text is kept as it is when a line feed is put behind it. -/
theorem exists_withFinalNewline_eq
    (text : List Char) :
    ∃ more, withFinalNewline text = text ++ more := by
  unfold withFinalNewline
  split
  · exact ⟨[], by simp⟩
  · split
    · exact ⟨[], by simp⟩
    · exact ⟨['\n'], rfl⟩

theorem StartsLine.not_splits
    {before : List Char}
    (starts : StartsLine before)
    (back : List Char) :
    ¬ Splits before back := by
  rintro ⟨carriage, _⟩
  rcases starts with rfl | feed
  · cases carriage
  · rw [feed] at carriage
    cases carriage

namespace Position

variable {before front back : List Char}

theorem line_advance
    (place : Position)
    (piece : List Char) :
    (place.advance piece).line = place.line + (lineStarts piece).length := by
  unfold advance
  cases last : (lineStarts piece).getLast? with
  | none => simp [List.getLast?_eq_none_iff.mp last]
  | some start => simp [last]

/-- A line begins at its first column, below the lines before it. -/
theorem between_of_startsLine
    (starts : StartsLine before) :
    between before back = start.down (lineStarts before).length := by
  have whole : between before back = start.advance before := by
    rw [between, walk_of_not_splits (starts.not_splits back), advance_eq_walk]
  have line := line_advance start before
  have column : (start.advance before).column = 0 := by
    rcases starts with rfl | feed
    · rfl
    · obtain ⟨init, rfl⟩ := List.getLast?_eq_some_iff.mp feed
      rw [advance_eq_walk, walk_append]
      rfl
  rw [whole]
  exact mk.injEq .. ▸ ⟨line, column⟩

/-- A text that begins a line is moved down by the lines before it. -/
theorem between_append_of_startsLine
    (starts : StartsLine before) :
    between (before ++ front) back = (between front back).down (lineStarts before).length := by
  have placed : between before (front ++ back) = start.down (lineStarts before).length :=
    between_of_startsLine starts
  rw [between, walk_append, show walk start before (front ++ back) = _ from placed, walk_down]
  rfl

/-- The characters of a text stand above the line that is begun behind it. -/
theorem line_between_lt
    (front : List Char)
    (c : Char)
    (back : List Char) :
    (between front (c :: back)).line <
      (lineStarts (withFinalNewline (front ++ c :: back))).length := by
  obtain ⟨more, whole⟩ := exists_withFinalNewline_eq (front ++ c :: back)
  have finish : between (withFinalNewline (front ++ c :: back)) [] = _ :=
    between_of_startsLine (startsLine_withFinalNewline _)
  have before : (between front (c :: (back ++ more))).Before
      (between (withFinalNewline (front ++ c :: back)) []) := by
    rw [whole, List.append_assoc, List.cons_append, between, between, walk_append, List.append_nil]
    exact before_walk (List.cons_ne_nil _ _)
  rw [show between front (c :: (back ++ more)) = between front (c :: back) from walk_congr rfl,
    finish] at before
  unfold Before down start at before
  simp only [Nat.zero_add] at before
  omega

end Position
end Text

/-! ### Merging -/

namespace InlineCommand

variable {merged : MappedText} {file : InlinedFile} {files : List InlinedFile}

/-- The map of a text is sound and for the characters of the text. -/
structure MappedText.IsSound (merged : MappedText) : Prop where
  map : merged.map.IsSound
  marks : merged.map.Marks merged.text

/-- The number of lines above what is put behind a text. -/
def MappedText.lineCount (merged : MappedText) : Nat :=
  (lineStarts (withFinalNewline merged.text)).length

namespace MappedText.IsSound

/-- The mappings of a text stand above what is put behind it. -/
theorem line_lt
    (sound : merged.IsSound) :
    ∀ mapping ∈ merged.map.mappings, mapping.generated.line < merged.lineCount := by
  intro mapping present
  obtain ⟨front, c, back, text, place⟩ := sound.marks mapping present
  rw [place, lineCount, text]
  exact Position.line_between_lt front c back

/-- A script that is put behind a text adds the traces of its map below all others. -/
theorem add
    (sound : merged.IsSound)
    (fileSound : MappedText.IsSound ⟨file.script.text, file.script.map⟩) :
    (merged.add file).IsSound ∧
      (merged.add file).map.traces =
        merged.map.traces ++ file.script.map.traces.map (·.down merged.lineCount) := by
  obtain ⟨appended, traces⟩ := PositionMap.append_spec sound.map fileSound.map sound.line_lt
  refine ⟨⟨appended, ?_⟩, traces⟩
  show ((merged.map.append file.script.map merged.lineCount).Marks
    (withFinalNewline merged.text ++ file.script.text))
  obtain ⟨more, whole⟩ := Text.exists_withFinalNewline_eq merged.text
  rw [PositionMap.marks_iff, traces, List.forall_mem_append]
  constructor
  · intro trace present
    obtain ⟨front, c, back, text, place⟩ := PositionMap.marks_iff.mp sound.marks trace present
    refine ⟨front, c, back ++ more ++ file.script.text, ?_, ?_⟩
    · rw [whole, text]
      simp
    · rw [place]
      exact Position.walk_congr rfl
  · intro trace present
    obtain ⟨own, known, rfl⟩ := List.mem_map.mp present
    obtain ⟨front, c, back, text, place⟩ := PositionMap.marks_iff.mp fileSound.marks own known
    refine ⟨withFinalNewline merged.text ++ front, c, back, ?_, ?_⟩
    · rw [show file.script.text = _ from text, List.append_assoc]
    · rw [Position.between_append_of_startsLine (Text.startsLine_withFinalNewline _), ← place]
      rfl

end MappedText.IsSound

/-- More text does not begin further up. -/
theorem lineCount_le_add : merged.lineCount ≤ (merged.add file).lineCount := by
  obtain ⟨more, whole⟩ := Text.exists_withFinalNewline_eq (merged.add file).text
  have starts := Text.startsLine_withFinalNewline merged.text
  have parts : lineStarts (withFinalNewline merged.text ++ (file.script.text ++ more)) = _ :=
    Text.lineStartsFrom_append (starts.not_splits _)
  unfold MappedText.lineCount
  rw [whole, show (merged.add file).text = withFinalNewline merged.text ++ file.script.text from rfl,
    List.append_assoc, parts, List.length_append]
  exact Nat.le_add_right _ _

/-- Scripts that are put behind a text leave the text and its traces, and their own traces stand
below. -/
theorem exists_added
    (sound : merged.IsSound)
    (filesSound : ∀ file ∈ files, MappedText.IsSound ⟨file.script.text, file.script.map⟩) :
    (files.foldl MappedText.add merged).IsSound ∧
      ∃ after added, (files.foldl MappedText.add merged).text = merged.text ++ after ∧
        (files.foldl MappedText.add merged).map.traces = merged.map.traces ++ added ∧
        ∀ trace ∈ added, merged.lineCount ≤ trace.generated.line := by
  induction files generalizing merged with
  | nil => exact ⟨sound, [], [], by simp⟩
  | cons file rest inductionHypothesis =>
      rw [List.forall_mem_cons] at filesSound
      obtain ⟨addedSound, traces⟩ := sound.add filesSound.1
      obtain ⟨finalSound, after, added, text, finalTraces, below⟩ :=
        inductionHypothesis addedSound filesSound.2
      obtain ⟨more, whole⟩ := Text.exists_withFinalNewline_eq merged.text
      refine ⟨finalSound, more ++ file.script.text ++ after,
        file.script.map.traces.map (·.down merged.lineCount) ++ added, ?_, ?_, ?_⟩
      · rw [List.foldl_cons, text, MappedText.add, whole]
        simp only [List.append_assoc]
      · rw [List.foldl_cons, finalTraces, traces, List.append_assoc]
      · rw [List.forall_mem_append]
        refine ⟨fun trace present => ?_, fun trace present =>
          Nat.le_trans lineCount_le_add (below trace present)⟩
        obtain ⟨own, _, rfl⟩ := List.mem_map.mp present
        exact Nat.le_add_left _ _

/-- A text with a map holds scripts in order: each stands behind what is made of the scripts before
it, at the start of a line, and the map leads its characters where the map of the script does. -/
def IsMerged (files : List InlinedFile) (merged : MappedText) : Prop :=
  ∀ earlier file later, files = earlier ++ file :: later →
    ∃ before after, merged.text = before ++ (file.script.text ++ after) ∧
      before = withFinalNewline (merge earlier).text ∧
      Text.StartsLine before ∧
      ∀ front c behind, file.script.text = front ++ c :: behind →
        merged.map.lookup (.between (before ++ front) (c :: behind ++ after)) =
          file.script.map.lookup (.between front (c :: behind))

/-- The scripts of files were inlined, with maps to earlier texts or without. -/
def Inlined (files : List InlinedFile) : Prop :=
  ∀ file ∈ files, ∃ (inlining : Inlining) (inputMap : Option PositionMap) (first : Nat),
    (inlining.run inputMap first).result = .ok file.script

theorem Inlined.isSound
    (inlined : Inlined files) :
    ∀ file ∈ files, MappedText.IsSound ⟨file.script.text, file.script.map⟩ := by
  intro file present
  obtain ⟨inlining, inputMap, first, succeeds⟩ := inlined file present
  exact ⟨(Inlining.isSound_of_run succeeds).1, (Inlining.isSound_of_run succeeds).2⟩

/-- The map of merged scripts is sound and for the characters of their text. -/
theorem isSound_merge
    (sound : ∀ file ∈ files, MappedText.IsSound ⟨file.script.text, file.script.map⟩) :
    (merge files).IsSound := by
  have blank : MappedText.IsSound ⟨[], .empty⟩ :=
    ⟨⟨PositionMap.isComplete_empty, List.Pairwise.nil⟩, by simp [PositionMap.Marks, PositionMap.empty]⟩
  exact (exists_added blank sound).1

/-- Scripts that were inlined, with maps to earlier texts or without, are merged in order, and the
merged map leads each of their characters where the map of its script does. -/
theorem isMerged_merge
    (files : List InlinedFile)
    (inlined : Inlined files) :
    IsMerged files (merge files) := by
  have sound := inlined.isSound
  rintro earlier file later rfl
  rw [List.forall_mem_append, List.forall_mem_cons] at sound
  obtain ⟨earlierSound, fileSound, laterSound⟩ := sound
  have frontSound := isSound_merge earlierSound
  obtain ⟨addedSound, addedTraces⟩ := frontSound.add fileSound
  obtain ⟨finalSound, after, added, text, traces, below⟩ := exists_added addedSound laterSound
  have parts : merge (earlier ++ file :: later) =
      later.foldl MappedText.add ((merge earlier).add file) := by
    rw [merge, List.foldl_append, List.foldl_cons]
    rfl
  rw [parts]
  refine ⟨withFinalNewline (merge earlier).text, after, ?_, rfl,
    Text.startsLine_withFinalNewline _, fun front c behind split => ?_⟩
  · rw [← List.append_assoc]
    exact text
  · have place : Position.between front (c :: behind ++ after) =
        Position.between front (c :: behind) := Position.walk_congr rfl
    rw [Position.between_append_of_startsLine (Text.startsLine_withFinalNewline _), place]
    rw [addedTraces] at traces
    apply PositionMap.lookup_down finalSound.map fileSound.map traces
    · intro trace present
      obtain ⟨mapping, known, rfl⟩ := List.mem_map.mp present
      exact frontSound.line_lt mapping known
    · intro trace present
      have inside := Position.line_between_lt
        (withFinalNewline (merge earlier).text ++ front) c behind
      rw [Position.between_append_of_startsLine (Text.startsLine_withFinalNewline _),
        List.append_assoc, ← split] at inside
      exact Nat.lt_of_lt_of_le inside (below trace present)

/-- A script that ends with a carriage return, an empty one, and one with a map to an earlier text
that only knows its first line. -/
theorem isMerged_merge_three :
    let first := Inlining.unlocalized "a;\nt('b');\r"
    let second := Inlining.unlocalized ""
    let third := Inlining.unlocalized "t('c')\n+t('\x7bd\x7d')"
    let inputMap : PositionMap := ⟨none, ["c.ts", "d.ts"], [none, none], [⟨⟨0, 0⟩, 1, ⟨4, 2⟩⟩]⟩
    ∃ a b c : InlinedScript,
      (first.run none 1).result = .ok a ∧ a.text = "a;\n\"b\";\r".toList ∧
      (second.run none 1).result = .ok b ∧ b.text = [] ∧
      (third.run (some inputMap) 1).result = .ok c ∧ c.text.length = 124 ∧
      IsMerged [⟨"a.js", none, a⟩, ⟨"b.js", none, b⟩, ⟨"c.js", none, c⟩]
        (merge [⟨"a.js", none, a⟩, ⟨"b.js", none, b⟩, ⟨"c.js", none, c⟩]) := by
  intro first second third inputMap
  have firstKnown : (first.run none 1).result.toOption.map (·.text) =
      some "a;\n\"b\";\r".toList := by
    decide +kernel
  have secondKnown : (second.run none 1).result.toOption.map (·.text) = some [] := by
    decide +kernel
  have thirdKnown : (third.run (some inputMap) 1).result.toOption.map (·.text.length) =
      some 124 := by
    decide +kernel
  obtain ⟨a, firstSucceeds, firstText⟩ := Inlining.exists_ok firstKnown
  obtain ⟨b, secondSucceeds, secondText⟩ := Inlining.exists_ok secondKnown
  obtain ⟨c, thirdSucceeds, thirdLength⟩ := Inlining.exists_ok thirdKnown
  refine ⟨a, b, c, firstSucceeds, firstText, secondSucceeds, secondText, thirdSucceeds, thirdLength,
    isMerged_merge _ ?_⟩
  simp only [Inlined, List.forall_mem_cons, List.not_mem_nil, false_imp_iff, implies_true, and_true]
  exact ⟨⟨first, none, 1, firstSucceeds⟩, ⟨second, none, 1, secondSucceeds⟩,
    ⟨third, some inputMap, 1, thirdSucceeds⟩⟩

end InlineCommand
end MessageExpansion
