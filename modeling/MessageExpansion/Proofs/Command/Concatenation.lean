import MessageExpansion.Proofs.Command.Merging
import MessageExpansion.Proofs.Command.Numbering

/-!
# Scripts on the standard output

In a file, inlined scripts stand each on lines of its own: where the text of a script does not end
its last line, the line is ended before the next script begins.  The standard output gets the texts
of the scripts as they are.  Without maps the two are the same text exactly if no script but the
last one leaves its last line open; otherwise the next script goes on in that line.
-/

namespace MessageExpansion

open Text (StartsLine withFinalNewline)

/-! ### Lines that are ended -/

namespace Text

/-- Only an open line is ended. -/
theorem withFinalNewline_eq_self_iff
    (text : List Char) :
    withFinalNewline text = text ↔ StartsLine text := by
  constructor
  · intro same
    exact same ▸ startsLine_withFinalNewline text
  · intro starts
    unfold withFinalNewline
    rcases starts with rfl | feed
    · rfl
    · simp [feed]

/-- Behind ended lines, a text ends its lines by itself. -/
theorem withFinalNewline_append
    {before : List Char}
    (starts : StartsLine before)
    (text : List Char) :
    withFinalNewline (before ++ text) = before ++ withFinalNewline text := by
  rcases List.eq_nil_or_concat text with rfl | ⟨front, last, rfl⟩
  · rw [List.append_nil, (withFinalNewline_eq_self_iff before).mpr starts]
    exact (List.append_nil before).symm
  · unfold withFinalNewline
    rw [List.concat_eq_append, ← List.append_assoc, List.getLast?_concat, List.getLast?_concat]
    dsimp only
    split <;> simp

/-- Ended lines behind ended lines are ended lines. -/
theorem StartsLine.append
    {before text : List Char}
    (starts : StartsLine before)
    (ends : StartsLine text) :
    StartsLine (before ++ text) := by
  rw [← withFinalNewline_eq_self_iff] at ends ⊢
  rw [withFinalNewline_append starts, ends]

/-- Where lines are ended, the last text has ended its own. -/
theorem StartsLine.of_append
    {before text : List Char}
    (starts : StartsLine (before ++ text)) :
    StartsLine text := by
  rcases List.eq_nil_or_concat text with rfl | ⟨front, last, rfl⟩
  · exact Or.inl rfl
  · rcases starts with empty | feed
    · simp at empty
    · right
      rw [List.concat_eq_append, ← List.append_assoc, List.getLast?_concat] at feed
      rw [List.concat_eq_append, List.getLast?_concat, feed]

end Text

/-- Texts one after the other are the same as longer texts one after the other only if none of them
is really longer. -/
theorem flatMap_eq_flatMap_iff
    {α : Type}
    {text longer : α → List Char}
    (isLonger : ∀ a, ∃ more, longer a = text a ++ more)
    (all : List α) :
    all.flatMap longer = all.flatMap text ↔ ∀ a ∈ all, longer a = text a := by
  have noShorter (all : List α) : (all.flatMap text).length ≤ (all.flatMap longer).length := by
    induction all with
    | nil => exact Nat.le_refl _
    | cons a rest inductionHypothesis =>
        obtain ⟨more, extended⟩ := isLonger a
        simp only [List.flatMap_cons, List.length_append, extended]
        omega
  refine ⟨fun same => ?_, fun each => List.flatMap_congr each⟩
  induction all with
  | nil => simp
  | cons a rest inductionHypothesis =>
      obtain ⟨more, extended⟩ := isLonger a
      rw [List.flatMap_cons, List.flatMap_cons, extended, List.append_assoc,
        List.append_cancel_left_eq] at same
      have lengths := congrArg List.length same
      have le := noShorter rest
      rw [List.length_append] at lengths
      have nothing : more = [] := List.eq_nil_of_length_eq_zero (by omega)
      subst nothing
      rw [List.append_nil] at extended
      exact List.forall_mem_cons.mpr ⟨extended, inductionHypothesis same⟩

namespace InlineCommand

/-! ### Two ways to put scripts one after the other -/

/-- The texts of scripts as they are. -/
def textsOf (files : List InlinedFile) : List Char := files.flatMap (·.script.text)

theorem merge_concat
    (earlier : List InlinedFile)
    (file : InlinedFile) :
    merge (earlier ++ [file]) = (merge earlier).add file := by
  rw [merge, List.foldl_append]
  rfl

/-- In one file, every script ends its lines. -/
theorem withFinalNewline_merge
    (files : List InlinedFile) :
    withFinalNewline (merge files).text =
      files.flatMap fun file => withFinalNewline file.script.text := by
  induction files using List.reverseRecOn with
  | nil => rfl
  | append_singleton earlier file inductionHypothesis =>
      rw [merge_concat, MappedText.add,
        Text.withFinalNewline_append (Text.startsLine_withFinalNewline _), inductionHypothesis]
      simp

/-- The scripts before a script end their lines: no line of theirs goes on in the script. -/
def NoLineJoined (files : List InlinedFile) : Prop :=
  ∀ earlier file later, files = earlier ++ file :: later → StartsLine (textsOf earlier)

/-- No script but the last one leaves its last line open. -/
def LinesEnded (files : List InlinedFile) : Prop :=
  ∀ file ∈ files.dropLast, StartsLine file.script.text

theorem startsLine_textsOf
    {files : List InlinedFile}
    (ended : ∀ file ∈ files, StartsLine file.script.text) :
    StartsLine (textsOf files) := by
  induction files with
  | nil => exact Or.inl rfl
  | cons file rest inductionHypothesis =>
      rw [List.forall_mem_cons] at ended
      exact ended.1.append (inductionHypothesis ended.2)

/-- A line goes on in another script exactly if a script before it leaves its last line open. -/
theorem noLineJoined_iff
    (files : List InlinedFile) :
    NoLineJoined files ↔ LinesEnded files := by
  constructor
  · intro apart file present
    obtain ⟨earlier, later, split⟩ := List.append_of_mem present
    have nonempty : files ≠ [] := by
      rintro rfl
      cases present
    have whole : files = (earlier ++ [file]) ++ (later ++ [files.getLast nonempty]) := by
      rw [← List.append_assoc, List.append_assoc earlier, List.singleton_append, ← split,
        List.dropLast_append_getLast nonempty]
    obtain ⟨next, others, behind⟩ := List.exists_cons_of_ne_nil
      (show later ++ [files.getLast nonempty] ≠ [] by simp)
    rw [behind] at whole
    have starts := apart _ next others whole
    rw [textsOf, List.flatMap_append, List.flatMap_singleton] at starts
    exact starts.of_append
  · rintro ended earlier file later rfl
    refine startsLine_textsOf fun other present => ended other ?_
    rw [List.dropLast_append_of_ne_nil (List.cons_ne_nil _ _)]
    exact List.mem_append_left _ present

/-- The two ways come to the same text exactly if no script but the last one leaves its last line
open. -/
theorem textsOf_eq_merge_iff
    (files : List InlinedFile) :
    textsOf files = (merge files).text ↔ LinesEnded files := by
  rcases List.eq_nil_or_concat files with rfl | ⟨earlier, file, rfl⟩
  · exact iff_of_true rfl (by simp [LinesEnded])
  · rw [List.concat_eq_append, merge_concat, MappedText.add, withFinalNewline_merge, LinesEnded,
      List.dropLast_concat, textsOf, List.flatMap_append, List.flatMap_singleton,
      List.append_cancel_right_eq, eq_comm]
    have longer (file : InlinedFile) := Text.exists_withFinalNewline_eq file.script.text
    simp only [← Text.withFinalNewline_eq_self_iff]
    exact flatMap_eq_flatMap_iff longer earlier

/-- Scripts that are put behind others leave them as they are. -/
theorem exists_merge_append
    (front back : List InlinedFile) :
    ∃ after, (merge (front ++ back)).text = (merge front).text ++ after := by
  induction back using List.reverseRecOn with
  | nil => exact ⟨[], by simp⟩
  | append_singleton others file inductionHypothesis =>
      obtain ⟨after, before⟩ := inductionHypothesis
      obtain ⟨more, whole⟩ := Text.exists_withFinalNewline_eq (merge (front ++ others)).text
      refine ⟨after ++ more ++ file.script.text, ?_⟩
      rw [← List.append_assoc, merge_concat, MappedText.add, whole, before]
      simp only [List.append_assoc]

/-! ### Two outputs of one command -/

/-- The script stands in a text on lines of its own, behind what is made of the scripts before
it. -/
def StandsApart (earlier : List InlinedFile) (file : InlinedFile) (text : List Char) : Prop :=
  ∃ before after, text = before ++ file.script.text ++ after ∧
    before = withFinalNewline (merge earlier).text ∧ StartsLine before

/--
Without maps, the standard output gets the texts of the scripts one after the other, and a file gets
them each on lines of its own.  They are the same text exactly if no script but the last one leaves
its last line open, and exactly then no line of a script goes on in another one on the standard
output.
-/
theorem output_eq_iff_linesEnded
    (arguments : InlineArguments)
    (path : String)
    (session : Session)
    (workspace : Workspace)
    (standardInput : Option String)
    (files : List ScannedFile) :
    let inlined := succeeded
      ((inlineInOrder session workspace 1 (files.map (ScriptSource.ofFile workspace))).map
        (·.result))
    let printed := runPrepared
      { arguments with outFile := none, outDirectory := none, maps := .nowhere }
      ⟨session, .files files⟩ workspace standardInput
    let saved := runPrepared { arguments with outFile := some path, maps := .nowhere }
      ⟨session, .files files⟩ workspace standardInput
    printed.output = String.ofList (textsOf inlined) ∧
      saved.workspace = (workspace.saveAll
        (if inlined.isEmpty then [] else [⟨path, String.ofList (merge inlined).text⟩])).1 ∧
      (∀ earlier file later, inlined = earlier ++ file :: later →
        StandsApart earlier file (merge inlined).text) ∧
      (printed.output = String.ofList (merge inlined).text ↔ LinesEnded inlined) ∧
      (NoLineJoined inlined ↔ LinesEnded inlined) := by
  intro inlined printed saved
  have printedText : printed.output = String.ofList (textsOf inlined) := by
    rw [show printed = _ from
      runPrepared_files (fun path equal => by cases equal) session workspace standardInput files]
    exact output_deliver
  refine ⟨printedText, ?_, ?_, ?_, noLineJoined_iff inlined⟩
  · rw [show saved = _ from
      runPrepared_files (fun path equal => by cases equal) session workspace standardInput files]
    rw [workspace_deliver, target, outputs]
    split <;> rfl
  · intro earlier file later split
    obtain ⟨after, whole⟩ := exists_merge_append (earlier ++ [file]) later
    refine ⟨_, after, ?_, rfl, Text.startsLine_withFinalNewline _⟩
    rw [split, List.append_cons, whole, merge_concat]
    rfl
  · rw [printedText, String.ofList_inj]
    exact textsOf_eq_merge_iff inlined

/-- On the standard output, the line of a script that leaves it open goes on in the next script, and
the two are no script any more. -/
theorem lines_joined_on_standardOutput :
    let arguments : InlineArguments :=
      ⟨⟨[], none, none, none, none, false⟩, none, none, .nowhere, none⟩
    let session := (Inlining.unlocalized "").session
    let workspace : Workspace :=
      ⟨.directory [("a.js", .file (some "let a = t('a')")),
        ("b.js", .file (some "let b = t('b')\n"))], []⟩
    let files := ["a.js", "b.js"].map fun path => ScannedFile.mk path path
    let printed := runPrepared arguments ⟨session, .files files⟩ workspace none
    let saved := runPrepared { arguments with outFile := some "out.js" } ⟨session, .files files⟩
      workspace none
    printed.output = "let a = \"a\"let b = \"b\"\n" ∧
      saved.workspace.read? "out.js" = some "let a = \"a\"\nlet b = \"b\"\n" ∧
      Script.parse (.ofPath "out.js") printed.output.toList = none := by
  decide +kernel

end InlineCommand
end MessageExpansion
