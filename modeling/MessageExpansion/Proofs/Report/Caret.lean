import MessageExpansion.Proofs.Lint.Excerpt
import MessageExpansion.Proofs.Text.DisplayWidth
import MessageExpansion.Report.Issues

/-!
# The mark under a call

The report of an issue quotes the line of the call, with a mark under it.  The column of the call is
counted in columns of the screen, but the blanks before the mark are as wide as that many characters
of the line.  So the mark is under the call where the part of the line before it has as many columns
as characters, and under a neighbour where it has fewer or more.
-/

namespace MessageExpansion

open Script (CallTree)
open Text (textWidth StandsAlone IsVisibleAscii isIdentifierStart)

/-- Visible characters of ASCII count for one column each. -/
theorem Excerpt.cells_of_isVisibleAscii
    {piece : List Char}
    (visible : ∀ c ∈ piece, IsVisibleAscii c) :
    cells piece = piece.length := by
  induction piece with
  | nil => rfl
  | cons c rest inductionHypothesis =>
      obtain ⟨first, others⟩ := List.forall_mem_cons.mp visible
      have single : columns c = 1 :=
        Text.forall_below (fun c => IsVisibleAscii c → columns c = 1) (by decide +kernel) first.2 first
      rw [cells_cons, single, inductionHypothesis others, List.length_cons, Nat.add_comm]

namespace Report

/-- The line with the mark under a call, behind a number of blanks. -/
def Layout.caretLine (layout : Layout) (severity : Severity) (padding : Nat) : String :=
  layout.behindGutter "|" (" " ++ blanks padding ++
    layout.paint (.plain (severityColour severity)) "^")

/-- The report of a call has a line with a mark. -/
theorem Layout.exists_caretLine
    (layout : Layout)
    (excerpt : Excerpt)
    (problem : CallProblem) :
    ∃ above below, layout.issue (.call excerpt problem) =
      above ++ layout.caretLine problem.rule.severity (caretPadding excerpt) ++ below := by
  refine ⟨layout.heading (.call excerpt problem) ++ layout.placeLine (.call excerpt problem) ++
    (layout.behindGutter "|" "" ++
      layout.paint (.plain .blue) (blanks (layout.gutter -
        (toString excerpt.location.line).length) ++ toString excerpt.location.line) ++ " " ++
      layout.paint (.plain .blue) "|" ++ " " ++ excerpt.line ++ "\n"),
    layout.remarks (.call excerpt problem) ++ "\n", ?_⟩
  unfold issue quotedLine caretLine
  simp only [Issue.excerpt?, String.append_assoc]
  rfl

/-- Where the mark is that stands behind some blanks, if a line consists of a part before the call
and of the call with what follows. -/
structure CaretPlaced (before onward : List Char) (padding : Nat) : Prop where
  /-- It is under the call if there is one column for each character, on the average. -/
  right : Excerpt.cells before = before.length → padding = textWidth before
  /-- So it is behind visible characters of ASCII. -/
  ascii : (∀ c ∈ before, IsVisibleAscii c) → padding = before.length
  /-- With fewer columns it is where as many characters end as there are columns. -/
  fewer : Excerpt.cells before ≤ before.length →
    padding = textWidth (before.take (Excerpt.cells before))
  /-- With more columns it is where characters of the call or behind it end. -/
  more : before.length ≤ Excerpt.cells before → padding = textWidth (before ++
    (onward.takeWhile (· != '\n')).take (Excerpt.cells before - before.length))
  /-- Then it is too far to the right. -/
  tooFar : before.length < Excerpt.cells before → ∀ c rest, onward = c :: rest → c ≠ '\n' →
    StandsAlone c → textWidth before < padding
  /-- So it is if the call begins with a letter of ASCII. -/
  behindLetter : before.length < Excerpt.cells before → ∀ c rest, onward = c :: rest →
    isIdentifierStart c = true → c.toNat < 128 → textWidth before < padding

theorem caretPlaced_of_cuts
    {excerpt : Excerpt}
    {before onward : List Char}
    (line : excerpt.line.toList = before ++ onward.takeWhile (· != '\n'))
    (column : excerpt.location.column = Excerpt.cells before + 1) :
    CaretPlaced before onward (Layout.caretPadding excerpt) := by
  have padding : Layout.caretPadding excerpt =
      textWidth ((before ++ onward.takeWhile (· != '\n')).take (Excerpt.cells before)) := by
    rw [Layout.caretPadding, line, column, Nat.add_sub_cancel]
  have fewer (le : Excerpt.cells before ≤ before.length) :
      Layout.caretPadding excerpt = textWidth (before.take (Excerpt.cells before)) := by
    rw [padding, List.take_append_of_le_length le]
  have more (le : before.length ≤ Excerpt.cells before) :
      Layout.caretPadding excerpt = textWidth (before ++
        (onward.takeWhile (· != '\n')).take (Excerpt.cells before - before.length)) := by
    rw [padding, List.take_append, List.take_of_length_le le]
  have right (equal : Excerpt.cells before = before.length) :
      Layout.caretPadding excerpt = textWidth before := by
    rw [fewer (Nat.le_of_eq equal), equal, List.take_length]
  have tooFar (less : before.length < Excerpt.cells before) (c : Char) (rest : List Char)
      (equal : onward = c :: rest) (noFeed : c ≠ '\n') (alone : StandsAlone c) :
      textWidth before < Layout.caretPadding excerpt := by
    -- The call begins with a character that takes room, and the mark is behind it.
    obtain ⟨count, positive⟩ := Nat.exists_eq_succ_of_ne_zero (Nat.sub_ne_zero_of_lt less)
    have shown : (onward.takeWhile (· != '\n')).take (Excerpt.cells before - before.length) =
        c :: (rest.takeWhile (· != '\n')).take count := by
      have goesOn : (c != '\n') = true := bne_iff_ne.mpr noFeed
      rw [equal, positive, List.takeWhile_cons, if_pos goesOn, List.take_succ_cons]
    obtain ⟨room, apart⟩ := Text.apart_cons alone ((rest.takeWhile (· != '\n')).take count)
    rw [more (Nat.le_of_lt less), shown, Text.textWidth_append before apart]
    exact Nat.lt_add_of_pos_right room
  refine ⟨right, fun visible => ?_, fewer, more, tooFar, fun less c rest equal begins ascii => ?_⟩
  · rw [right (Excerpt.cells_of_isVisibleAscii visible), Text.textWidth_of_isVisibleAscii visible]
  · have noFeed : c ≠ '\n' := by
      rintro rfl
      exact absurd begins (by decide +kernel)
    exact tooFar less c rest equal noFeed (Text.standsAlone_of_isIdentifierStart begins ascii)

/-- An issue of a call is shown with the line of the call, and with a mark that the part of the line
before the call places. -/
structure MarksCall (linting : Linting) (excerpt : Excerpt) (problem : CallProblem)
    (call : Script.Call) (before onward : List Char) : Prop where
  /-- The call is a named one of the script. -/
  called : ∃ trees, Script.parse (.ofPath linting.file) linting.script = some trees ∧
    call ∈ CallTree.visitsAll trees ∧ call.isNamed linting.session.function = true
  /-- The script is cut where the line of the call begins, and where the call begins. -/
  cuts : ∃ mark earlier, Excerpt.Cuts linting.script call.span.start mark earlier before onward
  /-- The excerpt shows the line. -/
  line : excerpt.line.toList = before ++ onward.takeWhile (· != '\n')
  /-- The report has a line with the mark. -/
  reported : ∀ layout : Layout, ∃ above below, layout.issue (.call excerpt problem) =
    above ++ layout.caretLine problem.rule.severity (Layout.caretPadding excerpt) ++ below
  /-- The mark is placed by the part of the line before the call. -/
  placed : CaretPlaced before onward (Layout.caretPadding excerpt)

/-- The report of every issue of a call has a mark, which is under the call where the part of its
line before it has as many columns as characters. -/
theorem exists_marksCall
    {linting : Linting}
    {excerpt : Excerpt}
    {problem : CallProblem}
    (reported : .call excerpt problem ∈ linting.run) :
    ∃ call before onward, MarksCall linting excerpt problem call before onward := by
  rcases Linting.of_mem_run reported with ⟨error, equal⟩ |
    ⟨trees, call, other, parsed, present, named, equal⟩
  · cases equal
  · cases equal
    have callee : call.callee = some linting.session.function := by
      simpa [Script.Call.isNamed] using named
    obtain ⟨mark, earlier, before, onward, cuts, alone⟩ :=
      Excerpt.exists_cuts parsed present callee
    obtain ⟨number, shown⟩ := cuts.ofOffset alone linting.file
    have line := Excerpt.toList_lineText cuts.inLine onward
    refine ⟨call, before, onward, ⟨trees, parsed, present, named⟩, ⟨mark, earlier, cuts⟩, ?_,
      fun layout => layout.exists_caretLine _ _, ?_⟩
    · rw [shown]
      exact line
    · rw [shown]
      exact caretPlaced_of_cuts line rfl

/-- Behind visible characters of ASCII the mark is under the call. -/
theorem exists_marksCall_plain :
    let linting : Linting := ⟨.default, "a.js", "let a = format(x)".toList⟩
    let excerpt : Excerpt := ⟨⟨"a.js", 1, 9⟩, "let a = format(x)"⟩
    let problem : CallProblem := .malformedArguments "format" .pattern
    .call excerpt problem ∈ linting.run ∧
      ∃ call before onward, MarksCall linting excerpt problem call before onward := by
  intro linting excerpt problem
  have reported : .call excerpt problem ∈ linting.run := by decide +kernel
  exact ⟨reported, exists_marksCall reported⟩

/-- Behind a wide character the mark is one column too far to the right. -/
theorem caretPadding_of_wide_character :
    let linting : Linting := ⟨.default, "a.js", "/*中*/format(x)".toList⟩
    let excerpt : Excerpt := ⟨⟨"a.js", 1, 7⟩, "/*中*/format(x)"⟩
    .call excerpt (.malformedArguments "format" .pattern) ∈ linting.run ∧
      Excerpt.Cuts linting.script 7 [] [] "/*中*/".toList "format(x)".toList ∧
      (Script.parse (.ofPath linting.file) linting.script).map (fun trees =>
        (CallTree.visitsAll trees).map (·.span)) = some [⟨7, 16⟩] ∧
      textWidth "/*中*/".toList = 6 ∧ Layout.caretPadding excerpt = 7 := by
  have cuts : Excerpt.Cuts "/*中*/format(x)".toList 7 [] [] "/*中*/".toList "format(x)".toList :=
    ⟨by decide +kernel, by decide +kernel, by decide +kernel, by simp, by simp [Excerpt.IsLineEnd]⟩
  exact ⟨by decide +kernel, cuts, by decide +kernel, by decide +kernel, by decide +kernel⟩

end Report
end MessageExpansion
