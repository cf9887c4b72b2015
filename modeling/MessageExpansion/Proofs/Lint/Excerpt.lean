import MessageExpansion.Proofs.Lint.Agreement
import MessageExpansion.Proofs.Script.Offsets

/-!
# The lines that issues show

An issue of a call shows the line that the call begins in, and its column is counted from the part
of that line before the call.  A script is cut where the line begins and where the call begins; a
mark of the byte order in front of the script belongs to no line.
-/

namespace MessageExpansion

open Script (Call CallTree)
open Text (byteLength)

namespace Excerpt

/-- A line ends with this character, or with two characters of which it is the last one. -/
def IsLineEnd (c : Char) : Prop := c = '\n' ∨ c = '\r'

instance : DecidablePred IsLineEnd := fun _ => inferInstanceAs (Decidable (_ ∨ _))

/-- The number of columns of a piece of a line, as locations count them. -/
def cells (piece : List Char) : Nat := (piece.map columns).sum

@[simp] theorem cells_nil : cells [] = 0 := rfl

@[simp] theorem cells_cons
    (c : Char)
    (rest : List Char) :
    cells (c :: rest) = columns c + cells rest := by
  simp [cells]

/-- A mark of the byte order, if a text begins with one. -/
def leadingMark : List Char → List Char
  | '\ufeff' :: _ => ['\ufeff']
  | _ => []

/-- A script is cut at a place and where the line with the place begins; a mark of the byte order
stands before the first line. -/
structure Cuts (script : List Char) (offset : Nat) (mark earlier before onward : List Char) :
    Prop where
  /-- The first piece is the mark. -/
  isMark : mark = leadingMark script
  /-- The pieces are those of the script. -/
  pieces : script = mark ++ (earlier ++ (before ++ onward))
  /-- The place is between the last two. -/
  place : byteLength mark + byteLength (earlier ++ before) = offset
  /-- The piece before the place begins a line. -/
  begins : ∀ c ∈ earlier.getLast?, IsLineEnd c
  /-- It does not leave that line. -/
  inLine : ∀ c ∈ before, ¬ IsLineEnd c

/-- Every place is in a line. -/
theorem exists_lineStart
    (front : List Char) :
    ∃ earlier before, front = earlier ++ before ∧
      (∀ c ∈ earlier.getLast?, IsLineEnd c) ∧ ∀ c ∈ before, ¬ IsLineEnd c := by
  induction front with
  | nil => exact ⟨[], [], rfl, by simp, by simp⟩
  | cons c rest inductionHypothesis =>
      obtain ⟨earlier, before, rfl, begins, inLine⟩ := inductionHypothesis
      cases earlier with
      | nil =>
          by_cases ends : IsLineEnd c
          · exact ⟨[c], before, rfl, by simpa using ends, inLine⟩
          · exact ⟨[], c :: before, rfl, by simp, List.forall_mem_cons.mpr ⟨ends, inLine⟩⟩
      | cons d earlier =>
          exact ⟨c :: d :: earlier, before, rfl, by rwa [List.getLast?_cons_cons], inLine⟩

/-! ### Reading up to a place -/

section

variable {file : String} {line width bytes : Nat} {lineStart : List Char}

/-- At a place that is reached nothing more is read. -/
@[simp] theorem after_zero
    (text : List Char) :
    after file line width lineStart 0 text = ⟨⟨file, line, width + 1⟩, lineText lineStart⟩ := by
  cases text <;> rfl

/-- Reading goes on behind a character that ends no line. -/
theorem after_of_inLine
    {c : Char}
    (inLine : ¬ IsLineEnd c)
    (text : List Char) :
    after file line width lineStart (c.utf8Size + bytes) (c :: text) =
      after file line (width + columns c) lineStart bytes text := by
  obtain ⟨size, equal⟩ := Nat.exists_eq_succ_of_ne_zero (Nat.ne_of_gt c.utf8Size_pos)
  have plain : ¬ (c = '\n' ∨ c = '\r') := inLine
  rw [equal, Nat.succ_add, after, if_neg plain, equal, Nat.succ_eq_add_one, Nat.add_right_comm,
    Nat.add_sub_cancel_left]
  rintro rest rfl
  exact absurd (.inr rfl) inLine

/-- A new line begins behind a character that ends one. -/
theorem after_of_lineEnd
    {c : Char}
    (ends : IsLineEnd c)
    {text : List Char}
    (alone : c = '\r' → text.head? ≠ some '\n') :
    after file line width lineStart (c.utf8Size + bytes) (c :: text) =
      after file (line + 1) 0 text bytes text := by
  have size : c.utf8Size = 1 := by rcases ends with rfl | rfl <;> rfl
  rw [size, Nat.add_comm, after]
  · exact if_pos ends
  · rintro rest isReturn rfl
    exact alone isReturn rfl

/-- A carriage return is passed over if the line feed behind it is read as well. -/
theorem after_of_twoEnds
    (text : List Char) :
    after file line width lineStart ('\r'.utf8Size + ('\n'.utf8Size + bytes))
        ('\r' :: '\n' :: text) =
      after file line width lineStart ('\n'.utf8Size + bytes) ('\n' :: text) := by
  have sizes : '\r'.utf8Size + ('\n'.utf8Size + bytes) = bytes + 1 + 1 := by
    change 1 + (1 + bytes) = _
    omega
  rw [after_of_lineEnd (.inl rfl) (fun isReturn => absurd isReturn (by decide)), sizes, after,
    Nat.add_sub_cancel]

/-- Within a line columns add up. -/
theorem after_before
    {before : List Char}
    (inLine : ∀ c ∈ before, ¬ IsLineEnd c)
    (onward : List Char) :
    after file line width lineStart (byteLength before) (before ++ onward) =
      ⟨⟨file, line, width + cells before + 1⟩, lineText lineStart⟩ := by
  induction before generalizing width with
  | nil => simp
  | cons c rest inductionHypothesis =>
      obtain ⟨first, others⟩ := List.forall_mem_cons.mp inLine
      rw [List.cons_append, Text.byteLength_cons, after_of_inLine first, inductionHypothesis others,
        cells_cons, Nat.add_assoc width]

/-- Behind the lines before it a line is read from its start. -/
theorem after_earlier
    {earlier rest : List Char}
    (nonempty : earlier ≠ [])
    (ends : ∀ c ∈ earlier.getLast?, IsLineEnd c)
    (alone : rest.head? ≠ some '\n') :
    ∃ number, after file line width lineStart (byteLength earlier + bytes) (earlier ++ rest) =
      after file number 0 rest bytes rest := by
  induction earlier generalizing line width lineStart with
  | nil => exact absurd rfl nonempty
  | cons c more inductionHypothesis =>
      rw [Text.byteLength_cons, Nat.add_assoc, List.cons_append]
      cases more with
      | nil =>
          rw [Text.byteLength_nil, Nat.zero_add, List.nil_append,
            after_of_lineEnd (ends c rfl) fun _ => alone]
          exact ⟨_, rfl⟩
      | cons d more =>
          rw [List.getLast?_cons_cons] at ends
          by_cases lineEnd : IsLineEnd c
          · by_cases both : c = '\r' ∧ d = '\n'
            · obtain ⟨rfl, rfl⟩ := both
              rw [Text.byteLength_cons, Nat.add_assoc, List.cons_append, after_of_twoEnds,
                ← List.cons_append, ← Nat.add_assoc, ← Text.byteLength_cons]
              exact inductionHypothesis (List.cons_ne_nil _ _) ends
            · rw [after_of_lineEnd lineEnd]
              · exact inductionHypothesis (List.cons_ne_nil _ _) ends
              · intro isReturn feed
                exact both ⟨isReturn, by simpa using feed⟩
          · rw [after_of_inLine lineEnd]
            exact inductionHypothesis (List.cons_ne_nil _ _) ends

/-- The excerpt of a place shows the pieces of its line before and behind it. -/
theorem after_append
    {earlier before onward : List Char}
    (begins : ∀ c ∈ earlier.getLast?, IsLineEnd c)
    (inLine : ∀ c ∈ before, ¬ IsLineEnd c)
    (alone : onward.head? ≠ some '\n') :
    let text := earlier ++ (before ++ onward)
    ∃ number, after file line 0 text (byteLength (earlier ++ before)) text =
      ⟨⟨file, number, cells before + 1⟩, lineText (before ++ onward)⟩ := by
  have lineFromStart (number : Nat) :
      after file number 0 (before ++ onward) (byteLength before) (before ++ onward) =
        ⟨⟨file, number, cells before + 1⟩, lineText (before ++ onward)⟩ := by
    rw [after_before inLine, Nat.zero_add]
  by_cases first : earlier = []
  · subst first
    exact ⟨line, lineFromStart line⟩
  · have noFeed : (before ++ onward).head? ≠ some '\n' := by
      cases before with
      | nil => exact alone
      | cons c rest =>
          intro feed
          exact (List.forall_mem_cons.mp inLine).1 (.inl (by simpa using feed))
    intro text
    obtain ⟨number, read⟩ : ∃ number,
        after file line 0 text (byteLength earlier + byteLength before) text =
          after file number 0 (before ++ onward) (byteLength before) (before ++ onward) :=
      after_earlier first begins noFeed
    rw [Text.byteLength_append, read]
    exact ⟨number, lineFromStart number⟩

end

/-- The excerpt of a place shows its line, and the column that the part before it leads to. -/
theorem Cuts.ofOffset
    {script mark earlier before onward : List Char}
    {offset : Nat}
    (cuts : Cuts script offset mark earlier before onward)
    (alone : onward.head? ≠ some '\n')
    (file : String) :
    ∃ number, Excerpt.ofOffset file script offset =
      ⟨⟨file, number, cells before + 1⟩, lineText (before ++ onward)⟩ := by
  obtain ⟨isMark, pieces, rfl, begins, inLine⟩ := cuts
  have read : let text := earlier ++ (before ++ onward)
      ∃ number, after file 1 0 text (byteLength (earlier ++ before)) text =
        ⟨⟨file, number, cells before + 1⟩, lineText (before ++ onward)⟩ :=
    after_append begins inLine alone
  unfold Excerpt.ofOffset
  split
  · next rest =>
      have onlyMark : mark = ['\ufeff'] := isMark
      subst onlyMark
      obtain rfl : rest = earlier ++ (before ++ onward) := (List.cons.inj pieces).2
      rw [Text.byteLength_cons, Text.byteLength_nil, Nat.add_zero, Nat.add_sub_cancel_left]
      exact read
  · next unmarked =>
      have noMark : mark = [] := by
        rw [isMark, leadingMark]
        exact unmarked
      subst noMark
      rw [Text.byteLength_nil, Nat.zero_add, pieces, List.nil_append]
      exact read

/-- The tokens of a script are behind the mark of the byte order. -/
theorem byteLength_leadingMark_le
    (script : List Char) :
    byteLength (leadingMark script) ≤ (Script.firstPlace script).offset := by
  unfold leadingMark Script.firstPlace
  split <;> simp only
  · split
    · exact Nat.le_trans (Nat.le_refl _)
        (Script.Place.le_skipWhile (Script.Place.skip ⟨0, '\ufeff' :: _⟩ 1) _)
    · exact Nat.le_refl _
  · exact Nat.zero_le _

/-- A script can be cut at its calls. -/
theorem exists_cuts
    {dialect : Script.Dialect}
    {script : List Char}
    {trees : List CallTree}
    (parsed : Script.parse dialect script = some trees)
    {call : Call}
    (present : call ∈ CallTree.visitsAll trees)
    {name : String}
    (callee : call.callee = some name) :
    ∃ mark earlier before onward, Cuts script call.span.start mark earlier before onward ∧
      onward.head? ≠ some '\n' := by
  have fits := Script.fits_of_parse parsed present
  have unmarked : ∃ rest, script = leadingMark script ++ rest := by
    unfold leadingMark
    split
    · exact ⟨_, rfl⟩
    · exact ⟨script, rfl⟩
  obtain ⟨rest, split⟩ := unmarked
  have behindMark := Nat.le_trans (byteLength_leadingMark_le script)
    (Script.le_start_of_parse parsed present)
  obtain ⟨front, onward, rfl, place⟩ := fits.start.split_behind split behindMark
  obtain ⟨earlier, before, rfl, begins, inLine⟩ := exists_lineStart front
  refine ⟨leadingMark script, earlier, before, onward, ⟨rfl, ?_, ?_, begins, inLine⟩, ?_⟩
  · rw [← List.append_assoc earlier]
    exact split
  · rw [← Text.byteLength_append]
    exact place
  · obtain ⟨c, ⟨passed, behind, whole, passedLength⟩, noFeed⟩ := (fits.callee name callee).2
    rw [← List.append_assoc] at split
    obtain ⟨-, rfl⟩ := Text.append_inj_of_byteLength (split.symm.trans whole)
      (place.trans passedLength.symm)
    simpa using noFeed

/-- In a line before a place the line feed behind the place is the first one. -/
theorem toList_lineText
    {before : List Char}
    (inLine : ∀ c ∈ before, ¬ IsLineEnd c)
    (onward : List Char) :
    (lineText (before ++ onward)).toList = before ++ onward.takeWhile (· != '\n') := by
  have noFeed : ∀ c ∈ before, (c != '\n') = true := fun c present =>
    bne_iff_ne.mpr fun feed => inLine c present (.inl feed)
  rw [lineText, String.toList_ofList, List.takeWhile_append_of_pos noFeed]

end Excerpt

namespace Linting

variable {linting : Linting} {state : LintingState} {finding : Finding}

/-- What is reported of a call is a problem of a named call at its place. -/
theorem exists_problem_of_mem_found
    {call : Call}
    (reported : finding ∈ linting.found state call) :
    call.isNamed linting.session.function = true ∧ ∃ problem, finding.issue =
      .call (Excerpt.ofOffset linting.file linting.script call.span.start) problem := by
  cases named : call.isNamed linting.session.function with
  | true =>
      rw [found_of_named named] at reported
      obtain ⟨problem, -, rfl⟩ := List.mem_map.mp reported
      exact ⟨rfl, problem, rfl⟩
  | false =>
      have unchanged : linting.visit state call = state := if_neg (by simp [named])
      simp [found, unchanged] at reported

/-- What is reported of calls is reported of one of them. -/
theorem exists_call_of_mem_foundAll
    {calls : List Call}
    (reported : finding ∈ linting.foundAll state calls) :
    ∃ call ∈ calls, ∃ reached, finding ∈ linting.found reached call := by
  induction calls generalizing state with
  | nil => cases reported
  | cons call rest inductionHypothesis =>
      rw [foundAll, List.mem_append] at reported
      rcases reported with first | later
      · exact ⟨call, List.mem_cons_self, state, first⟩
      · obtain ⟨found, present, known⟩ := inductionHypothesis later
        exact ⟨found, List.mem_cons_of_mem _ present, known⟩

/-- Linting reports that a script does not follow its grammar, or else something wrong with its
named calls. -/
theorem of_mem_run
    {issue : Issue}
    (reported : issue ∈ linting.run) :
    (∃ error, issue = .unparsed linting.file error) ∨
      ∃ trees call problem, Script.parse (.ofPath linting.file) linting.script = some trees ∧
        call ∈ CallTree.visitsAll trees ∧ call.isNamed linting.session.function = true ∧
        issue = .call (Excerpt.ofOffset linting.file linting.script call.span.start) problem := by
  cases parsed : Script.parse (.ofPath linting.file) linting.script with
  | none =>
      unfold run at reported
      rw [parsed, List.mem_singleton] at reported
      exact .inl ⟨_, reported⟩
  | some trees =>
      rw [← findings_eq_run parsed] at reported
      obtain ⟨finding, found, rfl⟩ := List.mem_map.mp reported
      obtain ⟨call, present, state, foundThere⟩ := exists_call_of_mem_foundAll found
      obtain ⟨named, problem, equal⟩ := exists_problem_of_mem_found foundThere
      exact .inr ⟨trees, call, problem, rfl, present, named, equal⟩

end Linting
end MessageExpansion
