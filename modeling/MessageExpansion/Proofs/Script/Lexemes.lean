import MessageExpansion.Proofs.Script.Places

/-!
# Texts as sequences of lexemes

A lexeme is a token with its spelling, which may stand on a new line.  Whether a piece of text
spells certain lexemes depends on what follows it: two pieces that stand behind each other spell
their lexemes if the first one does in front of the second.
-/

namespace MessageExpansion
namespace Script

open Text (byteLength isLineTerminator)

/-- A token and how it is spelled. -/
structure Lexeme where
  /-- What the token is. -/
  kind : TokenKind
  /-- Its characters. -/
  spelling : List Char
  /-- A line ends before it. -/
  newline : Bool := false
deriving DecidableEq, Repr

/-- The lexeme behind a gap, which ends a line or does not. -/
def Lexeme.behind (newline : Bool) (lexeme : Lexeme) : Lexeme :=
  { lexeme with newline := newline || lexeme.newline }

/-- The lexeme on a new line. -/
def Lexeme.onNewLine (lexeme : Lexeme) : Lexeme := lexeme.behind true

@[simp] theorem Lexeme.onNewLine_kind (lexeme : Lexeme) : lexeme.onNewLine.kind = lexeme.kind := rfl

/-- The next token from a place on is a lexeme, and it ends at another place. -/
def Lexeme.Next (lexeme : Lexeme) (first last : Place) : Prop :=
  ∃ start, skipGap .blank false first.offset first.rest = some (lexeme.newline, start) ∧
    tokenAt start = (lexeme.kind, last) ∧ start.rest = lexeme.spelling ++ last.rest ∧
      lexeme.spelling ≠ []

/-- The tokens between two places are lexemes. -/
inductive Scans : List Lexeme → Place → Place → Prop
  | nil (place : Place) : Scans [] place place
  | cons
      {lexeme : Lexeme}
      {rest : List Lexeme}
      {first next last : Place}
      (head : lexeme.Next first next)
      (onward : Scans rest next last) :
      Scans (lexeme :: rest) first last

namespace Scans

variable {left right : List Lexeme} {first middle last : Place}

theorem append
    (start : Scans left first middle)
    (finish : Scans right middle last) :
    Scans (left ++ right) first last := by
  induction start with
  | nil => exact finish
  | cons head _ inductionHypothesis => exact .cons head (inductionHypothesis finish)

theorem nil_iff :
    Scans [] first last ↔ first = last := by
  refine ⟨fun scans => ?_, fun same => same ▸ .nil first⟩
  cases scans
  rfl

theorem cons_iff
    {lexeme : Lexeme} :
    Scans (lexeme :: right) first last ↔ ∃ next, lexeme.Next first next ∧ Scans right next last := by
  refine ⟨fun scans => ?_, fun ⟨next, head, onward⟩ => .cons head onward⟩
  cases scans with
  | cons head onward => exact ⟨_, head, onward⟩

/-- Lexemes can be scanned in two parts. -/
theorem append_iff :
    Scans (left ++ right) first last ↔ ∃ middle, Scans left first middle ∧ Scans right middle last := by
  refine ⟨fun scans => ?_, fun ⟨middle, start, finish⟩ => start.append finish⟩
  induction left generalizing first with
  | nil => exact ⟨first, .nil first, scans⟩
  | cons lexeme left inductionHypothesis =>
      obtain ⟨next, head, onward⟩ := cons_iff.mp scans
      obtain ⟨middle, start, finish⟩ := inductionHypothesis onward
      exact ⟨middle, .cons head start, finish⟩

end Scans

/-! ### Gaps -/

/-- A character that a gap between tokens may begin with. -/
def beginsGap (c : Char) : Bool := isLineTerminator c || isScriptBlank c || c == '/'

/-- A gap goes on in the same way when a line ended before it. -/
theorem skipGap_true
    (gap : Gap)
    (newline : Bool)
    (offset : Nat)
    (text : List Char) :
    skipGap gap true offset text =
      (skipGap gap newline offset text).map fun found => (true, found.2) := by
  fun_induction skipGap gap newline offset text <;> (rw [skipGap.eq_def]; grind)

theorem skipGap_of_not_beginsGap
    {c : Char}
    {rest : List Char}
    (newline : Bool)
    (offset : Nat)
    (plain : beginsGap c = false) :
    skipGap .blank newline offset (c :: rest) = some (newline, ⟨offset, c :: rest⟩) := by
  unfold beginsGap at plain
  rw [skipGap.eq_def]
  grind

theorem skipGap_cons
    {c : Char}
    {rest : List Char}
    (offset : Nat)
    (blank : isLineTerminator c = true ∨ isScriptBlank c = true)
    (noSlash : c ≠ '/') :
    skipGap .blank false offset (c :: rest) =
      skipGap .blank (isLineTerminator c) (offset + c.utf8Size) rest := by
  rw [skipGap.eq_def]
  grind

theorem skipGap_lineComment
    {line rest : List Char}
    (newline : Bool)
    (offset : Nat)
    (inLine : ∀ c ∈ line, isLineTerminator c = false) :
    skipGap .lineComment newline offset (line ++ '\n' :: rest) =
      skipGap .blank true (offset + byteLength (line ++ ['\n'])) rest := by
  induction line generalizing offset with
  | nil =>
      rw [List.nil_append, skipGap, if_pos (by rfl)]
      rfl
  | cons c line inductionHypothesis =>
      rw [List.forall_mem_cons] at inLine
      rw [List.cons_append, skipGap, if_neg (by simp [inLine.1]), inductionHypothesis _ inLine.2,
        List.cons_append, Text.byteLength_cons, Nat.add_assoc]

/-! ### Spelling -/

/-- A piece of text spells lexemes in front of another one. -/
def Spells (text : List Char) (lexemes : List Lexeme) (back : List Char) : Prop :=
  ∀ offset, Scans lexemes ⟨offset, text ++ back⟩ ⟨offset + byteLength text, back⟩

namespace Spells

variable {text front middle back : List Char} {lexeme : Lexeme} {lexemes left right : List Lexeme}

theorem append
    (start : Spells front left (middle ++ back))
    (finish : Spells middle right back) :
    Spells (front ++ middle) (left ++ right) back := by
  intro offset
  have first := start offset
  have second := finish (offset + byteLength front)
  rw [List.append_assoc, Text.byteLength_append, ← Nat.add_assoc]
  exact first.append second

/-- A gap may stand before the first lexeme. -/
theorem of_gap
    (gap : List Char)
    (newline : Bool)
    (skips : ∀ offset rest, skipGap .blank false offset (gap ++ rest) =
      skipGap .blank newline (offset + byteLength gap) rest)
    (spells : Spells text (lexeme :: lexemes) back) :
    Spells (gap ++ text) (lexeme.behind newline :: lexemes) back := by
  intro offset
  have scans := spells (offset + byteLength gap)
  rw [List.append_assoc, Text.byteLength_append, ← Nat.add_assoc]
  cases scans with
  | cons head onward =>
      refine .cons ?_ onward
      obtain ⟨start, skipped, token⟩ := head
      refine ⟨start, ?_, token⟩
      rw [skips]
      cases newline with
      | false => exact skipped
      | true =>
          rw [skipGap_true .blank false, skipped]
          rfl

/-- A blank may stand before the first lexeme. -/
theorem space
    (spells : Spells text (lexeme :: lexemes) back) :
    Spells (' ' :: text) (lexeme :: lexemes) back :=
  spells.of_gap [' '] false fun offset _ =>
    skipGap_cons offset (.inr (by decide)) (by decide)

/-- A line may end before the first lexeme. -/
theorem newline
    (spells : Spells text (lexeme :: lexemes) back) :
    Spells ('\n' :: text) (lexeme.onNewLine :: lexemes) back :=
  spells.of_gap ['\n'] true fun offset _ =>
    skipGap_cons offset (.inl (by decide)) (by decide)

/-- A comment that takes up the rest of its line may stand before the first lexeme. -/
theorem comment
    {line : List Char}
    (inLine : ∀ c ∈ line, isLineTerminator c = false)
    (spells : Spells text (lexeme :: lexemes) back) :
    Spells ('/' :: '/' :: line ++ '\n' :: text) (lexeme.onNewLine :: lexemes) back := by
  have whole : '/' :: '/' :: line ++ '\n' :: text = ('/' :: '/' :: (line ++ ['\n'])) ++ text := by
    simp
  rw [whole]
  refine spells.of_gap _ true fun offset rest => ?_
  have begins : '/' :: '/' :: (line ++ ['\n']) ++ rest = '/' :: '/' :: (line ++ '\n' :: rest) := by
    simp
  rw [begins, skipGap, skipGap_lineComment _ _ inLine]
  simp only [Text.byteLength_cons, ← Nat.add_assoc]
  rfl

/-- The token at the start of a text spells itself. -/
theorem of_tokenAt
    {kind : TokenKind}
    {c : Char}
    {rest : List Char}
    (plain : beginsGap c = false)
    (token : ∀ offset, tokenAt ⟨offset, c :: rest ++ back⟩ =
      (kind, ⟨offset + byteLength (c :: rest), back⟩)) :
    Spells (c :: rest) [{ kind, spelling := c :: rest }] back := by
  intro offset
  refine .cons ⟨⟨offset, c :: rest ++ back⟩, ?_, token offset, rfl, List.cons_ne_nil _ _⟩ (.nil _)
  exact skipGap_of_not_beginsGap false offset plain

end Spells
end Script
end MessageExpansion
