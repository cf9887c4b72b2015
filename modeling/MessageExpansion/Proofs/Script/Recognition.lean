import MessageExpansion.Proofs.Script.Terms
import MessageExpansion.Script.Parser

/-!
# Running recognisers

What the basic recognisers do at a given cursor, as equations.  A recogniser runs over known lexemes
by rewriting: the cursor behind a lexeme stands at the next one.
-/

namespace MessageExpansion
namespace Script

/-! ### Cursors at lexemes -/

namespace Lexeme.Next

variable {lexeme : Lexeme} {first next : Place}

theorem after_eq
    (scanned : lexeme.Next first next) :
    ∃ start, Cursor.after first = ⟨lexeme.kind, lexeme.newline, start, next, first⟩ := by
  obtain ⟨start, skipped, token, -⟩ := scanned
  exact ⟨start, by simp [Cursor.after, skipped, token]⟩

theorem kind
    (scanned : lexeme.Next first next) :
    (Cursor.after first).kind = lexeme.kind := by
  obtain ⟨start, equal⟩ := scanned.after_eq
  rw [equal]

theorem newline
    (scanned : lexeme.Next first next) :
    (Cursor.after first).newline = lexeme.newline := by
  obtain ⟨start, equal⟩ := scanned.after_eq
  rw [equal]

theorem stop
    (scanned : lexeme.Next first next) :
    (Cursor.after first).stop = next := by
  obtain ⟨start, equal⟩ := scanned.after_eq
  rw [equal]

end Lexeme.Next

/-! ### Basic recognisers -/

namespace Recogniser

variable {α β : Type} (cursor : Cursor)

@[simp] theorem bind_apply
    (recogniser : Recogniser α)
    (continuation : α → Recogniser β) :
    (recogniser >>= continuation) cursor =
      (recogniser cursor).bind fun found => continuation found.1 found.2 :=
  rfl

@[simp] theorem map_apply
    (transform : α → β)
    (recogniser : Recogniser α) :
    (transform <$> recogniser) cursor =
      (recogniser cursor).map fun found => (transform found.1, found.2) := by
  show (recogniser cursor).bind _ = _
  cases recogniser cursor <;> rfl

@[simp] theorem pure_apply
    (value : α) :
    (pure value : Recogniser α) cursor = some (value, cursor) :=
  rfl

@[simp] theorem failure_apply :
    (failure : Recogniser α) cursor = none :=
  rfl

@[simp] theorem ite_apply
    (condition : Prop)
    [Decidable condition]
    (positive negative : Recogniser α) :
    (if condition then positive else negative) cursor =
      if condition then positive cursor else negative cursor := by
  split <;> rfl

@[simp] theorem kind_apply :
    kind cursor = some (cursor.kind, cursor) :=
  rfl

@[simp] theorem advance_apply :
    advance cursor = some ((), .after cursor.stop) :=
  rfl

@[simp] theorem start_apply :
    start cursor = some (cursor.start.offset, cursor) :=
  rfl

@[simp] theorem spanFrom_apply
    (offset : Nat) :
    spanFrom offset cursor = some (⟨offset, cursor.previous.offset⟩, cursor) :=
  rfl

@[simp] theorem afterNewline_apply :
    afterNewline cursor = some (cursor.newline, cursor) :=
  rfl

@[simp] theorem atPunctuator_apply
    (which : Punctuator) :
    atPunctuator which cursor = some (cursor.kind == .punctuator which, cursor) :=
  rfl

@[simp] theorem atWord_apply
    (word : String) :
    atWord word cursor = some (cursor.kind == .name word false, cursor) :=
  rfl

@[simp] theorem atEnd_apply :
    atEnd cursor = some (cursor.kind == .endOfText, cursor) :=
  rfl

@[simp] theorem eat_apply
    (which : Punctuator) :
    eat which cursor =
      if cursor.kind == .punctuator which then some (true, .after cursor.stop)
      else some (false, cursor) := by
  simp [eat]

@[simp] theorem eatWord_apply
    (word : String) :
    eatWord word cursor =
      if cursor.kind == .name word false then some (true, .after cursor.stop)
      else some (false, cursor) := by
  simp [eatWord]

@[simp] theorem check_apply
    (condition : Bool) :
    check condition cursor = if condition then some ((), cursor) else none := by
  simp [check]

@[simp] theorem expect_apply
    (which : Punctuator) :
    expect which cursor =
      if cursor.kind == .punctuator which then some ((), .after cursor.stop) else none := by
  simp only [expect, bind_apply, eat_apply]
  split <;> simp

@[simp] theorem expectWord_apply
    (word : String) :
    expectWord word cursor =
      if cursor.kind == .name word false then some ((), .after cursor.stop) else none := by
  simp only [expectWord, bind_apply, eatWord_apply]
  split <;> simp

@[simp] theorem attempt_apply
    (recogniser : Recogniser α) :
    attempt recogniser cursor =
      match recogniser cursor with
      | some (value, moved) => some (some value, moved)
      | none => some (none, cursor) :=
  rfl

@[simp] theorem follows_apply
    (recogniser : Recogniser Bool) :
    follows recogniser cursor =
      match recogniser cursor with
      | some (value, _) => some (value, cursor)
      | none => some (false, cursor) :=
  rfl

theorem eatAny_eq_false
    {cursor : Cursor}
    {which : List Punctuator}
    (other : ∀ found ∈ which, cursor.kind ≠ .punctuator found) :
    eatAny which cursor = some (false, cursor) := by
  rw [eatAny, bind_apply, kind_apply, Option.bind_some]
  cases kind : cursor.kind with
  | punctuator found =>
      have absent : found ∉ which := fun present => other found present kind
      simp [absent]
  | _ => rfl

/-! ### Lists -/

theorem repeatUntil_succ
    (condition : Recogniser Bool)
    (item : Recogniser (List α))
    (count : Nat) :
    repeatUntil condition item (count + 1) cursor =
      (condition cursor).bind fun found =>
        if found.1 then some ([], found.2)
        else (item found.2).bind fun first =>
          (repeatUntil condition item count first.2).map fun rest => (first.1 ++ rest.1, rest.2) := by
  simp [repeatUntil]

variable {close : Punctuator} {item : Recogniser (List α)} {found : List α}
  {first middle last : Place}

/-- The last item of a list stands before the punctuator that closes the list. -/
theorem listUntil_last
    (count : Nat)
    (opens : (Cursor.after first).kind ≠ .punctuator close)
    (run : item (.after first) = some (found, .after last))
    (closes : (Cursor.after last).kind = .punctuator close)
    (noComma : close ≠ .comma) :
    listUntil close item (count + 2) (.after first) =
      some (found, .after (Cursor.after last).stop) := by
  simp [listUntil, repeatUntil_succ, opens, run, closes, noComma]

/-- Another item of a list stands before a comma. -/
theorem listUntil_cons
    (count : Nat)
    (opens : (Cursor.after first).kind ≠ .punctuator close)
    (run : item (.after first) = some (found, .after middle))
    (comma : Lexeme.comma.Next middle last) :
    listUntil close item (count + 1) (.after first) =
      (listUntil close item count (.after last)).map fun rest => (found ++ rest.1, rest.2) := by
  simp [listUntil, repeatUntil_succ, opens, run, comma.kind, comma.stop]

/-- Without a first item there is no list. -/
theorem listUntil_eq_none
    {cursor : Cursor}
    (count : Nat)
    (opens : cursor.kind ≠ .punctuator close)
    (run : item cursor = none) :
    listUntil close item count cursor = none := by
  cases count with
  | zero => rfl
  | succ count => simp [listUntil, repeatUntil_succ, opens, run]

theorem listUntil_nil
    (count : Nat)
    (closes : (Cursor.after first).kind = .punctuator close) :
    listUntil close item (count + 1) (.after first) =
      some ([], .after (Cursor.after first).stop) := by
  simp [listUntil, repeatUntil_succ, closes]

end Recogniser

end Script
end MessageExpansion
