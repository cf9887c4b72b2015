import MessageExpansion.Proofs.Script.Places

/-!
# Cursors that move on

A cursor stands at a token of a text when the token and the end of the one before it are places of
the text.  Moving it keeps it standing, and nothing that it passed over comes back.
-/

namespace MessageExpansion
namespace Script

/-- The text that is read.  Most facts about reading hold of one text throughout, so it is found
as an instance and not passed along. -/
class Source where
  /-- The characters of the text. -/
  text : List Char

namespace Place

variable {place : Place} {text : List Char}

theorem IsIn.of_reaches
    {last : Place}
    (isIn : place.IsIn text)
    (reaches : place.Reaches last) :
    last.IsIn text :=
  Reaches.trans isIn reaches

@[grind ←] theorem IsIn.skip
    (isIn : place.IsIn text)
    (count : Nat) :
    (place.skip count).IsIn text :=
  isIn.of_reaches (place.reaches_skip count)

@[grind ←] theorem IsIn.skipWhile
    (isIn : place.IsIn text)
    (test : Char → Bool) :
    (place.skipWhile test).IsIn text :=
  isIn.of_reaches (place.reaches_skipWhile test)

theorem le_skip
    (place : Place)
    (count : Nat) :
    place.offset ≤ (place.skip count).offset :=
  (place.reaches_skip count).le

theorem le_skipWhile
    (place : Place)
    (test : Char → Bool) :
    place.offset ≤ (place.skipWhile test).offset :=
  (place.reaches_skipWhile test).le

grind_pattern le_skip => place.skip count
grind_pattern le_skipWhile => place.skipWhile test

end Place

namespace Cursor

/-- What `Cursor.after` reads: a gap, and a token behind it. -/
structure Follows (cursor : Cursor) (place : Place) : Prop where
  previous : cursor.previous = place
  start : place.Reaches cursor.start
  stop : cursor.start.Reaches cursor.stop
  /-- Punctuators are not empty. -/
  punctuator : ∀ which, cursor.kind = .punctuator which → cursor.start.offset < cursor.stop.offset
  name : ∀ text escaped, cursor.kind = .name text escaped → IsNameText text.toList
  /-- A token begins with no line feed. -/
  begins : cursor.kind ≠ .invalid → cursor.kind ≠ .endOfText →
    ∃ c rest, cursor.start.rest = c :: rest ∧ c ≠ '\n'
  closes : cursor.kind = .punctuator .closeParen →
    ∃ rest, cursor.start.rest = ')' :: rest ∧ cursor.stop = ⟨cursor.start.offset + 1, rest⟩

theorem follows_after
    (place : Place) :
    (after place).Follows place := by
  unfold after
  split
  · exact ⟨rfl, .refl place, place.reaches_skip _, nofun, nofun,
      fun valid => absurd rfl valid, nofun⟩
  · next newline start skipped =>
      refine ⟨rfl, reaches_skipGap skipped, reaches_tokenAt _,
        fun which found => lt_tokenAt_of_punctuator found,
        fun text escaped found => isNameText_of_tokenAt found, fun _ more => ?_,
        fun found => tokenAt_of_closeParen found⟩
      have noFeed := head?_of_skipGap skipped
      cases begins : start.rest with
      | nil => exact absurd (by simp [tokenAt, begins]) more
      | cons c rest =>
          rw [begins] at noFeed
          exact ⟨c, rest, rfl, fun feed => noFeed (congrArg some feed)⟩

@[grind =] theorem previous_after
    (place : Place) :
    (after place).previous = place :=
  (follows_after place).previous

theorem le_start_after
    (place : Place) :
    place.offset ≤ (after place).start.offset :=
  (follows_after place).start.le

grind_pattern le_start_after => after place

variable [Source]

/-- The cursor stands at a token of the text. -/
structure Stands (cursor : Cursor) : Prop where
  start : cursor.start.IsIn Source.text
  stop : cursor.stop.IsIn Source.text
  previous : cursor.previous.IsIn Source.text
  previousLe : cursor.previous.offset ≤ cursor.start.offset
  startLe : cursor.start.offset ≤ cursor.stop.offset
  punctuator : ∀ which, cursor.kind = .punctuator which → cursor.start.offset < cursor.stop.offset
  name : ∀ text escaped, cursor.kind = .name text escaped → IsNameText text.toList
  begins : cursor.kind ≠ .invalid → cursor.kind ≠ .endOfText →
    GoesOn Source.text cursor.start.offset
  closes : cursor.kind = .punctuator .closeParen → Closes Source.text cursor.stop.offset

attribute [grind →] Stands.previousLe Stands.startLe

@[grind ←] theorem stands_after
    {place : Place}
    (isIn : place.IsIn Source.text) :
    (after place).Stands := by
  obtain ⟨previous, start, stop, punctuator, name, begins, closes⟩ := follows_after place
  have startIn := isIn.of_reaches start
  refine ⟨startIn, startIn.of_reaches stop, ?_, ?_, stop.le, punctuator, name, ?_, ?_⟩
  · rw [previous]
    exact isIn
  · rw [previous]
    exact start.le
  · intro valid more
    obtain ⟨c, rest, equal, noFeed⟩ := begins valid more
    exact ⟨c, startIn.hasAt equal, noFeed⟩
  · intro kind
    obtain ⟨rest, equal, stops⟩ := closes kind
    exact ⟨_, by rw [stops], startIn.hasAt equal⟩

/-- An angle bracket can be cut off from a token that begins with it. -/
theorem Stands.split
    {cursor : Cursor}
    (stands : cursor.Stands)
    (angle : cursor.start.rest.head? = some '>') :
    Stands { cursor with kind := .punctuator .greater, stop := cursor.start.skip 1 } := by
  obtain ⟨rest, begins⟩ := List.head?_eq_some_iff.mp angle
  exact ⟨stands.start, stands.start.skip 1, stands.previous, stands.previousLe,
    cursor.start.le_skip 1, fun _ _ => Place.lt_skip Nat.one_pos (by simp [begins]), nofun,
    fun _ _ => ⟨'>', stands.start.hasAt begins, by decide⟩, nofun⟩

/-- The second cursor stands at the token of the first one or behind it. -/
structure Leads (first last : Cursor) : Prop where
  stands : last.Stands
  start : first.start.offset ≤ last.start.offset
  previous : first.previous.offset ≤ last.previous.offset

@[grind =] theorem leads_iff
    {first last : Cursor} :
    first.Leads last ↔ last.Stands ∧ first.start.offset ≤ last.start.offset ∧
      first.previous.offset ≤ last.previous.offset :=
  ⟨fun leads => ⟨leads.stands, leads.start, leads.previous⟩,
    fun parts => ⟨parts.1, parts.2.1, parts.2.2⟩⟩

end Cursor
end Script
end MessageExpansion
