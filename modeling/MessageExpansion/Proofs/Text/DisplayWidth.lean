import MessageExpansion.Text.DisplayWidth
import MessageExpansion.Text.IdentifierName

/-!
# Widths of texts that are joined

The width of a text depends on its characters and on what is drawn together.  A character may take
back room that was counted for the letter behind it, but no more than that.  In front of a character
that is never drawn together with its neighbours, widths add up.
-/

namespace MessageExpansion
namespace Text

/-- What holds of the characters below a bound, checked one by one, holds of each of them. -/
theorem forall_below
    {bound : Nat}
    (holds : Char → Prop)
    (checked : ∀ point : Fin bound, holds (Char.ofNat point))
    {c : Char}
    (below : c.toNat < bound) :
    holds c := by
  have held := checked ⟨c.toNat, below⟩
  rwa [Char.ofNat_toNat] at held

/-- What holds of the characters of a table, checked one by one, holds of each of them. -/
theorem RangeTable.forall_contains
    {table : RangeTable}
    (holds : Char → Prop)
    (checked : ∀ range ∈ table, ∀ k : Fin (range.2 + 1 - range.1), holds (Char.ofNat (range.1 + k)))
    {c : Char}
    (present : table.contains c = true) :
    holds c := by
  unfold contains at present
  induction table with
  | nil => cases present
  | cons range rest inductionHypothesis =>
      obtain ⟨first, last⟩ := range
      rw [List.forall_mem_cons] at checked
      rw [containsPoint] at present
      split at present
      · cases present
      · split at present
        · have index : first + (c.toNat - first) = c.toNat := by omega
          have held := checked.1 ⟨c.toNat - first, by simp only; omega⟩
          simp only [index, Char.ofNat_toNat] at held
          exact held
        · exact inductionHypothesis checked.2 present

/-! ### Room that is taken back -/

/-- The column that a letter takes until it is drawn below or over the one before it. -/
def Letter.owed : Letter → Nat
  | .subjoined | .joinedTifinagh => 1
  | _ => 0

/-- The columns that the right character before this one takes back. -/
def Sign.owed : Sign → Nat
  | .joinedLetter => 1
  | .joinedFlags odd => if odd then 1 else 0
  | .part letter _ => letter.owed
  | _ => 0

/-- A letter that may be drawn below another one takes a column on its own. -/
theorem Letter.owed_ofChar?
    {c : Char}
    {letter : Letter}
    (known : ofChar? c = some letter) :
    letter.owed ≤ charWidth 1 c := by
  cases letter with
  | subjoined =>
      have below : subjoinedRanges.contains c = true := by grind [ofChar?]
      exact RangeTable.forall_contains (fun c => 1 ≤ charWidth 1 c) (by decide +kernel) below
  | joinedTifinagh => grind [ofChar?]
  | _ => exact Nat.zero_le _

theorem Sign.owed_ofChar
    (c : Char) :
    (ofChar c).owed ≤ charWidth 1 c := by
  have own : ∀ letter, Letter.ofChar? c = some letter → (part letter false).owed ≤ charWidth 1 c :=
    fun _ known => Letter.owed_ofChar? known
  grind [ofChar, owed]

theorem Letter.owed_joins?
    {letter : Letter}
    {behindJoiner : Bool}
    {c : Char}
    {columns : Int}
    {sign : Sign}
    (joins : letter.joins? behindJoiner c = some (columns, sign)) :
    sign.owed ≤ letter.owed + columns := by
  cases letter <;> grind [joins?, owed, Sign.owed]

theorem Sign.owed_joins?
    {sign next : Sign}
    {c : Char}
    {columns : Int}
    (joins : sign.joins? c = some (columns, next)) :
    next.owed ≤ sign.owed + columns := by
  cases sign <;> grind [joins?, owed, → Letter.owed_joins?]

/-- A variation selector may hide what is behind it, but owes no more than that. -/
theorem Sign.owed_select_le
    (sign : Sign)
    (selector : Selector) :
    (sign.select selector).sign.owed ≤ sign.owed := by
  unfold select
  split
  next => exact Nat.le_refl _
  next => exact Nat.zero_le _

theorem Follower.owed_unselected_le
    (follower : Follower) :
    follower.unselected.owed ≤ follower.sign.owed := by
  unfold unselected
  split
  next => exact Nat.zero_le _
  next => exact Nat.le_refl _

theorem Follower.owed_shows?
    {follower : Follower}
    {c : Char}
    {columns : Int}
    {sign : Sign}
    (shows : follower.shows? c = some (columns, sign)) :
    sign.owed ≤ follower.sign.owed + columns := by
  grind [shows?, Sign.owed]

/-- No character takes back more than was counted for what is behind it. -/
theorem owed_widthBefore_le
    (c : Char)
    (follower : Follower) :
    (widthBefore c follower).2.sign.owed ≤ follower.sign.owed + (widthBefore c follower).1 := by
  have hidden := follower.owed_unselected_le
  unfold widthBefore
  split
  next columns sign shows => exact Follower.owed_shows? shows
  next =>
    split
    next selector _ =>
      have selected := follower.unselected.owed_select_le selector
      simp only
      omega
    next =>
      split
      next columns sign joins =>
        have joined := Sign.owed_joins? joins
        simp only
        omega
      next =>
        have own := Sign.owed_ofChar c
        simp only [lone]
        omega

/-- So what a text may still take back has been counted. -/
theorem owed_measure_le
    (text : List Char) :
    (measure text).2.sign.owed ≤ (measure text).1 := by
  induction text with
  | nil => decide
  | cons c rest inductionHypothesis =>
      have step := owed_widthBefore_le c (measure rest).2
      simp only [measure]
      omega

/-- A text takes as many columns as are counted. -/
theorem textWidth_eq
    (text : List Char) :
    (textWidth text : Int) = (measure text).1 := by
  have counted := owed_measure_le text
  exact Int.toNat_of_nonneg (by omega)

/-! ### Characters that stand alone -/

/-- A character that takes room and is drawn apart from the one before it, whatever follows. -/
def StandsAlone (c : Char) : Prop :=
  ∀ follower, 0 < (widthBefore c follower).1 ∧ (widthBefore c follower).2 = .plain

/-- A character of ASCII that does not end a line is no part of a ligature or of a joined emoji. -/
theorem Sign.joins?_of_ascii
    {c : Char}
    (ascii : c.toNat < 128)
    (noReturn : c ≠ '\r')
    (sign : Sign) :
    sign.joins? c = none := by
  have absent := forall_below
    (fun c => c ≠ joiner ∧ isZeroWidth c = false ∧ emojiRanges.contains c = false ∧
      modifierBaseRanges.contains c = false ∧ lamRanges.contains c = false ∧
      tifinaghRanges.contains c = false ∧ invisibleMarkRanges.contains c = false)
    (by decide +kernel) ascii
  cases sign with
  | part letter behindJoiner => cases letter <;> grind [joins?, Letter.joins?]
  | _ => grind [joins?, isFlagLetter, isSkinTone, isTagLetter, isTagDigit]

/-- The first letter of a name stands alone if it is one of ASCII. -/
theorem standsAlone_of_isIdentifierStart
    {c : Char}
    (begins : isIdentifierStart c = true)
    (ascii : c.toNat < 128) :
    StandsAlone c := by
  obtain ⟨noReturn, noSelector, absent, single⟩ := forall_below
    (fun c => isIdentifierStart c = true → c ≠ '\r' ∧ Selector.ofChar? c = none ∧
      (textEmojiRanges.contains c = false ∧ selectableEmojiRanges.contains c = false ∧
        quotationMarkRanges.contains c = false) ∧ lone c = (1, .plain))
    (by decide +kernel) ascii begins
  intro follower
  have shows : follower.shows? c = none := by grind [Follower.shows?]
  have alone : widthBefore c follower = (1, .plain) := by
    simp only [widthBefore, shows, noSelector, Sign.joins?_of_ascii ascii noReturn, single]
  rw [alone]
  exact ⟨Int.one_pos, rfl⟩

/-! ### Texts that are joined -/

/-- In front of what is drawn apart, widths add up. -/
theorem measure_append
    (front : List Char)
    {back : List Char}
    (apart : (measure back).2 = .plain) :
    measure (front ++ back) = ((measure front).1 + (measure back).1, (measure front).2) := by
  induction front with
  | nil => simp [measure, ← apart]
  | cons c rest inductionHypothesis =>
      simp only [List.cons_append, measure, inductionHypothesis]
      rw [Int.add_right_comm]

theorem textWidth_append
    (front : List Char)
    {back : List Char}
    (apart : (measure back).2 = .plain) :
    textWidth (front ++ back) = textWidth front + textWidth back := by
  have sum : (textWidth (front ++ back) : Int) = textWidth front + textWidth back := by
    simp only [textWidth_eq, measure_append front apart]
  exact Int.ofNat_inj.mp sum

/-- A text that begins with a character that stands alone takes room, and is drawn apart from what
is before it. -/
theorem apart_cons
    {c : Char}
    (alone : StandsAlone c)
    (rest : List Char) :
    0 < textWidth (c :: rest) ∧ (measure (c :: rest)).2 = .plain := by
  obtain ⟨positive, apart⟩ := alone (measure rest).2
  have whole : (textWidth (c :: rest) : Int) =
      textWidth rest + (widthBefore c (measure rest).2).1 := by
    rw [textWidth_eq, textWidth_eq, measure]
  exact ⟨by omega, apart⟩

/-- A character that every keyboard has: a blank, or a visible character of ASCII. -/
def IsVisibleAscii (c : Char) : Prop := 0x20 ≤ c.toNat ∧ c.toNat < 0x7F

instance : DecidablePred IsVisibleAscii := fun _ => inferInstanceAs (Decidable (_ ∧ _))

/-- Between such characters, each takes one column and is drawn apart from the one before it. -/
theorem widthBefore_plain_of_isVisibleAscii
    {c : Char}
    (visible : IsVisibleAscii c) :
    widthBefore c .plain = (1, .plain) :=
  forall_below (fun c => IsVisibleAscii c → widthBefore c .plain = (1, .plain)) (by decide +kernel)
    visible.2 visible

/-- A text of such characters takes as many columns as it has characters. -/
theorem textWidth_of_isVisibleAscii
    {text : List Char}
    (visible : ∀ c ∈ text, IsVisibleAscii c) :
    textWidth text = text.length := by
  have counted : measure text = ((text.length : Int), .plain) := by
    induction text with
    | nil => rfl
    | cons c rest inductionHypothesis =>
        obtain ⟨first, others⟩ := List.forall_mem_cons.mp visible
        simp only [measure, inductionHypothesis others, widthBefore_plain_of_isVisibleAscii first,
          List.length_cons, Int.natCast_succ]
  rw [textWidth, counted, Int.toNat_natCast]

end Text
end MessageExpansion
