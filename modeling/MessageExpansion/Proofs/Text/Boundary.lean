import MessageExpansion.Text.Bytes

/-!
# Boundaries between characters

A text can be cut at the byte offsets where one of its characters begins or where it ends.  Cutting
at two such offsets, the earlier one first, takes the text apart into three pieces of known length,
and `slice` returns the middle one.
-/

namespace MessageExpansion
namespace Text

/-- A text can be cut at an offset: some front part of it has that many bytes. -/
def IsBoundary (text : List Char) (offset : Nat) : Prop :=
  ∃ front back, text = front ++ back ∧ byteLength front = offset

/-- A character of a text stands at an offset. -/
def HasAt (text : List Char) (offset : Nat) (c : Char) : Prop :=
  ∃ front back, text = front ++ c :: back ∧ byteLength front = offset

/-- Only the empty text has no bytes. -/
theorem eq_nil_of_byteLength_eq_zero
    {text : List Char}
    (empty : byteLength text = 0) :
    text = [] := by
  cases text with
  | nil => rfl
  | cons c rest =>
      have positive : 0 < c.utf8Size := c.utf8Size_pos
      rw [byteLength_cons] at empty
      omega

/-- Taking as many bytes as a front part has returns that part. -/
theorem takeBytes_append
    (front back : List Char) :
    takeBytes (byteLength front) (front ++ back) = front := by
  have whole := takeBytes_append_dropBytes (byteLength front) (front ++ back)
  rw [dropBytes_append] at whole
  exact List.append_cancel_right whole

/-- Front parts of a text with as many bytes are the same, and so is what follows them. -/
theorem append_inj_of_byteLength
    {front back other behind : List Char}
    (same : front ++ back = other ++ behind)
    (length : byteLength front = byteLength other) :
    front = other ∧ back = behind := by
  have fronts : front = other := by
    rw [← takeBytes_append front back, same, length, takeBytes_append]
  subst fronts
  exact ⟨rfl, List.append_cancel_left same⟩

/-- A text can be cut at an offset exactly if there is a front part of that length. -/
theorem isBoundary_iff
    {text : List Char}
    {offset : Nat} :
    IsBoundary text offset ↔ byteLength (takeBytes offset text) = offset := by
  constructor
  · rintro ⟨front, back, rfl, rfl⟩
    rw [takeBytes_append]
  · intro size
    exact ⟨takeBytes offset text, dropBytes offset text,
      (takeBytes_append_dropBytes offset text).symm, size⟩

instance (text : List Char) (offset : Nat) : Decidable (IsBoundary text offset) :=
  decidable_of_iff _ isBoundary_iff.symm

/-- Every text can be cut at its start. -/
theorem isBoundary_zero
    (text : List Char) :
    IsBoundary text 0 :=
  ⟨[], text, rfl, rfl⟩

/-- Every text can be cut at its end. -/
theorem isBoundary_byteLength
    (text : List Char) :
    IsBoundary text (byteLength text) :=
  ⟨text, [], (List.append_nil text).symm, rfl⟩

namespace IsBoundary

variable {text : List Char} {start stop : Nat}

/-- A text is cut nowhere behind its end. -/
theorem le_byteLength
    (boundary : IsBoundary text stop) :
    stop ≤ byteLength text := by
  obtain ⟨front, back, rfl, rfl⟩ := boundary
  rw [byteLength_append]
  omega

/-- Two boundaries in order cut a text into three pieces. -/
theorem cut
    (first : IsBoundary text start)
    (second : IsBoundary text stop)
    (le : start ≤ stop) :
    ∃ front middle back, text = front ++ (middle ++ back) ∧
      byteLength front = start ∧ start + byteLength middle = stop := by
  obtain ⟨front, rest, equal, rfl⟩ := first
  obtain ⟨longer, back, split, rfl⟩ := second
  rw [equal, List.append_eq_append_iff] at split
  rcases split with ⟨middle, rfl, rfl⟩ | ⟨middle, rfl, rfl⟩
  · exact ⟨front, middle, back, equal, rfl, (byteLength_append front middle).symm⟩
  · have noBytes : byteLength middle = 0 := by
      rw [byteLength_append] at le
      omega
    have noText : middle = [] := eq_nil_of_byteLength_eq_zero noBytes
    subst noText
    exact ⟨longer, [], rest, by simpa using equal, by simp, by simp⟩

/-- A boundary behind a front part cuts what follows that part. -/
theorem split_behind
    {front rest : List Char}
    (boundary : IsBoundary text stop)
    (split : text = front ++ rest)
    (le : byteLength front ≤ stop) :
    ∃ middle back, rest = middle ++ back ∧ byteLength (front ++ middle) = stop := by
  obtain ⟨longer, back, equal, rfl⟩ := boundary
  rw [split, List.append_eq_append_iff] at equal
  rcases equal with ⟨middle, rfl, rest⟩ | ⟨middle, rfl, rest⟩
  · exact ⟨middle, back, rest, rfl⟩
  · have noBytes : byteLength middle = 0 := by
      rw [byteLength_append] at le
      omega
    have noText : middle = [] := eq_nil_of_byteLength_eq_zero noBytes
    subst noText
    exact ⟨[], _, rfl, by simp⟩

end IsBoundary

/-- The slice between the two cuts of a text is its middle piece. -/
theorem slice_append
    (front middle back : List Char) :
    slice (byteLength front) (byteLength front + byteLength middle) (front ++ (middle ++ back)) =
      middle := by
  rw [slice, dropBytes_append, Nat.add_sub_cancel_left, takeBytes_append]

/-- A slice that starts and ends at one offset is empty. -/
theorem slice_self
    (offset : Nat)
    (text : List Char) :
    slice offset offset text = [] := by
  rw [slice, Nat.sub_self]
  cases dropBytes offset text <;> simp [takeBytes]

/-- The slice from start to end is the whole text. -/
theorem slice_zero_byteLength
    (text : List Char) :
    slice 0 (byteLength text) text = text := by
  have whole := slice_append [] text []
  simpa using whole

/-- The length of a slice between boundaries is their distance. -/
theorem byteLength_slice
    {text : List Char}
    {start stop : Nat}
    (first : IsBoundary text start)
    (second : IsBoundary text stop)
    (le : start ≤ stop) :
    start + byteLength (slice start stop text) = stop := by
  obtain ⟨front, middle, back, rfl, rfl, rfl⟩ := first.cut second le
  rw [slice_append]

/-- Consecutive slices join to one slice. -/
theorem slice_append_slice
    {text : List Char}
    {start middle stop : Nat}
    (first : IsBoundary text start)
    (second : IsBoundary text middle)
    (third : IsBoundary text stop)
    (startLe : start ≤ middle)
    (middleLe : middle ≤ stop) :
    slice start middle text ++ slice middle stop text = slice start stop text := by
  obtain ⟨front, left, rest, equal, rfl, rfl⟩ := first.cut second startLe
  obtain ⟨longer, right, back, split, reach, rfl⟩ := second.cut third middleLe
  have reaches : byteLength (front ++ left) = byteLength front + byteLength left :=
    byteLength_append front left
  -- The front of the second cut is that of the first with the first slice behind it.
  have same : longer = front ++ left := by
    calc longer
        = takeBytes (byteLength front + byteLength left) text := by
          rw [split, ← reach, takeBytes_append]
      _ = front ++ left := by
          rw [equal, ← reaches, ← List.append_assoc, takeBytes_append]
  have whole : slice (byteLength front) (byteLength front + byteLength (left ++ right))
      (front ++ ((left ++ right) ++ back)) = left ++ right := slice_append _ _ _
  have joined : text = front ++ ((left ++ right) ++ back) := by
    rw [split, same]
    simp only [List.append_assoc]
  have firstSlice : slice (byteLength front) (byteLength front + byteLength left) text = left := by
    rw [equal, slice_append]
  have secondSlice : slice (byteLength front + byteLength left)
      (byteLength front + byteLength left + byteLength right) text = right := by
    rw [split, ← reach, slice_append]
  rw [firstSlice, secondSlice, Nat.add_assoc, ← byteLength_append, joined, whole]

end Text
end MessageExpansion
