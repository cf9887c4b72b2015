/-!
# Byte offsets

Offsets into a text count the bytes of its UTF-8 form, while the text itself is a list of
characters.  This module measures lists of characters in bytes and cuts them at byte offsets.
-/

namespace MessageExpansion
namespace Text

/-- The number of bytes of a text. -/
def byteLength : List Char → Nat
  | [] => 0
  | c :: rest => c.utf8Size + byteLength rest

@[simp] theorem byteLength_nil : byteLength [] = 0 := rfl

@[simp] theorem byteLength_cons (c : Char) (rest : List Char) :
    byteLength (c :: rest) = c.utf8Size + byteLength rest := rfl

/-- Byte lengths add up under concatenation. -/
@[simp] theorem byteLength_append (front back : List Char) :
    byteLength (front ++ back) = byteLength front + byteLength back := by
  induction front with
  | nil => simp
  | cons c rest ih => simp [ih, Nat.add_assoc]

/-- The text from a byte offset on. -/
def dropBytes : Nat → List Char → List Char
  | _, [] => []
  | offset, c :: rest =>
      if offset = 0 then c :: rest else dropBytes (offset - c.utf8Size) rest

/-- The text before a byte offset. -/
def takeBytes : Nat → List Char → List Char
  | _, [] => []
  | offset, c :: rest =>
      if offset = 0 then [] else c :: takeBytes (offset - c.utf8Size) rest

/-- The text between two byte offsets. -/
def slice (start stop : Nat) (text : List Char) : List Char :=
  takeBytes (stop - start) (dropBytes start text)

/-- Cutting a text at an offset loses nothing. -/
theorem takeBytes_append_dropBytes (offset : Nat) (text : List Char) :
    takeBytes offset text ++ dropBytes offset text = text := by
  induction text generalizing offset with
  | nil => simp [takeBytes, dropBytes]
  | cons c rest ih =>
      by_cases h : offset = 0
      · simp [takeBytes, dropBytes, h]
      · simp [takeBytes, dropBytes, h, ih]

/-- Dropping a whole front part leaves the back part. -/
theorem dropBytes_append (front back : List Char) :
    dropBytes (byteLength front) (front ++ back) = back := by
  induction front with
  | nil => cases back <;> simp [dropBytes]
  | cons c rest ih =>
      have positive : 0 < c.utf8Size := c.utf8Size_pos
      have nonzero : ¬ (c.utf8Size + byteLength rest = 0) := by omega
      rw [byteLength_cons, List.cons_append, dropBytes, if_neg nonzero, Nat.add_sub_cancel_left, ih]

end Text
end MessageExpansion
