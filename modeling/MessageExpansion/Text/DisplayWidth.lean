import MessageExpansion.Text.Width

/-!
# Display width of texts

How many columns a whole text takes outside of East Asian contexts.  Most characters take their own
width, but characters that are drawn as one sign are counted together: emoji with what modifies or
joins them, characters with a variation selector, and the ligatures of some scripts.  A text is read
from its end, since the characters behind a character decide how it is drawn.
-/

namespace MessageExpansion
namespace Text

/-- Code points that are drawn as emoji only where a variation selector follows them. -/
def textEmojiRanges : RangeTable := [
  (0x23, 0x23), (0x2A, 0x2A), (0x30, 0x39), (0xA9, 0xA9), (0xAE, 0xAE), (0x203C, 0x203C),
  (0x2049, 0x2049), (0x2122, 0x2122), (0x2139, 0x2139), (0x2194, 0x2199), (0x21A9, 0x21AA),
  (0x2328, 0x2328), (0x23CF, 0x23CF), (0x23ED, 0x23EF), (0x23F1, 0x23F2), (0x23F8, 0x23FA),
  (0x24C2, 0x24C2), (0x25AA, 0x25AB), (0x25B6, 0x25B6), (0x25C0, 0x25C0), (0x25FB, 0x25FC),
  (0x2600, 0x2604), (0x260E, 0x260E), (0x2611, 0x2611), (0x2618, 0x2618), (0x261D, 0x261D),
  (0x2620, 0x2620), (0x2622, 0x2623), (0x2626, 0x2626), (0x262A, 0x262A), (0x262E, 0x262F),
  (0x2638, 0x263A), (0x2640, 0x2640), (0x2642, 0x2642), (0x265F, 0x2660), (0x2663, 0x2663),
  (0x2665, 0x2666), (0x2668, 0x2668), (0x267B, 0x267B), (0x267E, 0x267E), (0x2692, 0x2692),
  (0x2694, 0x2697), (0x2699, 0x2699), (0x269B, 0x269C), (0x26A0, 0x26A0), (0x26A7, 0x26A7),
  (0x26B0, 0x26B1), (0x26C8, 0x26C8), (0x26CF, 0x26CF), (0x26D1, 0x26D1), (0x26D3, 0x26D3),
  (0x26E9, 0x26E9), (0x26F0, 0x26F1), (0x26F4, 0x26F4), (0x26F7, 0x26F9), (0x2702, 0x2702),
  (0x2708, 0x2709), (0x270C, 0x270D), (0x270F, 0x270F), (0x2712, 0x2712), (0x2714, 0x2714),
  (0x2716, 0x2716), (0x271D, 0x271D), (0x2721, 0x2721), (0x2733, 0x2734), (0x2744, 0x2744),
  (0x2747, 0x2747), (0x2763, 0x2764), (0x27A1, 0x27A1), (0x2934, 0x2935), (0x2B05, 0x2B07),
  (0x3030, 0x3030), (0x303D, 0x303D), (0x3297, 0x3297), (0x3299, 0x3299), (0x1F170, 0x1F171),
  (0x1F17E, 0x1F17F), (0x1F202, 0x1F202), (0x1F237, 0x1F237), (0x1F321, 0x1F321),
  (0x1F324, 0x1F32C), (0x1F336, 0x1F336), (0x1F37D, 0x1F37D), (0x1F396, 0x1F397),
  (0x1F399, 0x1F39B), (0x1F39E, 0x1F39F), (0x1F3CB, 0x1F3CE), (0x1F3D4, 0x1F3DF),
  (0x1F3F3, 0x1F3F3), (0x1F3F5, 0x1F3F5), (0x1F3F7, 0x1F3F7), (0x1F43F, 0x1F43F),
  (0x1F441, 0x1F441), (0x1F4FD, 0x1F4FD), (0x1F549, 0x1F54A), (0x1F56F, 0x1F570),
  (0x1F573, 0x1F579), (0x1F587, 0x1F587), (0x1F58A, 0x1F58D), (0x1F590, 0x1F590),
  (0x1F5A5, 0x1F5A5), (0x1F5A8, 0x1F5A8), (0x1F5B1, 0x1F5B2), (0x1F5BC, 0x1F5BC),
  (0x1F5C2, 0x1F5C4), (0x1F5D1, 0x1F5D3), (0x1F5DC, 0x1F5DE), (0x1F5E1, 0x1F5E1),
  (0x1F5E3, 0x1F5E3), (0x1F5E8, 0x1F5E8), (0x1F5EF, 0x1F5EF), (0x1F5F3, 0x1F5F3),
  (0x1F5FA, 0x1F5FA), (0x1F6CB, 0x1F6CB), (0x1F6CD, 0x1F6CF), (0x1F6E0, 0x1F6E5),
  (0x1F6E9, 0x1F6E9), (0x1F6F0, 0x1F6F0), (0x1F6F3, 0x1F6F3)]

/-- Code points that are drawn as emoji, flags aside. -/
def emojiRanges : RangeTable := [
  (0x231A, 0x231B), (0x23E9, 0x23EC), (0x23F0, 0x23F0), (0x23F3, 0x23F3), (0x25FD, 0x25FE),
  (0x2614, 0x2615), (0x2648, 0x2653), (0x267F, 0x267F), (0x2693, 0x2693), (0x26A1, 0x26A1),
  (0x26AA, 0x26AB), (0x26BD, 0x26BE), (0x26C4, 0x26C5), (0x26CE, 0x26CE), (0x26D4, 0x26D4),
  (0x26EA, 0x26EA), (0x26F2, 0x26F3), (0x26F5, 0x26F5), (0x26FA, 0x26FA), (0x26FD, 0x26FD),
  (0x2705, 0x2705), (0x270A, 0x270B), (0x2728, 0x2728), (0x274C, 0x274C), (0x274E, 0x274E),
  (0x2753, 0x2755), (0x2757, 0x2757), (0x2795, 0x2797), (0x27B0, 0x27B0), (0x27BF, 0x27BF),
  (0x2B1B, 0x2B1C), (0x2B50, 0x2B50), (0x2B55, 0x2B55), (0x1F004, 0x1F004), (0x1F0CF, 0x1F0CF),
  (0x1F18E, 0x1F18E), (0x1F191, 0x1F19A), (0x1F201, 0x1F201), (0x1F21A, 0x1F21A),
  (0x1F22F, 0x1F22F), (0x1F232, 0x1F236), (0x1F238, 0x1F23A), (0x1F250, 0x1F251),
  (0x1F300, 0x1F320), (0x1F32D, 0x1F335), (0x1F337, 0x1F37C), (0x1F37E, 0x1F393),
  (0x1F3A0, 0x1F3CA), (0x1F3CF, 0x1F3D3), (0x1F3E0, 0x1F3F0), (0x1F3F4, 0x1F3F4),
  (0x1F3F8, 0x1F43E), (0x1F440, 0x1F440), (0x1F442, 0x1F4FC), (0x1F4FF, 0x1F53D),
  (0x1F54B, 0x1F54E), (0x1F550, 0x1F567), (0x1F57A, 0x1F57A), (0x1F595, 0x1F596),
  (0x1F5A4, 0x1F5A4), (0x1F5FB, 0x1F64F), (0x1F680, 0x1F6C5), (0x1F6CC, 0x1F6CC),
  (0x1F6D0, 0x1F6D2), (0x1F6D5, 0x1F6D8), (0x1F6DC, 0x1F6DF), (0x1F6EB, 0x1F6EC),
  (0x1F6F4, 0x1F6FC), (0x1F7E0, 0x1F7EB), (0x1F7F0, 0x1F7F0), (0x1F90C, 0x1F93A),
  (0x1F93C, 0x1F945), (0x1F947, 0x1F9FF), (0x1FA70, 0x1FA7C), (0x1FA80, 0x1FA8A),
  (0x1FA8E, 0x1FAC6), (0x1FAC8, 0x1FAC8), (0x1FACD, 0x1FADC), (0x1FADF, 0x1FAEA),
  (0x1FAEF, 0x1FAF8)]

/-- Code points that are drawn as emoji unless a variation selector says that they are text. -/
def selectableEmojiRanges : RangeTable := [
  (0x231A, 0x231B), (0x23E9, 0x23EC), (0x23F0, 0x23F0), (0x23F3, 0x23F3), (0x25FD, 0x25FE),
  (0x2614, 0x2615), (0x2648, 0x2653), (0x267F, 0x267F), (0x2693, 0x2693), (0x26A1, 0x26A1),
  (0x26AA, 0x26AB), (0x26BD, 0x26BE), (0x26C4, 0x26C5), (0x26CE, 0x26CE), (0x26D4, 0x26D4),
  (0x26EA, 0x26EA), (0x26F2, 0x26F3), (0x26F5, 0x26F5), (0x26FA, 0x26FA), (0x26FD, 0x26FD),
  (0x2705, 0x2705), (0x270A, 0x270B), (0x2728, 0x2728), (0x274C, 0x274C), (0x274E, 0x274E),
  (0x2753, 0x2755), (0x2757, 0x2757), (0x2795, 0x2797), (0x27B0, 0x27B0), (0x27BF, 0x27BF),
  (0x2B1B, 0x2B1C), (0x2B50, 0x2B50), (0x2B55, 0x2B55), (0x1F004, 0x1F004), (0x1F21A, 0x1F21A),
  (0x1F22F, 0x1F22F), (0x1F30D, 0x1F30F), (0x1F315, 0x1F315), (0x1F31C, 0x1F31C),
  (0x1F378, 0x1F378), (0x1F393, 0x1F393), (0x1F3A7, 0x1F3A7), (0x1F3AC, 0x1F3AE),
  (0x1F3C2, 0x1F3C2), (0x1F3C4, 0x1F3C4), (0x1F3C6, 0x1F3C6), (0x1F3CA, 0x1F3CA),
  (0x1F3E0, 0x1F3E0), (0x1F3ED, 0x1F3ED), (0x1F408, 0x1F408), (0x1F415, 0x1F415),
  (0x1F41F, 0x1F41F), (0x1F426, 0x1F426), (0x1F442, 0x1F442), (0x1F446, 0x1F449),
  (0x1F44D, 0x1F44E), (0x1F453, 0x1F453), (0x1F46A, 0x1F46A), (0x1F47D, 0x1F47D),
  (0x1F4A3, 0x1F4A3), (0x1F4B0, 0x1F4B0), (0x1F4B3, 0x1F4B3), (0x1F4BB, 0x1F4BB),
  (0x1F4BF, 0x1F4BF), (0x1F4CB, 0x1F4CB), (0x1F4DA, 0x1F4DA), (0x1F4DF, 0x1F4DF),
  (0x1F4E4, 0x1F4E6), (0x1F4EA, 0x1F4ED), (0x1F4F7, 0x1F4F7), (0x1F4F9, 0x1F4FB),
  (0x1F508, 0x1F508), (0x1F50D, 0x1F50D), (0x1F512, 0x1F513), (0x1F550, 0x1F567),
  (0x1F610, 0x1F610), (0x1F687, 0x1F687), (0x1F68D, 0x1F68D), (0x1F691, 0x1F691),
  (0x1F694, 0x1F694), (0x1F698, 0x1F698), (0x1F6AD, 0x1F6AD), (0x1F6B2, 0x1F6B2),
  (0x1F6B9, 0x1F6BA), (0x1F6BC, 0x1F6BC)]

/-- Code points whose skin tone a modifier changes. -/
def modifierBaseRanges : RangeTable := [
  (0x261D, 0x261D), (0x26F9, 0x26F9), (0x270A, 0x270D), (0x1F385, 0x1F385), (0x1F3C2, 0x1F3C4),
  (0x1F3C7, 0x1F3C7), (0x1F3CA, 0x1F3CC), (0x1F442, 0x1F443), (0x1F446, 0x1F450),
  (0x1F466, 0x1F478), (0x1F47C, 0x1F47C), (0x1F481, 0x1F483), (0x1F485, 0x1F487),
  (0x1F48F, 0x1F48F), (0x1F491, 0x1F491), (0x1F4AA, 0x1F4AA), (0x1F574, 0x1F575),
  (0x1F57A, 0x1F57A), (0x1F590, 0x1F590), (0x1F595, 0x1F596), (0x1F645, 0x1F647),
  (0x1F64B, 0x1F64F), (0x1F6A3, 0x1F6A3), (0x1F6B4, 0x1F6B6), (0x1F6C0, 0x1F6C0),
  (0x1F6CC, 0x1F6CC), (0x1F90C, 0x1F90C), (0x1F90F, 0x1F90F), (0x1F918, 0x1F91F),
  (0x1F926, 0x1F926), (0x1F930, 0x1F939), (0x1F93C, 0x1F93E), (0x1F977, 0x1F977),
  (0x1F9B5, 0x1F9B6), (0x1F9B8, 0x1F9B9), (0x1F9BB, 0x1F9BB), (0x1F9CD, 0x1F9CF),
  (0x1F9D1, 0x1F9DD), (0x1FAC3, 0x1FAC5), (0x1FAF0, 0x1FAF8)]

/-- The forms of the Arabic letter alef. -/
def alefRanges : RangeTable := [
  (0x622, 0x623), (0x625, 0x625), (0x627, 0x627), (0x671, 0x673), (0x675, 0x675), (0x773, 0x774),
  (0x870, 0x882)]

/-- The forms of the Arabic letter lam. -/
def lamRanges : RangeTable := [
  (0x644, 0x644), (0x6B5, 0x6B8), (0x76A, 0x76A), (0x8A6, 0x8A6), (0x8C7, 0x8C7)]

/-- Code points that take no column, and yet come between Arabic letters. -/
def separatingRanges : RangeTable := [
  (0x605, 0x605), (0x890, 0x891), (0x8E2, 0x8E2), (0x9BE, 0x9BE), (0x9D7, 0x9D7), (0xB3E, 0xB3E),
  (0xB57, 0xB57), (0xBBE, 0xBBE), (0xBD7, 0xBD7), (0xCC0, 0xCC0), (0xCC2, 0xCC2), (0xCC7, 0xCC8),
  (0xCCA, 0xCCB), (0xCD5, 0xCD6), (0xD3E, 0xD3E), (0xD57, 0xD57), (0xDCF, 0xDCF), (0xDDF, 0xDDF),
  (0x1160, 0x11FF), (0x1715, 0x1715), (0x1734, 0x1734), (0x180E, 0x180E), (0x1B35, 0x1B35),
  (0x1B3B, 0x1B3B), (0x1B3D, 0x1B3D), (0x1B43, 0x1B44), (0x1BAA, 0x1BAA), (0x1BF2, 0x1BF3),
  (0x200C, 0x200D), (0x2065, 0x2069), (0x302E, 0x302F), (0x3164, 0x3164), (0xA8FA, 0xA8FA),
  (0xA953, 0xA953), (0xA9C0, 0xA9C0), (0xD7B0, 0xD7C6), (0xD7CB, 0xD7FB), (0xFF9E, 0xFFA0),
  (0xFFF0, 0xFFF8), (0x111C0, 0x111C0), (0x11235, 0x11235), (0x1133E, 0x1133E), (0x1134D, 0x1134D),
  (0x11357, 0x11357), (0x113B8, 0x113B8), (0x113C2, 0x113C2), (0x113C5, 0x113C5),
  (0x113C7, 0x113C9), (0x113CF, 0x113CF), (0x114B0, 0x114B0), (0x114BD, 0x114BD),
  (0x115AF, 0x115AF), (0x116B6, 0x116B6), (0x11930, 0x11930), (0x1193D, 0x1193D),
  (0x11F41, 0x11F41), (0x16FF0, 0x16FF1), (0x1D165, 0x1D166), (0x1D16D, 0x1D172),
  (0xE0000, 0xE0000), (0xE0002, 0xE001F), (0xE0080, 0xE00FF), (0xE01F0, 0xE0FFF)]

/-- Marks that are not drawn; they do not come between the parts of a ligature. -/
def invisibleMarkRanges : RangeTable := [
  (0x34F, 0x34F), (0x17B4, 0x17B5), (0x180B, 0x180D), (0x180F, 0x180F), (0xFE00, 0xFE0F),
  (0xE0100, 0xE01EF)]

/-- Khmer letters that a sign before them puts below another letter, where they take no room. -/
def subjoinedRanges : RangeTable := [
  (0x1780, 0x1782), (0x1784, 0x1787), (0x1789, 0x178C), (0x178E, 0x1793), (0x1795, 0x1798),
  (0x179B, 0x179D), (0x17A0, 0x17A0), (0x17A2, 0x17A2), (0x17A7, 0x17A7), (0x17AB, 0x17AC),
  (0x17AF, 0x17AF)]

/-- The consonants of Tifinagh. -/
def tifinaghRanges : RangeTable := [(0x2D31, 0x2D65), (0x2D6F, 0x2D6F)]

/-- Quotation marks that a variation selector makes wide. -/
def quotationMarkRanges : RangeTable := [(0x2018, 0x2019), (0x201C, 0x201D)]

/-- A modifier of the skin tone. -/
def isSkinTone (c : Char) : Bool := 0x1F3FB ≤ c.toNat && c.toNat ≤ 0x1F3FF

/-- One of the letters that make up flags. -/
def isFlagLetter (c : Char) : Bool := 0x1F1E6 ≤ c.toNat && c.toNat ≤ 0x1F1FF

/-- A tag that stands for a letter. -/
def isTagLetter (c : Char) : Bool := 0xE0061 ≤ c.toNat && c.toNat ≤ 0xE007A

/-- A tag that stands for a digit. -/
def isTagDigit (c : Char) : Bool := 0xE0030 ≤ c.toNat && c.toNat ≤ 0xE0039

/-- The character that joins two emoji, or the parts of a ligature, into one. -/
def joiner : Char := '\u200d'

/-! ### What stands behind a character -/

/-- A variation selector, which says how the character before it is drawn. -/
inductive Selector where
  /-- As an emoji. -/
  | emoji
  /-- As text. -/
  | text
  /-- As wide as an ideograph. -/
  | wide
deriving DecidableEq, Repr

/-- The variation selector that a character is, if it is one that matters. -/
def Selector.ofChar? (c : Char) : Option Selector :=
  if c = '\ufe0f' then some .emoji
  else if c = '\ufe0e' then some .text
  else if c = '\ufe01' then some .wide
  else none

/-- A letter that may be part of a ligature with the letters before it. -/
inductive Letter where
  /-- The Hebrew letter lamed. -/
  | lamed
  /-- A Khmer letter that may be drawn below another one. -/
  | subjoined
  /-- The Buginese letter ya. -/
  | ya
  /-- The same behind a joiner and the vowel sign i. -/
  | yaWithVowel
  /-- A consonant of Tifinagh. -/
  | tifinagh
  /-- The same behind the joiner of consonants. -/
  | joinedTifinagh
  /-- A Lisu letter for the second part of a tone. -/
  | tone
  /-- The Old Turkic letter for the vowel i. -/
  | orkhonVowel
  /-- The Kirat Rai vowel sign e. -/
  | kiratE
  /-- The Kirat Rai vowel sign ai. -/
  | kiratAi
deriving DecidableEq, Repr

/-- The letter of a ligature that a character may be. -/
def Letter.ofChar? (c : Char) : Option Letter :=
  if c.toNat = 0x5DC then some .lamed
  else if subjoinedRanges.contains c then some .subjoined
  else if c.toNat = 0x1A10 then some .ya
  else if tifinaghRanges.contains c then some .tifinagh
  else if c.toNat = 0xA4FC || c.toNat = 0xA4FD then some .tone
  else if c.toNat = 0x10C03 then some .orkhonVowel
  else if c.toNat = 0x16D67 then some .kiratE
  else if c.toNat = 0x16D68 then some .kiratAi
  else none

/-- What a character is to the character before it. -/
inductive Sign where
  | plain
  | lineFeed
  | skinTone
  | flagLetter
  | flags
  | emoji
  /-- A joiner with an emoji behind it. -/
  | joined
  /-- The frame of a key before a joiner and an emoji. -/
  | joinedKey
  /-- One letter of a flag before a joiner and an emoji. -/
  | joinedLetter
  /-- Flags before a joiner and an emoji, and one letter more if `odd`. -/
  | joinedFlags (odd : Bool)
  /-- The last tags of a flag before a joiner and an emoji: letters, and digits before them. -/
  | joinedTags (letters digits : Nat)
  | alef
  /-- A letter of a ligature, which may stand behind a joiner. -/
  | part (letter : Letter) (behindJoiner : Bool)
deriving DecidableEq, Repr

namespace Sign

/-- What a character is to the character before it, when nothing else is known. -/
def ofChar (c : Char) : Sign :=
  if c = '\n' then .lineFeed
  else if isSkinTone c then .skinTone
  else if isFlagLetter c then .flagLetter
  else if emojiRanges.contains c then .emoji
  else if alefRanges.contains c then .alef
  else
    match Letter.ofChar? c with
    | some letter => .part letter false
    | none => .plain

/-- A part of a ligature: variation selectors before it leave it as it is. -/
def isPart : Sign → Bool
  | .alef | .part _ _ => true
  | _ => false

/-- A joiner with an emoji behind it, or the frame of a key before that. -/
def isJoined : Sign → Bool
  | .joined | .joinedKey => true
  | _ => false

end Sign

/-- What stands behind a character, as far as that changes its width. -/
structure Follower where
  /-- The next character, variation selectors aside. -/
  sign : Sign
  /-- The variation selector before that. -/
  selector : Option Selector
deriving DecidableEq, Repr

namespace Follower

/-- Nothing that changes the width of a character. -/
def plain : Follower := ⟨.plain, none⟩

/-- What stands behind a character that the variation selector says nothing about. -/
def unselected (follower : Follower) : Sign :=
  if follower.selector.isSome && !follower.sign.isPart then .plain else follower.sign

end Follower

/-! ### The width of a character -/

/-- A variation selector before something: it hides what is no part of a ligature, except that an
emoji may be joined to another one. -/
def Sign.select (sign : Sign) (selector : Selector) : Follower :=
  if sign.isPart || sign.isJoined && selector == .emoji then ⟨sign, some selector⟩
  else ⟨.plain, some selector⟩

/-- What becomes of a character that is drawn as the variation selector behind it says. -/
def Follower.shows? (follower : Follower) (c : Char) : Option (Int × Sign) :=
  match follower.selector with
  | some .emoji =>
      if textEmojiRanges.contains c || selectableEmojiRanges.contains c then
        some (if follower.sign.isJoined then 0 else 2, .emoji)
      else none
  | some .text =>
      if selectableEmojiRanges.contains c && !(0x1F200 ≤ c.toNat && c.toNat ≤ 0x1F2FF) then
        some (1, .plain)
      else none
  | some .wide => if quotationMarkRanges.contains c then some (2, .plain) else none
  | none => none

/-- What becomes of a character in front of a letter that it forms a ligature with.  The room that
the letter took is taken back where it is drawn below or over another one. -/
def Letter.joins? (behindJoiner : Bool) (c : Char) : Letter → Option (Int × Sign)
  | .lamed => if behindJoiner && c.toNat = 0x5D0 then some (0, .plain) else none
  | .subjoined => if c.toNat = 0x17D2 then some (-1, .plain) else none
  | .ya => if behindJoiner && c.toNat = 0x1A17 then some (0, .part .yaWithVowel true) else none
  | .yaWithVowel => if c.toNat = 0x1A15 then some (0, .plain) else none
  | .tifinagh =>
      if c.toNat = 0x2D7F then some (1, .part .joinedTifinagh true)
      else if behindJoiner && tifinaghRanges.contains c then some (0, .plain)
      else none
  | .joinedTifinagh => if tifinaghRanges.contains c then some (-1, .plain) else none
  | .tone => if 0xA4F8 ≤ c.toNat && c.toNat ≤ 0xA4FB then some (0, .plain) else none
  | .orkhonVowel => if behindJoiner && c.toNat = 0x10C32 then some (0, .plain) else none
  | .kiratE =>
      if c.toNat = 0x16D63 || c.toNat = 0x16D69 then some (0, .plain)
      else if c.toNat = 0x16D67 then some (0, .part .kiratAi true)
      else if c.toNat = 0x16D68 then some (1, .part .kiratE true)
      else none
  | .kiratAi => if c.toNat = 0x16D63 then some (0, .plain) else none

/-- What becomes of a character that is drawn together with what stands behind it: the columns that
it adds, and what both are to the character before them. -/
def Sign.joins? (c : Char) : Sign → Option (Int × Sign)
  | .plain => none
  | .lineFeed => if c = '\r' then some (0, .plain) else none
  | .skinTone =>
      if modifierBaseRanges.contains c then some (0, .emoji)
      else if c = joiner then some (0, .joined)
      else none
  | .flagLetter => if isFlagLetter c then some (1, .flags) else none
  | .flags =>
      if isFlagLetter c then some (1, .flags)
      else if c = joiner then some (0, .joined)
      else none
  | .emoji => if c = joiner then some (0, .joined) else none
  | .joined =>
      if c.toNat = 0x20E3 then some (0, .joinedKey)
      else if isFlagLetter c then some (1, .joinedLetter)
      else if isSkinTone c then some (0, .skinTone)
      else if c.toNat = 0xE007F then some (0, .joinedTags 0 0)
      else if emojiRanges.contains c then some (0, .emoji)
      else none
  | .joinedKey => none
  | .joinedLetter => if isFlagLetter c then some (-1, .joinedFlags false) else none
  | .joinedFlags odd =>
      -- Flags are counted from the left, so one letter more moves the letters of all of them.
      if isFlagLetter c then some (if odd then -1 else 3, .joinedFlags (!odd))
      else if c = joiner then some (0, .joined)
      else none
  | .joinedTags letters digits =>
      if isTagLetter c && digits == 0 && letters < 6 then some (0, .joinedTags (letters + 1) 0)
      else if isTagDigit c && (if digits = 0 then letters ≤ 4 else digits < 3) then
        some (0, .joinedTags letters (digits + 1))
      else if c.toNat = 0x1F3F4 && (digits == 3 || digits == 0 && 3 ≤ letters) then
        some (0, .emoji)
      else none
  | .alef =>
      if lamRanges.contains c then some (0, .plain)
      else if isZeroWidth c && !separatingRanges.contains c then some (0, .alef)
      else none
  | .part letter behindJoiner =>
      if c = joiner then some (0, .part letter true)
      else if invisibleMarkRanges.contains c then some (0, .part letter behindJoiner)
      else letter.joins? behindJoiner c

/-- A character on its own: its width, and what it is to the character before it.  A control
character takes one column. -/
def lone (c : Char) : Int × Follower := (charWidth 1 c, ⟨.ofChar c, none⟩)

/-- The columns that a character adds to those of the text behind it, and what it is to the
character before it. -/
def widthBefore (c : Char) (follower : Follower) : Int × Follower :=
  match follower.shows? c with
  | some (columns, sign) => (columns, ⟨sign, none⟩)
  | none =>
      match Selector.ofChar? c with
      | some selector => (0, follower.unselected.select selector)
      | none =>
          match follower.unselected.joins? c with
          | some (columns, sign) => (columns, ⟨sign, none⟩)
          | none => lone c

/-- The columns of a text, and what it is to a character before it. -/
def measure : List Char → Int × Follower
  | [] => (0, .plain)
  | c :: rest =>
      let (columns, follower) := measure rest
      let (added, follower) := widthBefore c follower
      (columns + added, follower)

/-- The columns that a text takes. -/
def textWidth (text : List Char) : Nat := (measure text).1.toNat

end Text
end MessageExpansion
