import Mustache.Text.Blank
/-!
# How wide a text is

The width of a text is counted in columns of a terminal. A character takes one column, or two if it is
`isWide`, or none if it is `isJoined` to a character beside it. Some pairs are drawn as one and are as
wide as the second of the two. The tables are those of Unicode 15.1.
-/

namespace Mustache.Text

/-- The code points whose property `East_Asian_Width` is wide or full. -/
def wideRanges : List CodeRange :=
  [⟨0x1100, 0x115F⟩, ⟨0x231A, 0x231B⟩, ⟨0x2329, 0x232A⟩, ⟨0x23E9, 0x23EC⟩, ⟨0x23F0, 0x23F0⟩,
    ⟨0x23F3, 0x23F3⟩, ⟨0x25FD, 0x25FE⟩, ⟨0x2614, 0x2615⟩, ⟨0x2648, 0x2653⟩, ⟨0x267F, 0x267F⟩,
    ⟨0x2693, 0x2693⟩, ⟨0x26A1, 0x26A1⟩, ⟨0x26AA, 0x26AB⟩, ⟨0x26BD, 0x26BE⟩, ⟨0x26C4, 0x26C5⟩,
    ⟨0x26CE, 0x26CE⟩, ⟨0x26D4, 0x26D4⟩, ⟨0x26EA, 0x26EA⟩, ⟨0x26F2, 0x26F3⟩, ⟨0x26F5, 0x26F5⟩,
    ⟨0x26FA, 0x26FA⟩, ⟨0x26FD, 0x26FD⟩, ⟨0x2705, 0x2705⟩, ⟨0x270A, 0x270B⟩, ⟨0x2728, 0x2728⟩,
    ⟨0x274C, 0x274C⟩, ⟨0x274E, 0x274E⟩, ⟨0x2753, 0x2755⟩, ⟨0x2757, 0x2757⟩, ⟨0x2795, 0x2797⟩,
    ⟨0x27B0, 0x27B0⟩, ⟨0x27BF, 0x27BF⟩, ⟨0x2B1B, 0x2B1C⟩, ⟨0x2B50, 0x2B50⟩, ⟨0x2B55, 0x2B55⟩,
    ⟨0x2E80, 0x2E99⟩, ⟨0x2E9B, 0x2EF3⟩, ⟨0x2F00, 0x2FD5⟩, ⟨0x2FF0, 0x303E⟩, ⟨0x3041, 0x3096⟩,
    ⟨0x3099, 0x30FF⟩, ⟨0x3105, 0x312F⟩, ⟨0x3131, 0x318E⟩, ⟨0x3190, 0x31E3⟩, ⟨0x31EF, 0x321E⟩,
    ⟨0x3220, 0x3247⟩, ⟨0x3250, 0x4DBF⟩, ⟨0x4E00, 0xA48C⟩, ⟨0xA490, 0xA4C6⟩,
    ⟨0xA960, 0xA97C⟩, ⟨0xAC00, 0xD7A3⟩, ⟨0xF900, 0xFAFF⟩, ⟨0xFE10, 0xFE19⟩, ⟨0xFE30, 0xFE52⟩,
    ⟨0xFE54, 0xFE66⟩, ⟨0xFE68, 0xFE6B⟩, ⟨0xFF01, 0xFF60⟩, ⟨0xFFE0, 0xFFE6⟩, ⟨0x16FE0, 0x16FE4⟩,
    ⟨0x16FF0, 0x16FF1⟩, ⟨0x17000, 0x187F7⟩, ⟨0x18800, 0x18CD5⟩, ⟨0x18D00, 0x18D08⟩,
    ⟨0x1AFF0, 0x1AFF3⟩, ⟨0x1AFF5, 0x1AFFB⟩, ⟨0x1AFFD, 0x1AFFE⟩, ⟨0x1B000, 0x1B122⟩,
    ⟨0x1B132, 0x1B132⟩, ⟨0x1B150, 0x1B152⟩, ⟨0x1B155, 0x1B155⟩, ⟨0x1B164, 0x1B167⟩,
    ⟨0x1B170, 0x1B2FB⟩, ⟨0x1F004, 0x1F004⟩, ⟨0x1F0CF, 0x1F0CF⟩, ⟨0x1F18E, 0x1F18E⟩,
    ⟨0x1F191, 0x1F19A⟩, ⟨0x1F200, 0x1F202⟩, ⟨0x1F210, 0x1F23B⟩, ⟨0x1F240, 0x1F248⟩,
    ⟨0x1F250, 0x1F251⟩, ⟨0x1F260, 0x1F265⟩, ⟨0x1F300, 0x1F320⟩, ⟨0x1F32D, 0x1F335⟩,
    ⟨0x1F337, 0x1F37C⟩, ⟨0x1F37E, 0x1F393⟩, ⟨0x1F3A0, 0x1F3CA⟩, ⟨0x1F3CF, 0x1F3D3⟩,
    ⟨0x1F3E0, 0x1F3F0⟩, ⟨0x1F3F4, 0x1F3F4⟩, ⟨0x1F3F8, 0x1F43E⟩, ⟨0x1F440, 0x1F440⟩,
    ⟨0x1F442, 0x1F4FC⟩, ⟨0x1F4FF, 0x1F53D⟩, ⟨0x1F54B, 0x1F54E⟩, ⟨0x1F550, 0x1F567⟩,
    ⟨0x1F57A, 0x1F57A⟩, ⟨0x1F595, 0x1F596⟩, ⟨0x1F5A4, 0x1F5A4⟩, ⟨0x1F5FB, 0x1F64F⟩,
    ⟨0x1F680, 0x1F6C5⟩, ⟨0x1F6CC, 0x1F6CC⟩, ⟨0x1F6D0, 0x1F6D2⟩, ⟨0x1F6D5, 0x1F6D7⟩,
    ⟨0x1F6DC, 0x1F6DF⟩, ⟨0x1F6EB, 0x1F6EC⟩, ⟨0x1F6F4, 0x1F6FC⟩, ⟨0x1F7E0, 0x1F7EB⟩,
    ⟨0x1F7F0, 0x1F7F0⟩, ⟨0x1F90C, 0x1F93A⟩, ⟨0x1F93C, 0x1F945⟩, ⟨0x1F947, 0x1F9FF⟩,
    ⟨0x1FA70, 0x1FA7C⟩, ⟨0x1FA80, 0x1FA88⟩, ⟨0x1FA90, 0x1FABD⟩, ⟨0x1FABF, 0x1FAC5⟩,
    ⟨0x1FACE, 0x1FADB⟩, ⟨0x1FAE0, 0x1FAE8⟩, ⟨0x1FAF0, 0x1FAF8⟩, ⟨0x20000, 0x2FFFD⟩,
    ⟨0x30000, 0x3FFFD⟩]

/-- The characters with a shape that are drawn into one beside them: vowels and final consonants that
join the syllable before them, letters that are written over the one behind them, and marks. -/
def joinedRanges : List CodeRange :=
  [⟨0xD4E, 0xD4E⟩, ⟨0x1160, 0x11FF⟩, ⟨0xA8FA, 0xA8FA⟩, ⟨0xD7B0, 0xD7C6⟩, ⟨0xD7CB, 0xD7FB⟩,
    ⟨0xFF9E, 0xFF9F⟩, ⟨0x111C2, 0x111C3⟩, ⟨0x1171E, 0x1171E⟩, ⟨0x1193F, 0x1193F⟩,
    ⟨0x11941, 0x11941⟩, ⟨0x11A3A, 0x11A3A⟩, ⟨0x11A84, 0x11A89⟩, ⟨0x11D46, 0x11D46⟩,
    ⟨0x11F02, 0x11F02⟩]

/-- The code points of the property `Emoji_Modifier_Base`, which a skin tone may follow. -/
def modifiableRanges : List CodeRange :=
  [⟨0x261D, 0x261D⟩, ⟨0x26F9, 0x26F9⟩, ⟨0x270A, 0x270D⟩, ⟨0x1F385, 0x1F385⟩, ⟨0x1F3C2, 0x1F3C4⟩,
    ⟨0x1F3C7, 0x1F3C7⟩, ⟨0x1F3CA, 0x1F3CC⟩, ⟨0x1F442, 0x1F443⟩, ⟨0x1F446, 0x1F450⟩,
    ⟨0x1F466, 0x1F478⟩, ⟨0x1F47C, 0x1F47C⟩, ⟨0x1F481, 0x1F483⟩, ⟨0x1F485, 0x1F487⟩,
    ⟨0x1F48F, 0x1F48F⟩, ⟨0x1F491, 0x1F491⟩, ⟨0x1F4AA, 0x1F4AA⟩, ⟨0x1F574, 0x1F575⟩,
    ⟨0x1F57A, 0x1F57A⟩, ⟨0x1F590, 0x1F590⟩, ⟨0x1F595, 0x1F596⟩, ⟨0x1F645, 0x1F647⟩,
    ⟨0x1F64B, 0x1F64F⟩, ⟨0x1F6A3, 0x1F6A3⟩, ⟨0x1F6B4, 0x1F6B6⟩, ⟨0x1F6C0, 0x1F6C0⟩,
    ⟨0x1F6CC, 0x1F6CC⟩, ⟨0x1F90C, 0x1F90C⟩, ⟨0x1F90F, 0x1F90F⟩, ⟨0x1F918, 0x1F91F⟩,
    ⟨0x1F926, 0x1F926⟩, ⟨0x1F930, 0x1F939⟩, ⟨0x1F93C, 0x1F93E⟩, ⟨0x1F977, 0x1F977⟩,
    ⟨0x1F9B5, 0x1F9B6⟩, ⟨0x1F9B8, 0x1F9B9⟩, ⟨0x1F9BB, 0x1F9BB⟩, ⟨0x1F9CD, 0x1F9CF⟩,
    ⟨0x1F9D1, 0x1F9DD⟩, ⟨0x1FAC3, 0x1FAC5⟩, ⟨0x1FAF0, 0x1FAF8⟩]

/-- The skin tones. -/
def modifierRanges : List CodeRange := [⟨0x1F3FB, 0x1F3FF⟩]

/-- The letters of the joining group of lam. -/
def lamRanges : List CodeRange :=
  [⟨0x644, 0x644⟩, ⟨0x6B5, 0x6B8⟩, ⟨0x76A, 0x76A⟩, ⟨0x8A6, 0x8A6⟩, ⟨0x8C7, 0x8C7⟩]

/-- The letters of the joining group of alef, which are written into a lam before them. -/
def alefRanges : List CodeRange :=
  [⟨0x622, 0x623⟩, ⟨0x625, 0x625⟩, ⟨0x627, 0x627⟩, ⟨0x671, 0x673⟩, ⟨0x675, 0x675⟩, ⟨0x773, 0x774⟩,
    ⟨0x870, 0x882⟩]

/-- The marks with a shape that do not part a lam and an alef. -/
def transparentRanges : List CodeRange := [⟨0x1171E, 0x1171E⟩]

/-- The tone letters of Lisu that another one may follow. -/
def leadingToneRanges : List CodeRange := [⟨0xA4F8, 0xA4FB⟩]

/-- The tone letters of Lisu that follow another one. -/
def trailingToneRanges : List CodeRange := [⟨0xA4FC, 0xA4FD⟩]

/-- Whether the property `East_Asian_Width` of the character is wide or full. -/
def isWide (c : Char) : Bool :=
  wideRanges.any (·.covers c.toNat)

/-- Whether the character is drawn into one beside it. -/
def isJoined (c : Char) : Bool :=
  joinedRanges.any (·.covers c.toNat)

/-- The number of columns of a character on its own. Two signs of Khmer are drawn as two and three
letters. -/
def charWidth (c : Char) : Nat :=
  if c.toNat = 0x17A4 then 2
  else if c.toNat = 0x17D8 then 3
  else if isJoined c then 0
  else if isWide c then 2
  else 1

/-- Whether a character is drawn as one with those behind it: a person with a skin tone, a tone letter
with another one, or a lam with an alef, also across a mark. -/
def merges (c : Char) (rest : List Char) : Bool :=
  let pair (first second : List CodeRange) (rest : List Char) : Bool :=
    first.any (·.covers c.toNat) && rest.head?.any fun d => second.any (·.covers d.toNat)
  pair modifiableRanges modifierRanges rest
    || pair leadingToneRanges trailingToneRanges rest
    || pair lamRanges alefRanges (rest.dropWhile fun d => transparentRanges.any (·.covers d.toNat))

/-- The number of columns of some characters. -/
def widthOf : List Char → Nat
  | [] => 0
  | c :: rest => (if merges c rest then 0 else charWidth c) + widthOf rest

/-- The number of columns of a text. -/
def width (s : String) : Nat :=
  widthOf s.toList

example : width "日本" = 4 := by decide

example : width "✌🏻" = 2 ∧ width "✌" = 1 := by decide +kernel

end Mustache.Text
