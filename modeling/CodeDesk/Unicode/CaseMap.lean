import CodeDesk.Unicode.Property

/-!
# Upper and lower case

Full case mapping: a character may map to several. Most characters that are
mapped lie in runs that are mapped by the same distance, often every other
character of a stretch in which the two cases alternate. The lower case of a
whole text writes a capital sigma that ends a word in its final form, which
no map of single characters can do.
-/

namespace CodeDesk
namespace Unicode

/-- Characters that are mapped by the same distance. -/
structure CaseRun where
  /-- The first of them. -/
  first : Nat
  /-- The last of them. -/
  last : Nat
  /-- Whether only every other character is one of them. -/
  alternate : Bool
  /-- The distance. -/
  shift : Int

namespace CaseRun

/-- Whether a character is one of a run. -/
def has (r : CaseRun) (c : Nat) : Bool :=
  Nat.ble r.first c && Nat.ble c r.last && (!r.alternate || (c - r.first) % 2 == 0)

/-- What a character of a run becomes. -/
def image (r : CaseRun) (c : Nat) : Nat := (c + r.shift).toNat

end CaseRun

/-- The characters that become another one in upper case, in ascending order. -/
def upperRuns : List CaseRun :=
  [⟨0x61, 0x7A, false, -32⟩, ⟨0xB5, 0xB5, true, 743⟩, ⟨0xE0, 0xF6, false, -32⟩,
   ⟨0xF8, 0xFE, false, -32⟩, ⟨0xFF, 0xFF, true, 121⟩, ⟨0x101, 0x12F, true, -1⟩,
   ⟨0x131, 0x131, true, -232⟩, ⟨0x133, 0x137, true, -1⟩, ⟨0x13A, 0x148, true, -1⟩,
   ⟨0x14B, 0x177, true, -1⟩, ⟨0x17A, 0x17E, true, -1⟩, ⟨0x17F, 0x17F, true, -300⟩,
   ⟨0x180, 0x180, true, 195⟩, ⟨0x183, 0x185, true, -1⟩, ⟨0x188, 0x188, true, -1⟩,
   ⟨0x18C, 0x18C, true, -1⟩, ⟨0x192, 0x192, true, -1⟩, ⟨0x195, 0x195, true, 97⟩,
   ⟨0x199, 0x199, true, -1⟩, ⟨0x19A, 0x19A, true, 163⟩, ⟨0x19B, 0x19B, true, 42561⟩,
   ⟨0x19E, 0x19E, true, 130⟩, ⟨0x1A1, 0x1A5, true, -1⟩, ⟨0x1A8, 0x1A8, true, -1⟩,
   ⟨0x1AD, 0x1AD, true, -1⟩, ⟨0x1B0, 0x1B0, true, -1⟩, ⟨0x1B4, 0x1B6, true, -1⟩,
   ⟨0x1B9, 0x1B9, true, -1⟩, ⟨0x1BD, 0x1BD, true, -1⟩, ⟨0x1BF, 0x1BF, true, 56⟩,
   ⟨0x1C5, 0x1C5, true, -1⟩, ⟨0x1C6, 0x1C6, true, -2⟩, ⟨0x1C8, 0x1C8, true, -1⟩,
   ⟨0x1C9, 0x1C9, true, -2⟩, ⟨0x1CB, 0x1CB, true, -1⟩, ⟨0x1CC, 0x1CC, true, -2⟩,
   ⟨0x1CE, 0x1DC, true, -1⟩, ⟨0x1DD, 0x1DD, true, -79⟩, ⟨0x1DF, 0x1EF, true, -1⟩,
   ⟨0x1F2, 0x1F2, true, -1⟩, ⟨0x1F3, 0x1F3, true, -2⟩, ⟨0x1F5, 0x1F5, true, -1⟩,
   ⟨0x1F9, 0x21F, true, -1⟩, ⟨0x223, 0x233, true, -1⟩, ⟨0x23C, 0x23C, true, -1⟩,
   ⟨0x23F, 0x240, false, 10815⟩, ⟨0x242, 0x242, true, -1⟩, ⟨0x247, 0x24F, true, -1⟩,
   ⟨0x250, 0x250, true, 10783⟩, ⟨0x251, 0x251, true, 10780⟩, ⟨0x252, 0x252, true, 10782⟩,
   ⟨0x253, 0x253, true, -210⟩, ⟨0x254, 0x254, true, -206⟩, ⟨0x256, 0x257, false, -205⟩,
   ⟨0x259, 0x259, true, -202⟩, ⟨0x25B, 0x25B, true, -203⟩, ⟨0x25C, 0x25C, true, 42319⟩,
   ⟨0x260, 0x260, true, -205⟩, ⟨0x261, 0x261, true, 42315⟩, ⟨0x263, 0x263, true, -207⟩,
   ⟨0x264, 0x264, true, 42343⟩, ⟨0x265, 0x265, true, 42280⟩, ⟨0x266, 0x266, true, 42308⟩,
   ⟨0x268, 0x268, true, -209⟩, ⟨0x269, 0x269, true, -211⟩, ⟨0x26A, 0x26A, true, 42308⟩,
   ⟨0x26B, 0x26B, true, 10743⟩, ⟨0x26C, 0x26C, true, 42305⟩, ⟨0x26F, 0x26F, true, -211⟩,
   ⟨0x271, 0x271, true, 10749⟩, ⟨0x272, 0x272, true, -213⟩, ⟨0x275, 0x275, true, -214⟩,
   ⟨0x27D, 0x27D, true, 10727⟩, ⟨0x280, 0x280, true, -218⟩, ⟨0x282, 0x282, true, 42307⟩,
   ⟨0x283, 0x283, true, -218⟩, ⟨0x287, 0x287, true, 42282⟩, ⟨0x288, 0x288, true, -218⟩,
   ⟨0x289, 0x289, true, -69⟩, ⟨0x28A, 0x28B, false, -217⟩, ⟨0x28C, 0x28C, true, -71⟩,
   ⟨0x292, 0x292, true, -219⟩, ⟨0x29D, 0x29D, true, 42261⟩, ⟨0x29E, 0x29E, true, 42258⟩,
   ⟨0x345, 0x345, true, 84⟩, ⟨0x371, 0x373, true, -1⟩, ⟨0x377, 0x377, true, -1⟩,
   ⟨0x37B, 0x37D, false, 130⟩, ⟨0x3AC, 0x3AC, true, -38⟩, ⟨0x3AD, 0x3AF, false, -37⟩,
   ⟨0x3B1, 0x3C1, false, -32⟩, ⟨0x3C2, 0x3C2, true, -31⟩, ⟨0x3C3, 0x3CB, false, -32⟩,
   ⟨0x3CC, 0x3CC, true, -64⟩, ⟨0x3CD, 0x3CE, false, -63⟩, ⟨0x3D0, 0x3D0, true, -62⟩,
   ⟨0x3D1, 0x3D1, true, -57⟩, ⟨0x3D5, 0x3D5, true, -47⟩, ⟨0x3D6, 0x3D6, true, -54⟩,
   ⟨0x3D7, 0x3D7, true, -8⟩, ⟨0x3D9, 0x3EF, true, -1⟩, ⟨0x3F0, 0x3F0, true, -86⟩,
   ⟨0x3F1, 0x3F1, true, -80⟩, ⟨0x3F2, 0x3F2, true, 7⟩, ⟨0x3F3, 0x3F3, true, -116⟩,
   ⟨0x3F5, 0x3F5, true, -96⟩, ⟨0x3F8, 0x3F8, true, -1⟩, ⟨0x3FB, 0x3FB, true, -1⟩,
   ⟨0x430, 0x44F, false, -32⟩, ⟨0x450, 0x45F, false, -80⟩, ⟨0x461, 0x481, true, -1⟩,
   ⟨0x48B, 0x4BF, true, -1⟩, ⟨0x4C2, 0x4CE, true, -1⟩, ⟨0x4CF, 0x4CF, true, -15⟩,
   ⟨0x4D1, 0x52F, true, -1⟩, ⟨0x561, 0x586, false, -48⟩, ⟨0x10D0, 0x10FA, false, 3008⟩,
   ⟨0x10FD, 0x10FF, false, 3008⟩, ⟨0x13F8, 0x13FD, false, -8⟩, ⟨0x1C80, 0x1C80, true, -6254⟩,
   ⟨0x1C81, 0x1C81, true, -6253⟩, ⟨0x1C82, 0x1C82, true, -6244⟩, ⟨0x1C83, 0x1C84, false, -6242⟩,
   ⟨0x1C85, 0x1C85, true, -6243⟩, ⟨0x1C86, 0x1C86, true, -6236⟩, ⟨0x1C87, 0x1C87, true, -6181⟩,
   ⟨0x1C88, 0x1C88, true, 35266⟩, ⟨0x1C8A, 0x1C8A, true, -1⟩, ⟨0x1D79, 0x1D79, true, 35332⟩,
   ⟨0x1D7D, 0x1D7D, true, 3814⟩, ⟨0x1D8E, 0x1D8E, true, 35384⟩, ⟨0x1E01, 0x1E95, true, -1⟩,
   ⟨0x1E9B, 0x1E9B, true, -59⟩, ⟨0x1EA1, 0x1EFF, true, -1⟩, ⟨0x1F00, 0x1F07, false, 8⟩,
   ⟨0x1F10, 0x1F15, false, 8⟩, ⟨0x1F20, 0x1F27, false, 8⟩, ⟨0x1F30, 0x1F37, false, 8⟩,
   ⟨0x1F40, 0x1F45, false, 8⟩, ⟨0x1F51, 0x1F57, true, 8⟩, ⟨0x1F60, 0x1F67, false, 8⟩,
   ⟨0x1F70, 0x1F71, false, 74⟩, ⟨0x1F72, 0x1F75, false, 86⟩, ⟨0x1F76, 0x1F77, false, 100⟩,
   ⟨0x1F78, 0x1F79, false, 128⟩, ⟨0x1F7A, 0x1F7B, false, 112⟩, ⟨0x1F7C, 0x1F7D, false, 126⟩,
   ⟨0x1FB0, 0x1FB1, false, 8⟩, ⟨0x1FBE, 0x1FBE, true, -7205⟩, ⟨0x1FD0, 0x1FD1, false, 8⟩,
   ⟨0x1FE0, 0x1FE1, false, 8⟩, ⟨0x1FE5, 0x1FE5, true, 7⟩, ⟨0x214E, 0x214E, true, -28⟩,
   ⟨0x2170, 0x217F, false, -16⟩, ⟨0x2184, 0x2184, true, -1⟩, ⟨0x24D0, 0x24E9, false, -26⟩,
   ⟨0x2C30, 0x2C5F, false, -48⟩, ⟨0x2C61, 0x2C61, true, -1⟩, ⟨0x2C65, 0x2C65, true, -10795⟩,
   ⟨0x2C66, 0x2C66, true, -10792⟩, ⟨0x2C68, 0x2C6C, true, -1⟩, ⟨0x2C73, 0x2C73, true, -1⟩,
   ⟨0x2C76, 0x2C76, true, -1⟩, ⟨0x2C81, 0x2CE3, true, -1⟩, ⟨0x2CEC, 0x2CEE, true, -1⟩,
   ⟨0x2CF3, 0x2CF3, true, -1⟩, ⟨0x2D00, 0x2D25, false, -7264⟩, ⟨0x2D27, 0x2D27, true, -7264⟩,
   ⟨0x2D2D, 0x2D2D, true, -7264⟩, ⟨0xA641, 0xA66D, true, -1⟩, ⟨0xA681, 0xA69B, true, -1⟩,
   ⟨0xA723, 0xA72F, true, -1⟩, ⟨0xA733, 0xA76F, true, -1⟩, ⟨0xA77A, 0xA77C, true, -1⟩,
   ⟨0xA77F, 0xA787, true, -1⟩, ⟨0xA78C, 0xA78C, true, -1⟩, ⟨0xA791, 0xA793, true, -1⟩,
   ⟨0xA794, 0xA794, true, 48⟩, ⟨0xA797, 0xA7A9, true, -1⟩, ⟨0xA7B5, 0xA7C3, true, -1⟩,
   ⟨0xA7C8, 0xA7CA, true, -1⟩, ⟨0xA7CD, 0xA7DB, true, -1⟩, ⟨0xA7F6, 0xA7F6, true, -1⟩,
   ⟨0xAB53, 0xAB53, true, -928⟩, ⟨0xAB70, 0xABBF, false, -38864⟩, ⟨0xFF41, 0xFF5A, false, -32⟩,
   ⟨0x10428, 0x1044F, false, -40⟩, ⟨0x104D8, 0x104FB, false, -40⟩,
   ⟨0x10597, 0x105A1, false, -39⟩, ⟨0x105A3, 0x105B1, false, -39⟩,
   ⟨0x105B3, 0x105B9, false, -39⟩, ⟨0x105BB, 0x105BC, false, -39⟩,
   ⟨0x10CC0, 0x10CF2, false, -64⟩, ⟨0x10D70, 0x10D85, false, -32⟩,
   ⟨0x118C0, 0x118DF, false, -32⟩, ⟨0x16E60, 0x16E7F, false, -32⟩,
   ⟨0x16EBB, 0x16ED3, false, -27⟩, ⟨0x1E922, 0x1E943, false, -34⟩]

/-- The characters that become several in upper case. -/
def upperSeveral : List (Nat × List Nat) :=
  [(0xDF, [0x53, 0x53]), (0x149, [0x2BC, 0x4E]), (0x1F0, [0x4A, 0x30C]),
   (0x390, [0x399, 0x308, 0x301]), (0x3B0, [0x3A5, 0x308, 0x301]), (0x587, [0x535, 0x552]),
   (0x1E96, [0x48, 0x331]), (0x1E97, [0x54, 0x308]), (0x1E98, [0x57, 0x30A]),
   (0x1E99, [0x59, 0x30A]), (0x1E9A, [0x41, 0x2BE]), (0x1F50, [0x3A5, 0x313]),
   (0x1F52, [0x3A5, 0x313, 0x300]), (0x1F54, [0x3A5, 0x313, 0x301]),
   (0x1F56, [0x3A5, 0x313, 0x342]), (0x1F80, [0x1F08, 0x399]), (0x1F81, [0x1F09, 0x399]),
   (0x1F82, [0x1F0A, 0x399]), (0x1F83, [0x1F0B, 0x399]), (0x1F84, [0x1F0C, 0x399]),
   (0x1F85, [0x1F0D, 0x399]), (0x1F86, [0x1F0E, 0x399]), (0x1F87, [0x1F0F, 0x399]),
   (0x1F88, [0x1F08, 0x399]), (0x1F89, [0x1F09, 0x399]), (0x1F8A, [0x1F0A, 0x399]),
   (0x1F8B, [0x1F0B, 0x399]), (0x1F8C, [0x1F0C, 0x399]), (0x1F8D, [0x1F0D, 0x399]),
   (0x1F8E, [0x1F0E, 0x399]), (0x1F8F, [0x1F0F, 0x399]), (0x1F90, [0x1F28, 0x399]),
   (0x1F91, [0x1F29, 0x399]), (0x1F92, [0x1F2A, 0x399]), (0x1F93, [0x1F2B, 0x399]),
   (0x1F94, [0x1F2C, 0x399]), (0x1F95, [0x1F2D, 0x399]), (0x1F96, [0x1F2E, 0x399]),
   (0x1F97, [0x1F2F, 0x399]), (0x1F98, [0x1F28, 0x399]), (0x1F99, [0x1F29, 0x399]),
   (0x1F9A, [0x1F2A, 0x399]), (0x1F9B, [0x1F2B, 0x399]), (0x1F9C, [0x1F2C, 0x399]),
   (0x1F9D, [0x1F2D, 0x399]), (0x1F9E, [0x1F2E, 0x399]), (0x1F9F, [0x1F2F, 0x399]),
   (0x1FA0, [0x1F68, 0x399]), (0x1FA1, [0x1F69, 0x399]), (0x1FA2, [0x1F6A, 0x399]),
   (0x1FA3, [0x1F6B, 0x399]), (0x1FA4, [0x1F6C, 0x399]), (0x1FA5, [0x1F6D, 0x399]),
   (0x1FA6, [0x1F6E, 0x399]), (0x1FA7, [0x1F6F, 0x399]), (0x1FA8, [0x1F68, 0x399]),
   (0x1FA9, [0x1F69, 0x399]), (0x1FAA, [0x1F6A, 0x399]), (0x1FAB, [0x1F6B, 0x399]),
   (0x1FAC, [0x1F6C, 0x399]), (0x1FAD, [0x1F6D, 0x399]), (0x1FAE, [0x1F6E, 0x399]),
   (0x1FAF, [0x1F6F, 0x399]), (0x1FB2, [0x1FBA, 0x399]), (0x1FB3, [0x391, 0x399]),
   (0x1FB4, [0x386, 0x399]), (0x1FB6, [0x391, 0x342]), (0x1FB7, [0x391, 0x342, 0x399]),
   (0x1FBC, [0x391, 0x399]), (0x1FC2, [0x1FCA, 0x399]), (0x1FC3, [0x397, 0x399]),
   (0x1FC4, [0x389, 0x399]), (0x1FC6, [0x397, 0x342]), (0x1FC7, [0x397, 0x342, 0x399]),
   (0x1FCC, [0x397, 0x399]), (0x1FD2, [0x399, 0x308, 0x300]), (0x1FD3, [0x399, 0x308, 0x301]),
   (0x1FD6, [0x399, 0x342]), (0x1FD7, [0x399, 0x308, 0x342]), (0x1FE2, [0x3A5, 0x308, 0x300]),
   (0x1FE3, [0x3A5, 0x308, 0x301]), (0x1FE4, [0x3A1, 0x313]), (0x1FE6, [0x3A5, 0x342]),
   (0x1FE7, [0x3A5, 0x308, 0x342]), (0x1FF2, [0x1FFA, 0x399]), (0x1FF3, [0x3A9, 0x399]),
   (0x1FF4, [0x38F, 0x399]), (0x1FF6, [0x3A9, 0x342]), (0x1FF7, [0x3A9, 0x342, 0x399]),
   (0x1FFC, [0x3A9, 0x399]), (0xFB00, [0x46, 0x46]), (0xFB01, [0x46, 0x49]),
   (0xFB02, [0x46, 0x4C]), (0xFB03, [0x46, 0x46, 0x49]), (0xFB04, [0x46, 0x46, 0x4C]),
   (0xFB05, [0x53, 0x54]), (0xFB06, [0x53, 0x54]), (0xFB13, [0x544, 0x546]),
   (0xFB14, [0x544, 0x535]), (0xFB15, [0x544, 0x53B]), (0xFB16, [0x54E, 0x546]),
   (0xFB17, [0x544, 0x53D])]

/-- The characters that become another one in lower case, in ascending order. -/
def lowerRuns : List CaseRun :=
  [⟨0x41, 0x5A, false, 32⟩, ⟨0xC0, 0xD6, false, 32⟩, ⟨0xD8, 0xDE, false, 32⟩,
   ⟨0x100, 0x12E, true, 1⟩, ⟨0x132, 0x136, true, 1⟩, ⟨0x139, 0x147, true, 1⟩,
   ⟨0x14A, 0x176, true, 1⟩, ⟨0x178, 0x178, true, -121⟩, ⟨0x179, 0x17D, true, 1⟩,
   ⟨0x181, 0x181, true, 210⟩, ⟨0x182, 0x184, true, 1⟩, ⟨0x186, 0x186, true, 206⟩,
   ⟨0x187, 0x187, true, 1⟩, ⟨0x189, 0x18A, false, 205⟩, ⟨0x18B, 0x18B, true, 1⟩,
   ⟨0x18E, 0x18E, true, 79⟩, ⟨0x18F, 0x18F, true, 202⟩, ⟨0x190, 0x190, true, 203⟩,
   ⟨0x191, 0x191, true, 1⟩, ⟨0x193, 0x193, true, 205⟩, ⟨0x194, 0x194, true, 207⟩,
   ⟨0x196, 0x196, true, 211⟩, ⟨0x197, 0x197, true, 209⟩, ⟨0x198, 0x198, true, 1⟩,
   ⟨0x19C, 0x19C, true, 211⟩, ⟨0x19D, 0x19D, true, 213⟩, ⟨0x19F, 0x19F, true, 214⟩,
   ⟨0x1A0, 0x1A4, true, 1⟩, ⟨0x1A6, 0x1A6, true, 218⟩, ⟨0x1A7, 0x1A7, true, 1⟩,
   ⟨0x1A9, 0x1A9, true, 218⟩, ⟨0x1AC, 0x1AC, true, 1⟩, ⟨0x1AE, 0x1AE, true, 218⟩,
   ⟨0x1AF, 0x1AF, true, 1⟩, ⟨0x1B1, 0x1B2, false, 217⟩, ⟨0x1B3, 0x1B5, true, 1⟩,
   ⟨0x1B7, 0x1B7, true, 219⟩, ⟨0x1B8, 0x1B8, true, 1⟩, ⟨0x1BC, 0x1BC, true, 1⟩,
   ⟨0x1C4, 0x1C4, true, 2⟩, ⟨0x1C5, 0x1C5, true, 1⟩, ⟨0x1C7, 0x1C7, true, 2⟩,
   ⟨0x1C8, 0x1C8, true, 1⟩, ⟨0x1CA, 0x1CA, true, 2⟩, ⟨0x1CB, 0x1DB, true, 1⟩,
   ⟨0x1DE, 0x1EE, true, 1⟩, ⟨0x1F1, 0x1F1, true, 2⟩, ⟨0x1F2, 0x1F4, true, 1⟩,
   ⟨0x1F6, 0x1F6, true, -97⟩, ⟨0x1F7, 0x1F7, true, -56⟩, ⟨0x1F8, 0x21E, true, 1⟩,
   ⟨0x220, 0x220, true, -130⟩, ⟨0x222, 0x232, true, 1⟩, ⟨0x23A, 0x23A, true, 10795⟩,
   ⟨0x23B, 0x23B, true, 1⟩, ⟨0x23D, 0x23D, true, -163⟩, ⟨0x23E, 0x23E, true, 10792⟩,
   ⟨0x241, 0x241, true, 1⟩, ⟨0x243, 0x243, true, -195⟩, ⟨0x244, 0x244, true, 69⟩,
   ⟨0x245, 0x245, true, 71⟩, ⟨0x246, 0x24E, true, 1⟩, ⟨0x370, 0x372, true, 1⟩,
   ⟨0x376, 0x376, true, 1⟩, ⟨0x37F, 0x37F, true, 116⟩, ⟨0x386, 0x386, true, 38⟩,
   ⟨0x388, 0x38A, false, 37⟩, ⟨0x38C, 0x38C, true, 64⟩, ⟨0x38E, 0x38F, false, 63⟩,
   ⟨0x391, 0x3A1, false, 32⟩, ⟨0x3A3, 0x3AB, false, 32⟩, ⟨0x3CF, 0x3CF, true, 8⟩,
   ⟨0x3D8, 0x3EE, true, 1⟩, ⟨0x3F4, 0x3F4, true, -60⟩, ⟨0x3F7, 0x3F7, true, 1⟩,
   ⟨0x3F9, 0x3F9, true, -7⟩, ⟨0x3FA, 0x3FA, true, 1⟩, ⟨0x3FD, 0x3FF, false, -130⟩,
   ⟨0x400, 0x40F, false, 80⟩, ⟨0x410, 0x42F, false, 32⟩, ⟨0x460, 0x480, true, 1⟩,
   ⟨0x48A, 0x4BE, true, 1⟩, ⟨0x4C0, 0x4C0, true, 15⟩, ⟨0x4C1, 0x4CD, true, 1⟩,
   ⟨0x4D0, 0x52E, true, 1⟩, ⟨0x531, 0x556, false, 48⟩, ⟨0x10A0, 0x10C5, false, 7264⟩,
   ⟨0x10C7, 0x10C7, true, 7264⟩, ⟨0x10CD, 0x10CD, true, 7264⟩, ⟨0x13A0, 0x13EF, false, 38864⟩,
   ⟨0x13F0, 0x13F5, false, 8⟩, ⟨0x1C89, 0x1C89, true, 1⟩, ⟨0x1C90, 0x1CBA, false, -3008⟩,
   ⟨0x1CBD, 0x1CBF, false, -3008⟩, ⟨0x1E00, 0x1E94, true, 1⟩, ⟨0x1E9E, 0x1E9E, true, -7615⟩,
   ⟨0x1EA0, 0x1EFE, true, 1⟩, ⟨0x1F08, 0x1F0F, false, -8⟩, ⟨0x1F18, 0x1F1D, false, -8⟩,
   ⟨0x1F28, 0x1F2F, false, -8⟩, ⟨0x1F38, 0x1F3F, false, -8⟩, ⟨0x1F48, 0x1F4D, false, -8⟩,
   ⟨0x1F59, 0x1F5F, true, -8⟩, ⟨0x1F68, 0x1F6F, false, -8⟩, ⟨0x1F88, 0x1F8F, false, -8⟩,
   ⟨0x1F98, 0x1F9F, false, -8⟩, ⟨0x1FA8, 0x1FAF, false, -8⟩, ⟨0x1FB8, 0x1FB9, false, -8⟩,
   ⟨0x1FBA, 0x1FBB, false, -74⟩, ⟨0x1FBC, 0x1FBC, true, -9⟩, ⟨0x1FC8, 0x1FCB, false, -86⟩,
   ⟨0x1FCC, 0x1FCC, true, -9⟩, ⟨0x1FD8, 0x1FD9, false, -8⟩, ⟨0x1FDA, 0x1FDB, false, -100⟩,
   ⟨0x1FE8, 0x1FE9, false, -8⟩, ⟨0x1FEA, 0x1FEB, false, -112⟩, ⟨0x1FEC, 0x1FEC, true, -7⟩,
   ⟨0x1FF8, 0x1FF9, false, -128⟩, ⟨0x1FFA, 0x1FFB, false, -126⟩, ⟨0x1FFC, 0x1FFC, true, -9⟩,
   ⟨0x2126, 0x2126, true, -7517⟩, ⟨0x212A, 0x212A, true, -8383⟩, ⟨0x212B, 0x212B, true, -8262⟩,
   ⟨0x2132, 0x2132, true, 28⟩, ⟨0x2160, 0x216F, false, 16⟩, ⟨0x2183, 0x2183, true, 1⟩,
   ⟨0x24B6, 0x24CF, false, 26⟩, ⟨0x2C00, 0x2C2F, false, 48⟩, ⟨0x2C60, 0x2C60, true, 1⟩,
   ⟨0x2C62, 0x2C62, true, -10743⟩, ⟨0x2C63, 0x2C63, true, -3814⟩, ⟨0x2C64, 0x2C64, true, -10727⟩,
   ⟨0x2C67, 0x2C6B, true, 1⟩, ⟨0x2C6D, 0x2C6D, true, -10780⟩, ⟨0x2C6E, 0x2C6E, true, -10749⟩,
   ⟨0x2C6F, 0x2C6F, true, -10783⟩, ⟨0x2C70, 0x2C70, true, -10782⟩, ⟨0x2C72, 0x2C72, true, 1⟩,
   ⟨0x2C75, 0x2C75, true, 1⟩, ⟨0x2C7E, 0x2C7F, false, -10815⟩, ⟨0x2C80, 0x2CE2, true, 1⟩,
   ⟨0x2CEB, 0x2CED, true, 1⟩, ⟨0x2CF2, 0x2CF2, true, 1⟩, ⟨0xA640, 0xA66C, true, 1⟩,
   ⟨0xA680, 0xA69A, true, 1⟩, ⟨0xA722, 0xA72E, true, 1⟩, ⟨0xA732, 0xA76E, true, 1⟩,
   ⟨0xA779, 0xA77B, true, 1⟩, ⟨0xA77D, 0xA77D, true, -35332⟩, ⟨0xA77E, 0xA786, true, 1⟩,
   ⟨0xA78B, 0xA78B, true, 1⟩, ⟨0xA78D, 0xA78D, true, -42280⟩, ⟨0xA790, 0xA792, true, 1⟩,
   ⟨0xA796, 0xA7A8, true, 1⟩, ⟨0xA7AA, 0xA7AA, true, -42308⟩, ⟨0xA7AB, 0xA7AB, true, -42319⟩,
   ⟨0xA7AC, 0xA7AC, true, -42315⟩, ⟨0xA7AD, 0xA7AD, true, -42305⟩,
   ⟨0xA7AE, 0xA7AE, true, -42308⟩, ⟨0xA7B0, 0xA7B0, true, -42258⟩,
   ⟨0xA7B1, 0xA7B1, true, -42282⟩, ⟨0xA7B2, 0xA7B2, true, -42261⟩, ⟨0xA7B3, 0xA7B3, true, 928⟩,
   ⟨0xA7B4, 0xA7C2, true, 1⟩, ⟨0xA7C4, 0xA7C4, true, -48⟩, ⟨0xA7C5, 0xA7C5, true, -42307⟩,
   ⟨0xA7C6, 0xA7C6, true, -35384⟩, ⟨0xA7C7, 0xA7C9, true, 1⟩, ⟨0xA7CB, 0xA7CB, true, -42343⟩,
   ⟨0xA7CC, 0xA7DA, true, 1⟩, ⟨0xA7DC, 0xA7DC, true, -42561⟩, ⟨0xA7F5, 0xA7F5, true, 1⟩,
   ⟨0xFF21, 0xFF3A, false, 32⟩, ⟨0x10400, 0x10427, false, 40⟩, ⟨0x104B0, 0x104D3, false, 40⟩,
   ⟨0x10570, 0x1057A, false, 39⟩, ⟨0x1057C, 0x1058A, false, 39⟩, ⟨0x1058C, 0x10592, false, 39⟩,
   ⟨0x10594, 0x10595, false, 39⟩, ⟨0x10C80, 0x10CB2, false, 64⟩, ⟨0x10D50, 0x10D65, false, 32⟩,
   ⟨0x118A0, 0x118BF, false, 32⟩, ⟨0x16E40, 0x16E5F, false, 32⟩, ⟨0x16EA0, 0x16EB8, false, 27⟩,
   ⟨0x1E900, 0x1E921, false, 34⟩]

/-- The characters that become several in lower case. -/
def lowerSeveral : List (Nat × List Nat) :=
  [(0x130, [0x69, 0x307])]

/-- What a character becomes: several characters, another one of a run, or
itself. -/
def caseMap (several : List (Nat × List Nat)) (runs : List CaseRun) (c : Char) : List Char :=
  match several.lookup c.toNat with
  | some ds => ds.map Char.ofNat
  | none =>
    match runs.find? fun r => Nat.ble c.toNat r.last with
    | some r => if r.has c.toNat then [Char.ofNat (r.image c.toNat)] else [c]
    | none => [c]

/-- A character in upper case, possibly several characters. -/
def upperChar (c : Char) : List Char := caseMap upperSeveral upperRuns c

/-- A character in lower case, possibly several characters. -/
def lowerChar (c : Char) : List Char := caseMap lowerSeveral lowerRuns c

/-- Whether the first character that casing does not skip has a case. -/
def casedNext : List Char → Bool
  | [] => false
  | c :: cs => if caseIgnorable.contains c then casedNext cs else cased.contains c

/-- Lower case with the characters already passed at hand, last one first. -/
def lowerFrom (passed : List Char) : List Char → List Char
  | [] => []
  | c :: cs =>
    (if c = 'Σ' then
      if casedNext passed && !casedNext cs then ['ς'] else ['σ']
    else lowerChar c) ++ lowerFrom (c :: passed) cs

/-- A text in upper case. -/
def upper (s : String) : String :=
  String.ofList (s.toList.flatMap upperChar)

/-- A text in lower case, with the final form of sigma at the end of words. -/
def lower (s : String) : String :=
  String.ofList (lowerFrom [] s.toList)

end Unicode
end CodeDesk
