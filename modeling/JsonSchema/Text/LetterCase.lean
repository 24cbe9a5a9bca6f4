/-
  Letter case of single characters (Unicode 14.0).

  * `lower`, `upper`: the first character of the full case mapping.
  * `lowerVariants`: other small letters with the same capital.
  * `lowerSources`: the characters that have a given small letter.
-/

namespace JsonSchema.Text

/-- Code points `first`, `first + stride`, …, `last`, all moved by one distance. -/
structure Shift where
  first : Nat
  last : Nat
  stride : Nat
  distance : Int

/-- A code point that the shift moves. -/
def Shift.covers (s : Shift) (c : Nat) : Bool :=
  s.first ≤ c && c ≤ s.last && (c - s.first) % s.stride == 0

/-- The code point that the shift moves to `c`. -/
def Shift.source? (s : Shift) (c : Nat) : Option Nat :=
  let source := c - s.distance
  if source < 0 then none else if s.covers source.toNat then some source.toNat else none

/-- A case mapping, as shifts that do not overlap. -/
abbrev CaseMap := List Shift

/-- The shifts of numbers in fours: the first code point, the last one, the stride, and the image of
the first. -/
def CaseMap.ofNumbers : List Nat → CaseMap
  | first :: last :: stride :: image :: rest =>
    ⟨first, last, stride, (image : Int) - first⟩ :: CaseMap.ofNumbers rest
  | _ => []

/-- The shifts of a table of numbers. -/
def CaseMap.ofTable (table : Array Nat) : CaseMap := .ofNumbers table.toList

/-- The image of a code point; one that no shift covers stays. -/
def CaseMap.apply (m : CaseMap) (c : Nat) : Nat :=
  match m.find? (·.covers c) with
  | some s => (c + s.distance).toNat
  | none => c

/-- To small letters. -/
def toLower : CaseMap := .ofTable #[
  0x41, 0x5a, 1, 0x61, 0xc0, 0xd6, 1, 0xe0, 0xd8, 0xde, 1, 0xf8, 0x100, 0x12e, 2, 0x101,
  0x130, 0x130, 2, 0x69, 0x132, 0x136, 2, 0x133, 0x139, 0x147, 2, 0x13a, 0x14a, 0x176, 2, 0x14b,
  0x178, 0x178, 2, 0xff, 0x179, 0x17d, 2, 0x17a, 0x181, 0x181, 2, 0x253, 0x182, 0x184, 2, 0x183,
  0x186, 0x186, 2, 0x254, 0x187, 0x187, 2, 0x188, 0x189, 0x18a, 1, 0x256, 0x18b, 0x18b, 2, 0x18c,
  0x18e, 0x18e, 2, 0x1dd, 0x18f, 0x18f, 2, 0x259, 0x190, 0x190, 2, 0x25b, 0x191, 0x191, 2, 0x192,
  0x193, 0x193, 2, 0x260, 0x194, 0x194, 2, 0x263, 0x196, 0x196, 2, 0x269, 0x197, 0x197, 2, 0x268,
  0x198, 0x198, 2, 0x199, 0x19c, 0x19c, 2, 0x26f, 0x19d, 0x19d, 2, 0x272, 0x19f, 0x19f, 2, 0x275,
  0x1a0, 0x1a4, 2, 0x1a1, 0x1a6, 0x1a6, 2, 0x280, 0x1a7, 0x1a7, 2, 0x1a8, 0x1a9, 0x1a9, 2, 0x283,
  0x1ac, 0x1ac, 2, 0x1ad, 0x1ae, 0x1ae, 2, 0x288, 0x1af, 0x1af, 2, 0x1b0, 0x1b1, 0x1b2, 1, 0x28a,
  0x1b3, 0x1b5, 2, 0x1b4, 0x1b7, 0x1b7, 2, 0x292, 0x1b8, 0x1b8, 2, 0x1b9, 0x1bc, 0x1bc, 2, 0x1bd,
  0x1c4, 0x1c4, 2, 0x1c6, 0x1c5, 0x1c5, 2, 0x1c6, 0x1c7, 0x1c7, 2, 0x1c9, 0x1c8, 0x1c8, 2, 0x1c9,
  0x1ca, 0x1ca, 2, 0x1cc, 0x1cb, 0x1db, 2, 0x1cc, 0x1de, 0x1ee, 2, 0x1df, 0x1f1, 0x1f1, 2, 0x1f3,
  0x1f2, 0x1f4, 2, 0x1f3, 0x1f6, 0x1f6, 2, 0x195, 0x1f7, 0x1f7, 2, 0x1bf, 0x1f8, 0x21e, 2, 0x1f9,
  0x220, 0x220, 2, 0x19e, 0x222, 0x232, 2, 0x223, 0x23a, 0x23a, 2, 0x2c65, 0x23b, 0x23b, 2, 0x23c,
  0x23d, 0x23d, 2, 0x19a, 0x23e, 0x23e, 2, 0x2c66, 0x241, 0x241, 2, 0x242, 0x243, 0x243, 2, 0x180,
  0x244, 0x244, 2, 0x289, 0x245, 0x245, 2, 0x28c, 0x246, 0x24e, 2, 0x247, 0x370, 0x372, 2, 0x371,
  0x376, 0x376, 2, 0x377, 0x37f, 0x37f, 2, 0x3f3, 0x386, 0x386, 2, 0x3ac, 0x388, 0x38a, 1, 0x3ad,
  0x38c, 0x38c, 2, 0x3cc, 0x38e, 0x38f, 1, 0x3cd, 0x391, 0x3a1, 1, 0x3b1, 0x3a3, 0x3ab, 1, 0x3c3,
  0x3cf, 0x3cf, 2, 0x3d7, 0x3d8, 0x3ee, 2, 0x3d9, 0x3f4, 0x3f4, 2, 0x3b8, 0x3f7, 0x3f7, 2, 0x3f8,
  0x3f9, 0x3f9, 2, 0x3f2, 0x3fa, 0x3fa, 2, 0x3fb, 0x3fd, 0x3ff, 1, 0x37b, 0x400, 0x40f, 1, 0x450,
  0x410, 0x42f, 1, 0x430, 0x460, 0x480, 2, 0x461, 0x48a, 0x4be, 2, 0x48b, 0x4c0, 0x4c0, 2, 0x4cf,
  0x4c1, 0x4cd, 2, 0x4c2, 0x4d0, 0x52e, 2, 0x4d1, 0x531, 0x556, 1, 0x561,
  0x10a0, 0x10c5, 1, 0x2d00, 0x10c7, 0x10c7, 2, 0x2d27, 0x10cd, 0x10cd, 2, 0x2d2d,
  0x13a0, 0x13ef, 1, 0xab70, 0x13f0, 0x13f5, 1, 0x13f8, 0x1c90, 0x1cba, 1, 0x10d0,
  0x1cbd, 0x1cbf, 1, 0x10fd, 0x1e00, 0x1e94, 2, 0x1e01, 0x1e9e, 0x1e9e, 2, 0xdf,
  0x1ea0, 0x1efe, 2, 0x1ea1, 0x1f08, 0x1f0f, 1, 0x1f00, 0x1f18, 0x1f1d, 1, 0x1f10,
  0x1f28, 0x1f2f, 1, 0x1f20, 0x1f38, 0x1f3f, 1, 0x1f30, 0x1f48, 0x1f4d, 1, 0x1f40,
  0x1f59, 0x1f5f, 2, 0x1f51, 0x1f68, 0x1f6f, 1, 0x1f60, 0x1f88, 0x1f8f, 1, 0x1f80,
  0x1f98, 0x1f9f, 1, 0x1f90, 0x1fa8, 0x1faf, 1, 0x1fa0, 0x1fb8, 0x1fb9, 1, 0x1fb0,
  0x1fba, 0x1fbb, 1, 0x1f70, 0x1fbc, 0x1fbc, 2, 0x1fb3, 0x1fc8, 0x1fcb, 1, 0x1f72,
  0x1fcc, 0x1fcc, 2, 0x1fc3, 0x1fd8, 0x1fd9, 1, 0x1fd0, 0x1fda, 0x1fdb, 1, 0x1f76,
  0x1fe8, 0x1fe9, 1, 0x1fe0, 0x1fea, 0x1feb, 1, 0x1f7a, 0x1fec, 0x1fec, 2, 0x1fe5,
  0x1ff8, 0x1ff9, 1, 0x1f78, 0x1ffa, 0x1ffb, 1, 0x1f7c, 0x1ffc, 0x1ffc, 2, 0x1ff3,
  0x2126, 0x2126, 2, 0x3c9, 0x212a, 0x212a, 2, 0x6b, 0x212b, 0x212b, 2, 0xe5,
  0x2132, 0x2132, 2, 0x214e, 0x2160, 0x216f, 1, 0x2170, 0x2183, 0x2183, 2, 0x2184,
  0x24b6, 0x24cf, 1, 0x24d0, 0x2c00, 0x2c2f, 1, 0x2c30, 0x2c60, 0x2c60, 2, 0x2c61,
  0x2c62, 0x2c62, 2, 0x26b, 0x2c63, 0x2c63, 2, 0x1d7d, 0x2c64, 0x2c64, 2, 0x27d,
  0x2c67, 0x2c6b, 2, 0x2c68, 0x2c6d, 0x2c6d, 2, 0x251, 0x2c6e, 0x2c6e, 2, 0x271,
  0x2c6f, 0x2c6f, 2, 0x250, 0x2c70, 0x2c70, 2, 0x252, 0x2c72, 0x2c72, 2, 0x2c73,
  0x2c75, 0x2c75, 2, 0x2c76, 0x2c7e, 0x2c7f, 1, 0x23f, 0x2c80, 0x2ce2, 2, 0x2c81,
  0x2ceb, 0x2ced, 2, 0x2cec, 0x2cf2, 0x2cf2, 2, 0x2cf3, 0xa640, 0xa66c, 2, 0xa641,
  0xa680, 0xa69a, 2, 0xa681, 0xa722, 0xa72e, 2, 0xa723, 0xa732, 0xa76e, 2, 0xa733,
  0xa779, 0xa77b, 2, 0xa77a, 0xa77d, 0xa77d, 2, 0x1d79, 0xa77e, 0xa786, 2, 0xa77f,
  0xa78b, 0xa78b, 2, 0xa78c, 0xa78d, 0xa78d, 2, 0x265, 0xa790, 0xa792, 2, 0xa791,
  0xa796, 0xa7a8, 2, 0xa797, 0xa7aa, 0xa7aa, 2, 0x266, 0xa7ab, 0xa7ab, 2, 0x25c,
  0xa7ac, 0xa7ac, 2, 0x261, 0xa7ad, 0xa7ad, 2, 0x26c, 0xa7ae, 0xa7ae, 2, 0x26a,
  0xa7b0, 0xa7b0, 2, 0x29e, 0xa7b1, 0xa7b1, 2, 0x287, 0xa7b2, 0xa7b2, 2, 0x29d,
  0xa7b3, 0xa7b3, 2, 0xab53, 0xa7b4, 0xa7c2, 2, 0xa7b5, 0xa7c4, 0xa7c4, 2, 0xa794,
  0xa7c5, 0xa7c5, 2, 0x282, 0xa7c6, 0xa7c6, 2, 0x1d8e, 0xa7c7, 0xa7c9, 2, 0xa7c8,
  0xa7d0, 0xa7d0, 2, 0xa7d1, 0xa7d6, 0xa7d8, 2, 0xa7d7, 0xa7f5, 0xa7f5, 2, 0xa7f6,
  0xff21, 0xff3a, 1, 0xff41, 0x10400, 0x10427, 1, 0x10428, 0x104b0, 0x104d3, 1, 0x104d8,
  0x10570, 0x1057a, 1, 0x10597, 0x1057c, 0x1058a, 1, 0x105a3, 0x1058c, 0x10592, 1, 0x105b3,
  0x10594, 0x10595, 1, 0x105bb, 0x10c80, 0x10cb2, 1, 0x10cc0, 0x118a0, 0x118bf, 1, 0x118c0,
  0x16e40, 0x16e5f, 1, 0x16e60, 0x1e900, 0x1e921, 1, 0x1e922]

/-- To capitals. -/
def toUpper : CaseMap := .ofTable #[
  0x61, 0x7a, 1, 0x41, 0xb5, 0xb5, 2, 0x39c, 0xdf, 0xdf, 2, 0x53, 0xe0, 0xf6, 1, 0xc0,
  0xf8, 0xfe, 1, 0xd8, 0xff, 0xff, 2, 0x178, 0x101, 0x12f, 2, 0x100, 0x131, 0x131, 2, 0x49,
  0x133, 0x137, 2, 0x132, 0x13a, 0x148, 2, 0x139, 0x149, 0x149, 2, 0x2bc, 0x14b, 0x177, 2, 0x14a,
  0x17a, 0x17e, 2, 0x179, 0x17f, 0x17f, 2, 0x53, 0x180, 0x180, 2, 0x243, 0x183, 0x185, 2, 0x182,
  0x188, 0x188, 2, 0x187, 0x18c, 0x18c, 2, 0x18b, 0x192, 0x192, 2, 0x191, 0x195, 0x195, 2, 0x1f6,
  0x199, 0x199, 2, 0x198, 0x19a, 0x19a, 2, 0x23d, 0x19e, 0x19e, 2, 0x220, 0x1a1, 0x1a5, 2, 0x1a0,
  0x1a8, 0x1a8, 2, 0x1a7, 0x1ad, 0x1ad, 2, 0x1ac, 0x1b0, 0x1b0, 2, 0x1af, 0x1b4, 0x1b6, 2, 0x1b3,
  0x1b9, 0x1b9, 2, 0x1b8, 0x1bd, 0x1bd, 2, 0x1bc, 0x1bf, 0x1bf, 2, 0x1f7, 0x1c5, 0x1c5, 2, 0x1c4,
  0x1c6, 0x1c6, 2, 0x1c4, 0x1c8, 0x1c8, 2, 0x1c7, 0x1c9, 0x1c9, 2, 0x1c7, 0x1cb, 0x1cb, 2, 0x1ca,
  0x1cc, 0x1cc, 2, 0x1ca, 0x1ce, 0x1dc, 2, 0x1cd, 0x1dd, 0x1dd, 2, 0x18e, 0x1df, 0x1ef, 2, 0x1de,
  0x1f0, 0x1f0, 2, 0x4a, 0x1f2, 0x1f2, 2, 0x1f1, 0x1f3, 0x1f3, 2, 0x1f1, 0x1f5, 0x1f5, 2, 0x1f4,
  0x1f9, 0x21f, 2, 0x1f8, 0x223, 0x233, 2, 0x222, 0x23c, 0x23c, 2, 0x23b, 0x23f, 0x240, 1, 0x2c7e,
  0x242, 0x242, 2, 0x241, 0x247, 0x24f, 2, 0x246, 0x250, 0x250, 2, 0x2c6f,
  0x251, 0x251, 2, 0x2c6d, 0x252, 0x252, 2, 0x2c70, 0x253, 0x253, 2, 0x181,
  0x254, 0x254, 2, 0x186, 0x256, 0x257, 1, 0x189, 0x259, 0x259, 2, 0x18f, 0x25b, 0x25b, 2, 0x190,
  0x25c, 0x25c, 2, 0xa7ab, 0x260, 0x260, 2, 0x193, 0x261, 0x261, 2, 0xa7ac,
  0x263, 0x263, 2, 0x194, 0x265, 0x265, 2, 0xa78d, 0x266, 0x266, 2, 0xa7aa,
  0x268, 0x268, 2, 0x197, 0x269, 0x269, 2, 0x196, 0x26a, 0x26a, 2, 0xa7ae,
  0x26b, 0x26b, 2, 0x2c62, 0x26c, 0x26c, 2, 0xa7ad, 0x26f, 0x26f, 2, 0x19c,
  0x271, 0x271, 2, 0x2c6e, 0x272, 0x272, 2, 0x19d, 0x275, 0x275, 2, 0x19f,
  0x27d, 0x27d, 2, 0x2c64, 0x280, 0x280, 2, 0x1a6, 0x282, 0x282, 2, 0xa7c5,
  0x283, 0x283, 2, 0x1a9, 0x287, 0x287, 2, 0xa7b1, 0x288, 0x288, 2, 0x1ae, 0x289, 0x289, 2, 0x244,
  0x28a, 0x28b, 1, 0x1b1, 0x28c, 0x28c, 2, 0x245, 0x292, 0x292, 2, 0x1b7, 0x29d, 0x29d, 2, 0xa7b2,
  0x29e, 0x29e, 2, 0xa7b0, 0x345, 0x345, 2, 0x399, 0x371, 0x373, 2, 0x370, 0x377, 0x377, 2, 0x376,
  0x37b, 0x37d, 1, 0x3fd, 0x390, 0x390, 2, 0x399, 0x3ac, 0x3ac, 2, 0x386, 0x3ad, 0x3af, 1, 0x388,
  0x3b0, 0x3b0, 2, 0x3a5, 0x3b1, 0x3c1, 1, 0x391, 0x3c2, 0x3c2, 2, 0x3a3, 0x3c3, 0x3cb, 1, 0x3a3,
  0x3cc, 0x3cc, 2, 0x38c, 0x3cd, 0x3ce, 1, 0x38e, 0x3d0, 0x3d0, 2, 0x392, 0x3d1, 0x3d1, 2, 0x398,
  0x3d5, 0x3d5, 2, 0x3a6, 0x3d6, 0x3d6, 2, 0x3a0, 0x3d7, 0x3d7, 2, 0x3cf, 0x3d9, 0x3ef, 2, 0x3d8,
  0x3f0, 0x3f0, 2, 0x39a, 0x3f1, 0x3f1, 2, 0x3a1, 0x3f2, 0x3f2, 2, 0x3f9, 0x3f3, 0x3f3, 2, 0x37f,
  0x3f5, 0x3f5, 2, 0x395, 0x3f8, 0x3f8, 2, 0x3f7, 0x3fb, 0x3fb, 2, 0x3fa, 0x430, 0x44f, 1, 0x410,
  0x450, 0x45f, 1, 0x400, 0x461, 0x481, 2, 0x460, 0x48b, 0x4bf, 2, 0x48a, 0x4c2, 0x4ce, 2, 0x4c1,
  0x4cf, 0x4cf, 2, 0x4c0, 0x4d1, 0x52f, 2, 0x4d0, 0x561, 0x586, 1, 0x531, 0x587, 0x587, 2, 0x535,
  0x10d0, 0x10fa, 1, 0x1c90, 0x10fd, 0x10ff, 1, 0x1cbd, 0x13f8, 0x13fd, 1, 0x13f0,
  0x1c80, 0x1c80, 2, 0x412, 0x1c81, 0x1c81, 2, 0x414, 0x1c82, 0x1c82, 2, 0x41e,
  0x1c83, 0x1c84, 1, 0x421, 0x1c85, 0x1c85, 2, 0x422, 0x1c86, 0x1c86, 2, 0x42a,
  0x1c87, 0x1c87, 2, 0x462, 0x1c88, 0x1c88, 2, 0xa64a, 0x1d79, 0x1d79, 2, 0xa77d,
  0x1d7d, 0x1d7d, 2, 0x2c63, 0x1d8e, 0x1d8e, 2, 0xa7c6, 0x1e01, 0x1e95, 2, 0x1e00,
  0x1e96, 0x1e96, 2, 0x48, 0x1e97, 0x1e97, 2, 0x54, 0x1e98, 0x1e98, 2, 0x57,
  0x1e99, 0x1e99, 2, 0x59, 0x1e9a, 0x1e9a, 2, 0x41, 0x1e9b, 0x1e9b, 2, 0x1e60,
  0x1ea1, 0x1eff, 2, 0x1ea0, 0x1f00, 0x1f07, 1, 0x1f08, 0x1f10, 0x1f15, 1, 0x1f18,
  0x1f20, 0x1f27, 1, 0x1f28, 0x1f30, 0x1f37, 1, 0x1f38, 0x1f40, 0x1f45, 1, 0x1f48,
  0x1f50, 0x1f50, 2, 0x3a5, 0x1f51, 0x1f51, 2, 0x1f59, 0x1f52, 0x1f52, 2, 0x3a5,
  0x1f53, 0x1f53, 2, 0x1f5b, 0x1f54, 0x1f54, 2, 0x3a5, 0x1f55, 0x1f55, 2, 0x1f5d,
  0x1f56, 0x1f56, 2, 0x3a5, 0x1f57, 0x1f57, 2, 0x1f5f, 0x1f60, 0x1f67, 1, 0x1f68,
  0x1f70, 0x1f71, 1, 0x1fba, 0x1f72, 0x1f75, 1, 0x1fc8, 0x1f76, 0x1f77, 1, 0x1fda,
  0x1f78, 0x1f79, 1, 0x1ff8, 0x1f7a, 0x1f7b, 1, 0x1fea, 0x1f7c, 0x1f7d, 1, 0x1ffa,
  0x1f80, 0x1f87, 1, 0x1f08, 0x1f88, 0x1f8f, 1, 0x1f08, 0x1f90, 0x1f97, 1, 0x1f28,
  0x1f98, 0x1f9f, 1, 0x1f28, 0x1fa0, 0x1fa7, 1, 0x1f68, 0x1fa8, 0x1faf, 1, 0x1f68,
  0x1fb0, 0x1fb2, 1, 0x1fb8, 0x1fb3, 0x1fb3, 2, 0x391, 0x1fb4, 0x1fb4, 2, 0x386,
  0x1fb6, 0x1fb6, 2, 0x391, 0x1fb7, 0x1fb7, 2, 0x391, 0x1fbc, 0x1fbc, 2, 0x391,
  0x1fbe, 0x1fbe, 2, 0x399, 0x1fc2, 0x1fc2, 2, 0x1fca, 0x1fc3, 0x1fc3, 2, 0x397,
  0x1fc4, 0x1fc4, 2, 0x389, 0x1fc6, 0x1fc6, 2, 0x397, 0x1fc7, 0x1fc7, 2, 0x397,
  0x1fcc, 0x1fcc, 2, 0x397, 0x1fd0, 0x1fd1, 1, 0x1fd8, 0x1fd2, 0x1fd2, 2, 0x399,
  0x1fd3, 0x1fd3, 2, 0x399, 0x1fd6, 0x1fd6, 2, 0x399, 0x1fd7, 0x1fd7, 2, 0x399,
  0x1fe0, 0x1fe1, 1, 0x1fe8, 0x1fe2, 0x1fe2, 2, 0x3a5, 0x1fe3, 0x1fe3, 2, 0x3a5,
  0x1fe4, 0x1fe4, 2, 0x3a1, 0x1fe5, 0x1fe5, 2, 0x1fec, 0x1fe6, 0x1fe6, 2, 0x3a5,
  0x1fe7, 0x1fe7, 2, 0x3a5, 0x1ff2, 0x1ff2, 2, 0x1ffa, 0x1ff3, 0x1ff3, 2, 0x3a9,
  0x1ff4, 0x1ff4, 2, 0x38f, 0x1ff6, 0x1ff6, 2, 0x3a9, 0x1ff7, 0x1ff7, 2, 0x3a9,
  0x1ffc, 0x1ffc, 2, 0x3a9, 0x214e, 0x214e, 2, 0x2132, 0x2170, 0x217f, 1, 0x2160,
  0x2184, 0x2184, 2, 0x2183, 0x24d0, 0x24e9, 1, 0x24b6, 0x2c30, 0x2c5f, 1, 0x2c00,
  0x2c61, 0x2c61, 2, 0x2c60, 0x2c65, 0x2c65, 2, 0x23a, 0x2c66, 0x2c66, 2, 0x23e,
  0x2c68, 0x2c6c, 2, 0x2c67, 0x2c73, 0x2c73, 2, 0x2c72, 0x2c76, 0x2c76, 2, 0x2c75,
  0x2c81, 0x2ce3, 2, 0x2c80, 0x2cec, 0x2cee, 2, 0x2ceb, 0x2cf3, 0x2cf3, 2, 0x2cf2,
  0x2d00, 0x2d25, 1, 0x10a0, 0x2d27, 0x2d27, 2, 0x10c7, 0x2d2d, 0x2d2d, 2, 0x10cd,
  0xa641, 0xa66d, 2, 0xa640, 0xa681, 0xa69b, 2, 0xa680, 0xa723, 0xa72f, 2, 0xa722,
  0xa733, 0xa76f, 2, 0xa732, 0xa77a, 0xa77c, 2, 0xa779, 0xa77f, 0xa787, 2, 0xa77e,
  0xa78c, 0xa78c, 2, 0xa78b, 0xa791, 0xa793, 2, 0xa790, 0xa794, 0xa794, 2, 0xa7c4,
  0xa797, 0xa7a9, 2, 0xa796, 0xa7b5, 0xa7c3, 2, 0xa7b4, 0xa7c8, 0xa7ca, 2, 0xa7c7,
  0xa7d1, 0xa7d1, 2, 0xa7d0, 0xa7d7, 0xa7d9, 2, 0xa7d6, 0xa7f6, 0xa7f6, 2, 0xa7f5,
  0xab53, 0xab53, 2, 0xa7b3, 0xab70, 0xabbf, 1, 0x13a0, 0xfb00, 0xfb00, 2, 0x46,
  0xfb01, 0xfb01, 2, 0x46, 0xfb02, 0xfb02, 2, 0x46, 0xfb03, 0xfb03, 2, 0x46,
  0xfb04, 0xfb04, 2, 0x46, 0xfb05, 0xfb05, 2, 0x53, 0xfb06, 0xfb06, 2, 0x53,
  0xfb13, 0xfb13, 2, 0x544, 0xfb14, 0xfb14, 2, 0x544, 0xfb15, 0xfb15, 2, 0x544,
  0xfb16, 0xfb16, 2, 0x54e, 0xfb17, 0xfb17, 2, 0x544, 0xff41, 0xff5a, 1, 0xff21,
  0x10428, 0x1044f, 1, 0x10400, 0x104d8, 0x104fb, 1, 0x104b0, 0x10597, 0x105a1, 1, 0x10570,
  0x105a3, 0x105b1, 1, 0x1057c, 0x105b3, 0x105b9, 1, 0x1058c, 0x105bb, 0x105bc, 1, 0x10594,
  0x10cc0, 0x10cf2, 1, 0x10c80, 0x118c0, 0x118df, 1, 0x118a0, 0x16e60, 0x16e7f, 1, 0x16e40,
  0x1e922, 0x1e943, 1, 0x1e900]

/-- Sets of small letters that share a capital. -/
def sameCapital : List (List Nat) := [
  [0x69, 0x131], [0x73, 0x17f], [0xb5, 0x3bc], [0x345, 0x3b9, 0x1fbe], [0x390, 0x1fd3],
  [0x3b0, 0x1fe3], [0x3b2, 0x3d0], [0x3b5, 0x3f5], [0x3b8, 0x3d1], [0x3ba, 0x3f0],
  [0x3c0, 0x3d6], [0x3c1, 0x3f1], [0x3c2, 0x3c3], [0x3c6, 0x3d5], [0x432, 0x1c80],
  [0x434, 0x1c81], [0x43e, 0x1c82], [0x441, 0x1c83], [0x442, 0x1c84, 0x1c85], [0x44a, 0x1c86],
  [0x463, 0x1c87], [0x1c88, 0xa64b], [0x1e61, 0x1e9b], [0xfb05, 0xfb06]]

/-- The small letter of a character. -/
def lower (c : Nat) : Nat := toLower.apply c

/-- The capital of a character. -/
def upper (c : Nat) : Nat := toUpper.apply c

/-- A character with a small or a capital form other than itself. -/
def isCased (c : Nat) : Bool := lower c != c || upper c != c

/-- The other small letters with the same capital. -/
def lowerVariants (c : Nat) : List Nat :=
  match sameCapital.find? (·.contains c) with
  | some letters => letters.erase c
  | none => []

/-- The characters whose small letter is `c`. -/
def lowerSources (c : Nat) : List Nat :=
  let moved := toLower.filterMap (·.source? c)
  if lower c = c then c :: moved else moved

/-- The small letter of an ASCII capital; every other character stays. -/
def asciiLower (c : Nat) : Nat := if 0x41 ≤ c && c ≤ 0x5a then c + 32 else c

/-- A letter of ASCII. -/
def isAsciiCased (c : Nat) : Bool := (0x41 ≤ c && c ≤ 0x5a) || (0x61 ≤ c && c ≤ 0x7a)

end JsonSchema.Text
