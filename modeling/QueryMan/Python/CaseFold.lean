import Mathlib.Data.List.Basic

/-!
# `str.casefold`

Full case folding of a string, code point by code point, as the Unicode standard tabulates it: a
code point folds to itself, to one other code point (`foldRuns`, run-length encoded) or to several
(`fullFoldings`). Folding is idempotent (`casefold_casefold`): no code point that a folding writes
folds further.
-/

namespace Python

/-- A run of code points that fold one to one: `lo`, `lo + step`, …, `hi` fold to `target`,
`target + step`, …. A run of one code point has step 2. -/
structure FoldRun where
  lo : Nat
  hi : Nat
  step : Nat
  target : Nat

/-- `c` is one of the run's code points. -/
def FoldRun.covers (r : FoldRun) (c : Nat) : Bool :=
  decide (r.lo ≤ c) && decide (c ≤ r.hi) && (c - r.lo) % r.step == 0

/-- The code points that fold to one other code point. -/
def foldRuns : List FoldRun :=
  [⟨0x41, 0x5a, 1, 0x61⟩, ⟨0xb5, 0xb5, 2, 0x3bc⟩, ⟨0xc0, 0xd6, 1, 0xe0⟩, ⟨0xd8, 0xde, 1, 0xf8⟩,
   ⟨0x100, 0x12e, 2, 0x101⟩, ⟨0x132, 0x136, 2, 0x133⟩, ⟨0x139, 0x147, 2, 0x13a⟩,
   ⟨0x14a, 0x176, 2, 0x14b⟩, ⟨0x178, 0x178, 2, 0xff⟩, ⟨0x179, 0x17d, 2, 0x17a⟩,
   ⟨0x17f, 0x17f, 2, 0x73⟩, ⟨0x181, 0x181, 2, 0x253⟩, ⟨0x182, 0x184, 2, 0x183⟩,
   ⟨0x186, 0x186, 2, 0x254⟩, ⟨0x187, 0x187, 2, 0x188⟩, ⟨0x189, 0x18a, 1, 0x256⟩,
   ⟨0x18b, 0x18b, 2, 0x18c⟩, ⟨0x18e, 0x18e, 2, 0x1dd⟩, ⟨0x18f, 0x18f, 2, 0x259⟩,
   ⟨0x190, 0x190, 2, 0x25b⟩, ⟨0x191, 0x191, 2, 0x192⟩, ⟨0x193, 0x193, 2, 0x260⟩,
   ⟨0x194, 0x194, 2, 0x263⟩, ⟨0x196, 0x196, 2, 0x269⟩, ⟨0x197, 0x197, 2, 0x268⟩,
   ⟨0x198, 0x198, 2, 0x199⟩, ⟨0x19c, 0x19c, 2, 0x26f⟩, ⟨0x19d, 0x19d, 2, 0x272⟩,
   ⟨0x19f, 0x19f, 2, 0x275⟩, ⟨0x1a0, 0x1a4, 2, 0x1a1⟩, ⟨0x1a6, 0x1a6, 2, 0x280⟩,
   ⟨0x1a7, 0x1a7, 2, 0x1a8⟩, ⟨0x1a9, 0x1a9, 2, 0x283⟩, ⟨0x1ac, 0x1ac, 2, 0x1ad⟩,
   ⟨0x1ae, 0x1ae, 2, 0x288⟩, ⟨0x1af, 0x1af, 2, 0x1b0⟩, ⟨0x1b1, 0x1b2, 1, 0x28a⟩,
   ⟨0x1b3, 0x1b5, 2, 0x1b4⟩, ⟨0x1b7, 0x1b7, 2, 0x292⟩, ⟨0x1b8, 0x1b8, 2, 0x1b9⟩,
   ⟨0x1bc, 0x1bc, 2, 0x1bd⟩, ⟨0x1c4, 0x1c4, 2, 0x1c6⟩, ⟨0x1c5, 0x1c5, 2, 0x1c6⟩,
   ⟨0x1c7, 0x1c7, 2, 0x1c9⟩, ⟨0x1c8, 0x1c8, 2, 0x1c9⟩, ⟨0x1ca, 0x1ca, 2, 0x1cc⟩,
   ⟨0x1cb, 0x1db, 2, 0x1cc⟩, ⟨0x1de, 0x1ee, 2, 0x1df⟩, ⟨0x1f1, 0x1f1, 2, 0x1f3⟩,
   ⟨0x1f2, 0x1f4, 2, 0x1f3⟩, ⟨0x1f6, 0x1f6, 2, 0x195⟩, ⟨0x1f7, 0x1f7, 2, 0x1bf⟩,
   ⟨0x1f8, 0x21e, 2, 0x1f9⟩, ⟨0x220, 0x220, 2, 0x19e⟩, ⟨0x222, 0x232, 2, 0x223⟩,
   ⟨0x23a, 0x23a, 2, 0x2c65⟩, ⟨0x23b, 0x23b, 2, 0x23c⟩, ⟨0x23d, 0x23d, 2, 0x19a⟩,
   ⟨0x23e, 0x23e, 2, 0x2c66⟩, ⟨0x241, 0x241, 2, 0x242⟩, ⟨0x243, 0x243, 2, 0x180⟩,
   ⟨0x244, 0x244, 2, 0x289⟩, ⟨0x245, 0x245, 2, 0x28c⟩, ⟨0x246, 0x24e, 2, 0x247⟩,
   ⟨0x345, 0x345, 2, 0x3b9⟩, ⟨0x370, 0x372, 2, 0x371⟩, ⟨0x376, 0x376, 2, 0x377⟩,
   ⟨0x37f, 0x37f, 2, 0x3f3⟩, ⟨0x386, 0x386, 2, 0x3ac⟩, ⟨0x388, 0x38a, 1, 0x3ad⟩,
   ⟨0x38c, 0x38c, 2, 0x3cc⟩, ⟨0x38e, 0x38f, 1, 0x3cd⟩, ⟨0x391, 0x3a1, 1, 0x3b1⟩,
   ⟨0x3a3, 0x3ab, 1, 0x3c3⟩, ⟨0x3c2, 0x3c2, 2, 0x3c3⟩, ⟨0x3cf, 0x3cf, 2, 0x3d7⟩,
   ⟨0x3d0, 0x3d0, 2, 0x3b2⟩, ⟨0x3d1, 0x3d1, 2, 0x3b8⟩, ⟨0x3d5, 0x3d5, 2, 0x3c6⟩,
   ⟨0x3d6, 0x3d6, 2, 0x3c0⟩, ⟨0x3d8, 0x3ee, 2, 0x3d9⟩, ⟨0x3f0, 0x3f0, 2, 0x3ba⟩,
   ⟨0x3f1, 0x3f1, 2, 0x3c1⟩, ⟨0x3f4, 0x3f4, 2, 0x3b8⟩, ⟨0x3f5, 0x3f5, 2, 0x3b5⟩,
   ⟨0x3f7, 0x3f7, 2, 0x3f8⟩, ⟨0x3f9, 0x3f9, 2, 0x3f2⟩, ⟨0x3fa, 0x3fa, 2, 0x3fb⟩,
   ⟨0x3fd, 0x3ff, 1, 0x37b⟩, ⟨0x400, 0x40f, 1, 0x450⟩, ⟨0x410, 0x42f, 1, 0x430⟩,
   ⟨0x460, 0x480, 2, 0x461⟩, ⟨0x48a, 0x4be, 2, 0x48b⟩, ⟨0x4c0, 0x4c0, 2, 0x4cf⟩,
   ⟨0x4c1, 0x4cd, 2, 0x4c2⟩, ⟨0x4d0, 0x52e, 2, 0x4d1⟩, ⟨0x531, 0x556, 1, 0x561⟩,
   ⟨0x10a0, 0x10c5, 1, 0x2d00⟩, ⟨0x10c7, 0x10c7, 2, 0x2d27⟩, ⟨0x10cd, 0x10cd, 2, 0x2d2d⟩,
   ⟨0x13f8, 0x13fd, 1, 0x13f0⟩, ⟨0x1c80, 0x1c80, 2, 0x432⟩, ⟨0x1c81, 0x1c81, 2, 0x434⟩,
   ⟨0x1c82, 0x1c82, 2, 0x43e⟩, ⟨0x1c83, 0x1c84, 1, 0x441⟩, ⟨0x1c85, 0x1c85, 2, 0x442⟩,
   ⟨0x1c86, 0x1c86, 2, 0x44a⟩, ⟨0x1c87, 0x1c87, 2, 0x463⟩, ⟨0x1c88, 0x1c88, 2, 0xa64b⟩,
   ⟨0x1c89, 0x1c89, 2, 0x1c8a⟩, ⟨0x1c90, 0x1cba, 1, 0x10d0⟩, ⟨0x1cbd, 0x1cbf, 1, 0x10fd⟩,
   ⟨0x1e00, 0x1e94, 2, 0x1e01⟩, ⟨0x1e9b, 0x1e9b, 2, 0x1e61⟩, ⟨0x1ea0, 0x1efe, 2, 0x1ea1⟩,
   ⟨0x1f08, 0x1f0f, 1, 0x1f00⟩, ⟨0x1f18, 0x1f1d, 1, 0x1f10⟩, ⟨0x1f28, 0x1f2f, 1, 0x1f20⟩,
   ⟨0x1f38, 0x1f3f, 1, 0x1f30⟩, ⟨0x1f48, 0x1f4d, 1, 0x1f40⟩, ⟨0x1f59, 0x1f5f, 2, 0x1f51⟩,
   ⟨0x1f68, 0x1f6f, 1, 0x1f60⟩, ⟨0x1fb8, 0x1fb9, 1, 0x1fb0⟩, ⟨0x1fba, 0x1fbb, 1, 0x1f70⟩,
   ⟨0x1fbe, 0x1fbe, 2, 0x3b9⟩, ⟨0x1fc8, 0x1fcb, 1, 0x1f72⟩, ⟨0x1fd8, 0x1fd9, 1, 0x1fd0⟩,
   ⟨0x1fda, 0x1fdb, 1, 0x1f76⟩, ⟨0x1fe8, 0x1fe9, 1, 0x1fe0⟩, ⟨0x1fea, 0x1feb, 1, 0x1f7a⟩,
   ⟨0x1fec, 0x1fec, 2, 0x1fe5⟩, ⟨0x1ff8, 0x1ff9, 1, 0x1f78⟩, ⟨0x1ffa, 0x1ffb, 1, 0x1f7c⟩,
   ⟨0x2126, 0x2126, 2, 0x3c9⟩, ⟨0x212a, 0x212a, 2, 0x6b⟩, ⟨0x212b, 0x212b, 2, 0xe5⟩,
   ⟨0x2132, 0x2132, 2, 0x214e⟩, ⟨0x2160, 0x216f, 1, 0x2170⟩, ⟨0x2183, 0x2183, 2, 0x2184⟩,
   ⟨0x24b6, 0x24cf, 1, 0x24d0⟩, ⟨0x2c00, 0x2c2f, 1, 0x2c30⟩, ⟨0x2c60, 0x2c60, 2, 0x2c61⟩,
   ⟨0x2c62, 0x2c62, 2, 0x26b⟩, ⟨0x2c63, 0x2c63, 2, 0x1d7d⟩, ⟨0x2c64, 0x2c64, 2, 0x27d⟩,
   ⟨0x2c67, 0x2c6b, 2, 0x2c68⟩, ⟨0x2c6d, 0x2c6d, 2, 0x251⟩, ⟨0x2c6e, 0x2c6e, 2, 0x271⟩,
   ⟨0x2c6f, 0x2c6f, 2, 0x250⟩, ⟨0x2c70, 0x2c70, 2, 0x252⟩, ⟨0x2c72, 0x2c72, 2, 0x2c73⟩,
   ⟨0x2c75, 0x2c75, 2, 0x2c76⟩, ⟨0x2c7e, 0x2c7f, 1, 0x23f⟩, ⟨0x2c80, 0x2ce2, 2, 0x2c81⟩,
   ⟨0x2ceb, 0x2ced, 2, 0x2cec⟩, ⟨0x2cf2, 0x2cf2, 2, 0x2cf3⟩, ⟨0xa640, 0xa66c, 2, 0xa641⟩,
   ⟨0xa680, 0xa69a, 2, 0xa681⟩, ⟨0xa722, 0xa72e, 2, 0xa723⟩, ⟨0xa732, 0xa76e, 2, 0xa733⟩,
   ⟨0xa779, 0xa77b, 2, 0xa77a⟩, ⟨0xa77d, 0xa77d, 2, 0x1d79⟩, ⟨0xa77e, 0xa786, 2, 0xa77f⟩,
   ⟨0xa78b, 0xa78b, 2, 0xa78c⟩, ⟨0xa78d, 0xa78d, 2, 0x265⟩, ⟨0xa790, 0xa792, 2, 0xa791⟩,
   ⟨0xa796, 0xa7a8, 2, 0xa797⟩, ⟨0xa7aa, 0xa7aa, 2, 0x266⟩, ⟨0xa7ab, 0xa7ab, 2, 0x25c⟩,
   ⟨0xa7ac, 0xa7ac, 2, 0x261⟩, ⟨0xa7ad, 0xa7ad, 2, 0x26c⟩, ⟨0xa7ae, 0xa7ae, 2, 0x26a⟩,
   ⟨0xa7b0, 0xa7b0, 2, 0x29e⟩, ⟨0xa7b1, 0xa7b1, 2, 0x287⟩, ⟨0xa7b2, 0xa7b2, 2, 0x29d⟩,
   ⟨0xa7b3, 0xa7b3, 2, 0xab53⟩, ⟨0xa7b4, 0xa7c2, 2, 0xa7b5⟩, ⟨0xa7c4, 0xa7c4, 2, 0xa794⟩,
   ⟨0xa7c5, 0xa7c5, 2, 0x282⟩, ⟨0xa7c6, 0xa7c6, 2, 0x1d8e⟩, ⟨0xa7c7, 0xa7c9, 2, 0xa7c8⟩,
   ⟨0xa7cb, 0xa7cb, 2, 0x264⟩, ⟨0xa7cc, 0xa7cc, 2, 0xa7cd⟩, ⟨0xa7d0, 0xa7d0, 2, 0xa7d1⟩,
   ⟨0xa7d6, 0xa7da, 2, 0xa7d7⟩, ⟨0xa7dc, 0xa7dc, 2, 0x19b⟩, ⟨0xa7f5, 0xa7f5, 2, 0xa7f6⟩,
   ⟨0xab70, 0xabbf, 1, 0x13a0⟩, ⟨0xff21, 0xff3a, 1, 0xff41⟩, ⟨0x10400, 0x10427, 1, 0x10428⟩,
   ⟨0x104b0, 0x104d3, 1, 0x104d8⟩, ⟨0x10570, 0x1057a, 1, 0x10597⟩,
   ⟨0x1057c, 0x1058a, 1, 0x105a3⟩, ⟨0x1058c, 0x10592, 1, 0x105b3⟩,
   ⟨0x10594, 0x10595, 1, 0x105bb⟩, ⟨0x10c80, 0x10cb2, 1, 0x10cc0⟩,
   ⟨0x10d50, 0x10d65, 1, 0x10d70⟩, ⟨0x118a0, 0x118bf, 1, 0x118c0⟩,
   ⟨0x16e40, 0x16e5f, 1, 0x16e60⟩, ⟨0x1e900, 0x1e921, 1, 0x1e922⟩]

/-- The code points that fold to several code points. -/
def fullFoldings : List (Nat × List Nat) :=
  [(0xdf, [0x73, 0x73]), (0x130, [0x69, 0x307]), (0x149, [0x2bc, 0x6e]),
   (0x1f0, [0x6a, 0x30c]), (0x390, [0x3b9, 0x308, 0x301]), (0x3b0, [0x3c5, 0x308, 0x301]),
   (0x587, [0x565, 0x582]), (0x1e96, [0x68, 0x331]), (0x1e97, [0x74, 0x308]),
   (0x1e98, [0x77, 0x30a]), (0x1e99, [0x79, 0x30a]), (0x1e9a, [0x61, 0x2be]),
   (0x1e9e, [0x73, 0x73]), (0x1f50, [0x3c5, 0x313]), (0x1f52, [0x3c5, 0x313, 0x300]),
   (0x1f54, [0x3c5, 0x313, 0x301]), (0x1f56, [0x3c5, 0x313, 0x342]), (0x1f80, [0x1f00, 0x3b9]),
   (0x1f81, [0x1f01, 0x3b9]), (0x1f82, [0x1f02, 0x3b9]), (0x1f83, [0x1f03, 0x3b9]),
   (0x1f84, [0x1f04, 0x3b9]), (0x1f85, [0x1f05, 0x3b9]), (0x1f86, [0x1f06, 0x3b9]),
   (0x1f87, [0x1f07, 0x3b9]), (0x1f88, [0x1f00, 0x3b9]), (0x1f89, [0x1f01, 0x3b9]),
   (0x1f8a, [0x1f02, 0x3b9]), (0x1f8b, [0x1f03, 0x3b9]), (0x1f8c, [0x1f04, 0x3b9]),
   (0x1f8d, [0x1f05, 0x3b9]), (0x1f8e, [0x1f06, 0x3b9]), (0x1f8f, [0x1f07, 0x3b9]),
   (0x1f90, [0x1f20, 0x3b9]), (0x1f91, [0x1f21, 0x3b9]), (0x1f92, [0x1f22, 0x3b9]),
   (0x1f93, [0x1f23, 0x3b9]), (0x1f94, [0x1f24, 0x3b9]), (0x1f95, [0x1f25, 0x3b9]),
   (0x1f96, [0x1f26, 0x3b9]), (0x1f97, [0x1f27, 0x3b9]), (0x1f98, [0x1f20, 0x3b9]),
   (0x1f99, [0x1f21, 0x3b9]), (0x1f9a, [0x1f22, 0x3b9]), (0x1f9b, [0x1f23, 0x3b9]),
   (0x1f9c, [0x1f24, 0x3b9]), (0x1f9d, [0x1f25, 0x3b9]), (0x1f9e, [0x1f26, 0x3b9]),
   (0x1f9f, [0x1f27, 0x3b9]), (0x1fa0, [0x1f60, 0x3b9]), (0x1fa1, [0x1f61, 0x3b9]),
   (0x1fa2, [0x1f62, 0x3b9]), (0x1fa3, [0x1f63, 0x3b9]), (0x1fa4, [0x1f64, 0x3b9]),
   (0x1fa5, [0x1f65, 0x3b9]), (0x1fa6, [0x1f66, 0x3b9]), (0x1fa7, [0x1f67, 0x3b9]),
   (0x1fa8, [0x1f60, 0x3b9]), (0x1fa9, [0x1f61, 0x3b9]), (0x1faa, [0x1f62, 0x3b9]),
   (0x1fab, [0x1f63, 0x3b9]), (0x1fac, [0x1f64, 0x3b9]), (0x1fad, [0x1f65, 0x3b9]),
   (0x1fae, [0x1f66, 0x3b9]), (0x1faf, [0x1f67, 0x3b9]), (0x1fb2, [0x1f70, 0x3b9]),
   (0x1fb3, [0x3b1, 0x3b9]), (0x1fb4, [0x3ac, 0x3b9]), (0x1fb6, [0x3b1, 0x342]),
   (0x1fb7, [0x3b1, 0x342, 0x3b9]), (0x1fbc, [0x3b1, 0x3b9]), (0x1fc2, [0x1f74, 0x3b9]),
   (0x1fc3, [0x3b7, 0x3b9]), (0x1fc4, [0x3ae, 0x3b9]), (0x1fc6, [0x3b7, 0x342]),
   (0x1fc7, [0x3b7, 0x342, 0x3b9]), (0x1fcc, [0x3b7, 0x3b9]), (0x1fd2, [0x3b9, 0x308, 0x300]),
   (0x1fd3, [0x3b9, 0x308, 0x301]), (0x1fd6, [0x3b9, 0x342]), (0x1fd7, [0x3b9, 0x308, 0x342]),
   (0x1fe2, [0x3c5, 0x308, 0x300]), (0x1fe3, [0x3c5, 0x308, 0x301]), (0x1fe4, [0x3c1, 0x313]),
   (0x1fe6, [0x3c5, 0x342]), (0x1fe7, [0x3c5, 0x308, 0x342]), (0x1ff2, [0x1f7c, 0x3b9]),
   (0x1ff3, [0x3c9, 0x3b9]), (0x1ff4, [0x3ce, 0x3b9]), (0x1ff6, [0x3c9, 0x342]),
   (0x1ff7, [0x3c9, 0x342, 0x3b9]), (0x1ffc, [0x3c9, 0x3b9]), (0xfb00, [0x66, 0x66]),
   (0xfb01, [0x66, 0x69]), (0xfb02, [0x66, 0x6c]), (0xfb03, [0x66, 0x66, 0x69]),
   (0xfb04, [0x66, 0x66, 0x6c]), (0xfb05, [0x73, 0x74]), (0xfb06, [0x73, 0x74]),
   (0xfb13, [0x574, 0x576]), (0xfb14, [0x574, 0x565]), (0xfb15, [0x574, 0x56b]),
   (0xfb16, [0x57e, 0x576]), (0xfb17, [0x574, 0x56d])]

/-- The code points that `c` folds to. -/
def foldCode (c : Nat) : List Nat :=
  match fullFoldings.lookup c with
  | some cs => cs
  | none =>
    match foldRuns.find? (·.covers c) with
    | some r => [r.target + (c - r.lo)]
    | none => [c]

/-- `str.casefold`. -/
def casefold (s : String) : String :=
  String.ofList (s.toList.flatMap fun c => (foldCode c.toNat).map Char.ofNat)

example : casefold "PG_Catalog" = "pg_catalog" := by decide

/-! ## Folding is idempotent -/

/-- No folding applies to `d`. -/
def foldsToItself (d : Nat) : Bool :=
  (fullFoldings.lookup d).isNone && (foldRuns.find? (·.covers d)).isNone

/-- The code points that `r` folds to are none of those `s` folds: the two intervals are disjoint,
or they interleave. -/
def FoldRun.avoids (r s : FoldRun) : Bool :=
  (r.target + (r.hi - r.lo)).blt s.lo || s.hi.blt r.target ||
    (r.step.beq 2 && s.step.beq 2 && ((r.target + s.lo) % 2).beq 1)

/-- `FoldRun.avoids` for one code point of `fullFoldings`. -/
def FoldRun.avoidsCode (r : FoldRun) (d : Nat) : Bool :=
  (r.target + (r.hi - r.lo)).blt d || d.blt r.target ||
    (r.step.beq 2 && ((r.target + d) % 2).beq 1)

theorem fullFoldings_fixed :
    (fullFoldings.all fun p => p.2.all fun d => foldsToItself d) = true := by decide +kernel

theorem fullFoldings_valid :
    (fullFoldings.all fun p => p.2.all fun d => decide d.isValidChar) = true := by decide +kernel

theorem foldRuns_avoid :
    (foldRuns.all fun r => foldRuns.all r.avoids) = true := by decide +kernel

theorem foldRuns_avoidCode :
    (foldRuns.all fun r => fullFoldings.all fun p => r.avoidsCode p.1) = true := by decide +kernel

/-- Every run lies, with what it folds to, on one side of the surrogates. -/
theorem foldRuns_valid :
    (foldRuns.all fun r => (r.target + (r.hi - r.lo)).blt 0xd800 ||
      (Nat.blt 0xdfff r.target && (r.target + (r.hi - r.lo)).blt 0x110000)) = true := by
  decide +kernel

theorem FoldRun.covers_iff {r : FoldRun} {c : Nat} :
    r.covers c = true ↔ r.lo ≤ c ∧ c ≤ r.hi ∧ (c - r.lo) % r.step = 0 := by
  simp [covers, and_assoc]

/-- A run's image avoids every run that `FoldRun.avoids` says it does. -/
theorem FoldRun.not_covers_of_avoids {r s : FoldRun} {c : Nat} (h : r.avoids s = true)
    (hc : r.covers c = true) : s.covers (r.target + (c - r.lo)) = false := by
  obtain ⟨hlo, hhi, hstep⟩ := FoldRun.covers_iff.1 hc
  rw [Bool.eq_false_iff, ne_eq, FoldRun.covers_iff]
  rintro ⟨h1, h2, h3⟩
  simp only [avoids, Bool.or_eq_true, Bool.and_eq_true, Nat.blt_eq, Nat.beq_eq] at h
  rcases h with (h | h) | ⟨⟨hr, hs⟩, h⟩
  · omega
  · omega
  · rw [hr] at hstep
    rw [hs] at h3
    omega

theorem FoldRun.ne_of_avoidsCode {r : FoldRun} {c d : Nat} (h : r.avoidsCode d = true)
    (hc : r.covers c = true) : r.target + (c - r.lo) ≠ d := by
  obtain ⟨hlo, hhi, hstep⟩ := FoldRun.covers_iff.1 hc
  simp only [avoidsCode, Bool.or_eq_true, Bool.and_eq_true, Nat.blt_eq, Nat.beq_eq] at h
  rcases h with (h | h) | ⟨hr, h⟩
  · omega
  · omega
  · rw [hr] at hstep
    omega

theorem foldsToItself_iff {d : Nat} :
    foldsToItself d = true ↔
      (∀ p ∈ fullFoldings, p.1 ≠ d) ∧ ∀ s ∈ foldRuns, s.covers d = false := by
  simp only [foldsToItself, Bool.and_eq_true, Option.isNone_iff_eq_none, List.find?_eq_none,
    Bool.not_eq_true]
  refine and_congr_left fun _ => ?_
  rw [List.lookup_eq_none_iff]
  exact forall₂_congr fun p _ => by rw [bne_iff_ne]; exact ne_comm

theorem foldCode_of_foldsToItself {d : Nat} (h : foldsToItself d = true) : foldCode d = [d] := by
  simp only [foldsToItself, Bool.and_eq_true, Option.isNone_iff_eq_none] at h
  simp [foldCode, h.1, h.2]

/-- What a folding writes folds to itself. -/
theorem foldsToItself_of_mem_foldCode {c d : Nat} (h : d ∈ foldCode c) :
    foldsToItself d = true := by
  unfold foldCode at h
  split at h
  · next cs hl =>
    obtain ⟨_, _, heq, -⟩ := List.lookup_eq_some_iff.1 hl
    have hmem : (c, cs) ∈ fullFoldings := heq ▸ List.mem_append_right _ List.mem_cons_self
    exact List.all_eq_true.1 (List.all_eq_true.1 fullFoldings_fixed _ hmem) d h
  · next hl =>
    split at h
    · next r hr =>
      rw [List.mem_singleton] at h
      subst h
      have hmem := List.mem_of_find?_eq_some hr
      have hc : r.covers c = true := by simpa using List.find?_some hr
      rw [foldsToItself_iff]
      refine ⟨fun p hp => ?_, fun s hs => ?_⟩
      · have := List.all_eq_true.1 (List.all_eq_true.1 foldRuns_avoidCode r hmem) p hp
        exact (FoldRun.ne_of_avoidsCode this hc).symm
      · exact FoldRun.not_covers_of_avoids
          (List.all_eq_true.1 (List.all_eq_true.1 foldRuns_avoid r hmem) s hs) hc
    · next hr =>
      rw [List.mem_singleton] at h
      subst h
      simp [foldsToItself, hl, hr]

/-- What a folding of a character writes are characters. -/
theorem isValidChar_of_mem_foldCode {c d : Nat} (hc : c.isValidChar) (h : d ∈ foldCode c) :
    d.isValidChar := by
  unfold foldCode at h
  split at h
  · next cs hl =>
    obtain ⟨_, _, heq, -⟩ := List.lookup_eq_some_iff.1 hl
    have hmem : (c, cs) ∈ fullFoldings := heq ▸ List.mem_append_right _ List.mem_cons_self
    exact of_decide_eq_true
      (List.all_eq_true.1 (List.all_eq_true.1 fullFoldings_valid _ hmem) d h)
  · next hl =>
    split at h
    · next r hr =>
      rw [List.mem_singleton] at h
      subst h
      have hc := FoldRun.covers_iff.1 (by simpa using List.find?_some hr)
      have hv := List.all_eq_true.1 foldRuns_valid r (List.mem_of_find?_eq_some hr)
      simp only [Bool.or_eq_true, Bool.and_eq_true, Nat.blt_eq] at hv
      rcases hv with hv | ⟨hv, hv'⟩
      · exact .inl (by omega)
      · exact .inr ⟨by omega, by omega⟩
    · rw [List.mem_singleton] at h
      subst h
      exact hc

theorem toNat_ofNat {n : Nat} (h : n.isValidChar) : (Char.ofNat n).toNat = n := by
  rw [Char.ofNat, dif_pos h]
  rfl

/-- Folding what is folded changes nothing. -/
theorem casefold_casefold (s : String) : casefold (casefold s) = casefold s := by
  unfold casefold
  rw [String.toList_ofList, List.flatMap_assoc]
  congr 1
  refine List.flatMap_congr fun c _ => ?_
  rw [List.flatMap_map]
  have key : ∀ d ∈ foldCode c.toNat,
      (foldCode (Char.ofNat d).toNat).map Char.ofNat = [Char.ofNat d] := by
    intro d hd
    rw [toNat_ofNat (isValidChar_of_mem_foldCode c.valid hd),
      foldCode_of_foldsToItself (foldsToItself_of_mem_foldCode hd)]
    rfl
  rw [List.flatMap_congr key, List.map_eq_flatMap]

/-! ## Plain ASCII -/

/-- An ASCII character that is no capital letter. -/
def isPlain (c : Char) : Bool :=
  decide (c.toNat < 0x80) && (decide (c.toNat < 0x41) || decide (0x5a < c.toNat))

/-- Apart from the capital letters, no run covers an ASCII code point. -/
theorem foldRuns_ascii :
    (foldRuns.all fun r => (r.lo == 0x41 && r.hi == 0x5a) || decide (0x80 ≤ r.lo)) = true := by
  decide +kernel

theorem fullFoldings_ascii : (fullFoldings.all fun p => decide (0x80 ≤ p.1)) = true := by
  decide +kernel

theorem foldsToItself_of_isPlain {c : Char} (h : isPlain c = true) :
    foldsToItself c.toNat = true := by
  simp only [isPlain, Bool.and_eq_true, Bool.or_eq_true, decide_eq_true_eq] at h
  rw [foldsToItself_iff]
  refine ⟨fun p hp => ?_, fun r hr => ?_⟩
  · have hlo := of_decide_eq_true (List.all_eq_true.1 fullFoldings_ascii p hp)
    omega
  · have hr := List.all_eq_true.1 foldRuns_ascii r hr
    simp only [Bool.or_eq_true, Bool.and_eq_true, beq_iff_eq, decide_eq_true_eq] at hr
    rw [Bool.eq_false_iff, ne_eq, FoldRun.covers_iff]
    omega

/-- A plain text is its own folding. -/
theorem casefold_of_isPlain {s : String} (h : s.toList.all isPlain = true) : casefold s = s := by
  have hfold : ∀ c ∈ s.toList, (foldCode c.toNat).map Char.ofNat = [c] := by
    intro c hc
    rw [foldCode_of_foldsToItself (foldsToItself_of_isPlain (List.all_eq_true.1 h c hc))]
    simp
  rw [casefold, List.flatMap_congr hfold, ← List.map_eq_flatMap, List.map_id']
  exact String.ofList_toList

end Python
