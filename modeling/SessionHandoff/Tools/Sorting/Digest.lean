/-!
# Digests

A digest of octets is four words that look like chance (MD5). The octets are filled up to whole
blocks of sixteen words, the last of which say how many octets there were; each block changes the
four words in sixty-four steps.
-/

set_option autoImplicit false

namespace SessionHandoff.Tools.Sorting.Digest

/-- The four words. -/
structure Words where
  a : UInt32
  b : UInt32
  c : UInt32
  d : UInt32
deriving DecidableEq, Repr

/-- The words before any block. -/
def start : Words := ⟨0x67452301, 0xefcdab89, 0x98badcfe, 0x10325476⟩

/-- The constants of the steps: the sizes of the sines of one, two, and so on. -/
def constants : Array UInt32 :=
  #[0xd76aa478, 0xe8c7b756, 0x242070db, 0xc1bdceee, 0xf57c0faf, 0x4787c62a,
    0xa8304613, 0xfd469501, 0x698098d8, 0x8b44f7af, 0xffff5bb1, 0x895cd7be,
    0x6b901122, 0xfd987193, 0xa679438e, 0x49b40821, 0xf61e2562, 0xc040b340,
    0x265e5a51, 0xe9b6c7aa, 0xd62f105d, 0x02441453, 0xd8a1e681, 0xe7d3fbc8,
    0x21e1cde6, 0xc33707d6, 0xf4d50d87, 0x455a14ed, 0xa9e3e905, 0xfcefa3f8,
    0x676f02d9, 0x8d2a4c8a, 0xfffa3942, 0x8771f681, 0x6d9d6122, 0xfde5380c,
    0xa4beea44, 0x4bdecfa9, 0xf6bb4b60, 0xbebfbc70, 0x289b7ec6, 0xeaa127fa,
    0xd4ef3085, 0x04881d05, 0xd9d4d039, 0xe6db99e5, 0x1fa27cf8, 0xc4ac5665,
    0xf4292244, 0x432aff97, 0xab9423a7, 0xfc93a039, 0x655b59c3, 0x8f0ccc92,
    0xffeff47d, 0x85845dd1, 0x6fa87e4f, 0xfe2ce6e0, 0xa3014314, 0x4e0811a1,
    0xf7537e82, 0xbd3af235, 0x2ad7d2bb, 0xeb86d391]

/-- By how many bits the steps of a group of sixteen turn, four of them in a row. -/
def turns : Array (Array UInt32) :=
  #[#[7, 12, 17, 22], #[5, 9, 14, 20], #[4, 11, 16, 23], #[6, 10, 15, 21]]

/-- A word with its bits turned to the left. -/
def turn (x n : UInt32) : UInt32 :=
  (x <<< n) ||| (x >>> (32 - n))

/-- One step. -/
def step (block : Array UInt32) (w : Words) (i : Nat) : Words :=
  let (mixed, place) : UInt32 × Nat := match i / 16 with
    | 0 => ((w.b &&& w.c) ||| (~~~w.b &&& w.d), i)
    | 1 => ((w.d &&& w.b) ||| (~~~w.d &&& w.c), 5 * i + 1)
    | 2 => (w.b ^^^ w.c ^^^ w.d, 3 * i + 5)
    | _ => (w.c ^^^ (w.b ||| ~~~w.d), 7 * i)
  let sum := mixed + w.a + constants.getD i 0 + block.getD (place % 16) 0
  let by_ := (turns.getD (i / 16) #[]).getD (i % 4) 0
  ⟨w.d, w.b + turn sum by_, w.b, w.c⟩

/-- The words after a block. -/
def absorb (w : Words) (block : Array UInt32) : Words :=
  let v := (List.range 64).foldl (step block) w
  ⟨w.a + v.a, w.b + v.b, w.c + v.c, w.d + v.d⟩

/-- The word that four octets make up, the least first. -/
def word (octets : List UInt8) : UInt32 :=
  octets.foldr (fun o n => n * 256 + o.toUInt32) 0

/-- The parts of a list of so many members each. -/
def parts {α : Type} (n : Nat) : Nat → List α → List (List α)
  | 0, _ => []
  | fuel + 1, xs => if xs.isEmpty then [] else xs.take n :: parts n fuel (xs.drop n)

/-- A number as so many octets, the least first. -/
def octetsOf (count n : Nat) : List UInt8 :=
  (List.range count).map fun i => (n >>> (8 * i)).toUInt8

/-- Octets filled up to whole blocks. -/
def filled (octets : List UInt8) : List UInt8 :=
  let used := (octets.length + 9) % 64
  octets ++ 0x80 :: List.replicate ((64 - used) % 64) 0 ++ octetsOf 8 (8 * octets.length)

/-- The digest of octets. -/
def ofOctets (octets : List UInt8) : Words :=
  let blocks := parts 64 (octets.length / 64 + 2) (filled octets)
  blocks.foldl (fun w b => absorb w ((parts 4 16 b).map word).toArray) start

/-- The octets of a digest. -/
def Words.octets (w : Words) : List UInt8 :=
  [w.a, w.b, w.c, w.d].flatMap fun x => octetsOf 4 x.toNat

end SessionHandoff.Tools.Sorting.Digest
