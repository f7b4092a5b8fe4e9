/-! The MD5 digest of a sequence of bytes, and its hexadecimal text.

The message is padded with a one bit, zeros and its length in bits to whole blocks of sixty-four
bytes. Each block runs sixty rounds and four more over its sixteen little-endian words; a round has
a bit function, a word of the block, an additive constant and a rotation. -/
namespace LiveConfig.Md5

structure State where
  a : UInt32
  b : UInt32
  c : UInt32
  d : UInt32
deriving DecidableEq, Inhabited

def initial : State := ⟨0x67452301, 0xefcdab89, 0x98badcfe, 0x10325476⟩

/-- The integer parts of `2 ^ 32 * |sin (i + 1)|`. -/
def constants : List UInt32 := [
  0xd76aa478, 0xe8c7b756, 0x242070db, 0xc1bdceee, 0xf57c0faf, 0x4787c62a, 0xa8304613, 0xfd469501,
  0x698098d8, 0x8b44f7af, 0xffff5bb1, 0x895cd7be, 0x6b901122, 0xfd987193, 0xa679438e, 0x49b40821,
  0xf61e2562, 0xc040b340, 0x265e5a51, 0xe9b6c7aa, 0xd62f105d, 0x02441453, 0xd8a1e681, 0xe7d3fbc8,
  0x21e1cde6, 0xc33707d6, 0xf4d50d87, 0x455a14ed, 0xa9e3e905, 0xfcefa3f8, 0x676f02d9, 0x8d2a4c8a,
  0xfffa3942, 0x8771f681, 0x6d9d6122, 0xfde5380c, 0xa4beea44, 0x4bdecfa9, 0xf6bb4b60, 0xbebfbc70,
  0x289b7ec6, 0xeaa127fa, 0xd4ef3085, 0x04881d05, 0xd9d4d039, 0xe6db99e5, 0x1fa27cf8, 0xc4ac5665,
  0xf4292244, 0x432aff97, 0xab9423a7, 0xfc93a039, 0x655b59c3, 0x8f0ccc92, 0xffeff47d, 0x85845dd1,
  0x6fa87e4f, 0xfe2ce6e0, 0xa3014314, 0x4e0811a1, 0xf7537e82, 0xbd3af235, 0x2ad7d2bb, 0xeb86d391]

/-- Rotations of the four groups of sixteen rounds; each group repeats its four. -/
def rotations : List UInt32 :=
  [[7, 12, 17, 22], [5, 9, 14, 20], [4, 11, 16, 23], [6, 10, 15, 21]].flatMap fun group =>
    (List.replicate 4 group).flatten

def rotateLeft (x : UInt32) (n : UInt32) : UInt32 := (x <<< n) ||| (x >>> (32 - n))

/-- Bit function and index of the block's word in round `i`. -/
def choice (s : State) (i : Nat) : UInt32 × Nat :=
  if i < 16 then ((s.b &&& s.c) ||| (~~~s.b &&& s.d), i)
  else if i < 32 then ((s.d &&& s.b) ||| (~~~s.d &&& s.c), (5 * i + 1) % 16)
  else if i < 48 then (s.b ^^^ s.c ^^^ s.d, (3 * i + 5) % 16)
  else (s.c ^^^ (s.b ||| ~~~s.d), 7 * i % 16)

def round (words : Array UInt32) (s : State) (r : Nat × UInt32 × UInt32) : State :=
  let (f, g) := choice s r.1
  let sum := s.a + f + r.2.1 + words.getD g 0
  ⟨s.d, s.b + rotateLeft sum r.2.2, s.b, s.c⟩

/-- Number, constant and rotation of every round. -/
def schedule : List (Nat × UInt32 × UInt32) := (List.range 64).zip (constants.zip rotations)

def block (s : State) (words : Array UInt32) : State :=
  let t := schedule.foldl (round words) s
  ⟨s.a + t.a, s.b + t.b, s.c + t.c, s.d + t.d⟩

/-- Little-endian bytes of a number. -/
def bytesOf (count n : Nat) : List UInt8 :=
  (List.range count).map fun i => UInt8.ofNat (n >>> (8 * i))

/-- Little-endian words of a sequence of bytes; a last incomplete word is dropped. -/
def wordsOf (done : Array UInt32) : List UInt8 → Array UInt32
  | a :: b :: c :: d :: rest =>
    let word := a.toUInt32 ||| (b.toUInt32 <<< 8) ||| (c.toUInt32 <<< 16) ||| (d.toUInt32 <<< 24)
    wordsOf (done.push word) rest
  | _ => done

def pad (message : List UInt8) : List UInt8 :=
  let n := message.length
  message ++ 0x80 :: (List.replicate ((119 - n % 64) % 64) 0 ++ bytesOf 8 (8 * n))

def digest (message : List UInt8) : State :=
  let words := wordsOf #[] (pad message)
  (List.range (words.size / 16)).foldl
    (fun s i => block s (words.extract (16 * i) (16 * i + 16))) initial

/-- Two hexadecimal digits. -/
def hexByte (b : UInt8) : List Char := [Nat.digitChar (b.toNat / 16), Nat.digitChar (b.toNat % 16)]

/-- The sixteen bytes of the digest as thirty-two lower-case hexadecimal digits. -/
def hex (message : List UInt8) : List Char :=
  let s := digest message
  ([s.a, s.b, s.c, s.d].flatMap fun w => bytesOf 4 w.toNat).flatMap hexByte

end LiveConfig.Md5
