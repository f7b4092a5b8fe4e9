import LiveConfig.Binary64.Rounding

/-! The 32-bit murmur3 hash and the position it gives an input in the unit interval.

Four bytes at a time are read as a little-endian word, scrambled and mixed into the state; up to
three bytes that remain are scrambled without the mixing step, and the length and a last avalanche
finish the state. All arithmetic is modulo `2 ^ 32`, with seed zero. -/
namespace LiveConfig.Murmur3

def rotateLeft (x : UInt32) (n : UInt32) : UInt32 := (x <<< n) ||| (x >>> (32 - n))

def scramble (k : UInt32) : UInt32 := rotateLeft (k * 0xcc9e2d51) 15 * 0x1b873593

def mix (h k : UInt32) : UInt32 := rotateLeft (h ^^^ scramble k) 13 * 5 + 0xe6546b64

/-- Bytes as a little-endian word. -/
def word (bytes : List UInt8) : UInt32 := bytes.foldr (fun b w => (w <<< 8) ||| b.toUInt32) 0

def body (h : UInt32) : List UInt8 → UInt32
  | a :: b :: c :: d :: rest => body (mix h (word [a, b, c, d])) rest
  | [] => h
  | tail => h ^^^ scramble (word tail)

def avalanche (h : UInt32) : UInt32 :=
  let h := (h ^^^ (h >>> 16)) * 0x85ebca6b
  let h := (h ^^^ (h >>> 13)) * 0xc2b2ae35
  h ^^^ (h >>> 16)

def hash (bytes : List UInt8) : UInt32 := avalanche (body 0 bytes ^^^ UInt32.ofNat bytes.length)

/-- Position in `[0, 1)`: the hash over `2 ^ 32`, which is exact. -/
def fraction (bytes : List UInt8) : Binary64 := .ofRatio false (hash bytes).toNat UInt32.size

end LiveConfig.Murmur3
