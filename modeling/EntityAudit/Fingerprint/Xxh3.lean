/-!
# `EntityAudit.Fingerprint.Xxh3` — a 64-bit hash of a sequence of bytes

The hash function XXH3 with 64 bits, the seed zero and the default secret.  It treats inputs of
different lengths differently: up to 16 bytes are mixed in one step, up to 240 bytes in blocks of 16, and
longer inputs in stripes of 64 bytes over eight accumulators.  All arithmetic is modulo 2⁶⁴.

## Contents

* `word` — the little-endian number at a place
* `avalanche`, `foldedProduct` — the mixing steps
* `hashShort`, `hashMedium`, `hashLong` — the three length classes
* `hash` — the hash
-/

namespace EntityAudit.Xxh3

/-! ## Constants -/

/-- The default secret. -/
def secret : ByteArray :=
  ⟨#[0xb8, 0xfe, 0x6c, 0x39, 0x23, 0xa4, 0x4b, 0xbe, 0x7c, 0x01, 0x81, 0x2c, 0xf7, 0x21, 0xad, 0x1c,
     0xde, 0xd4, 0x6d, 0xe9, 0x83, 0x90, 0x97, 0xdb, 0x72, 0x40, 0xa4, 0xa4, 0xb7, 0xb3, 0x67, 0x1f,
     0xcb, 0x79, 0xe6, 0x4e, 0xcc, 0xc0, 0xe5, 0x78, 0x82, 0x5a, 0xd0, 0x7d, 0xcc, 0xff, 0x72, 0x21,
     0xb8, 0x08, 0x46, 0x74, 0xf7, 0x43, 0x24, 0x8e, 0xe0, 0x35, 0x90, 0xe6, 0x81, 0x3a, 0x26, 0x4c,
     0x3c, 0x28, 0x52, 0xbb, 0x91, 0xc3, 0x00, 0xcb, 0x88, 0xd0, 0x65, 0x8b, 0x1b, 0x53, 0x2e, 0xa3,
     0x71, 0x64, 0x48, 0x97, 0xa2, 0x0d, 0xf9, 0x4e, 0x38, 0x19, 0xef, 0x46, 0xa9, 0xde, 0xac, 0xd8,
     0xa8, 0xfa, 0x76, 0x3f, 0xe3, 0x9c, 0x34, 0x3f, 0xf9, 0xdc, 0xbb, 0xc7, 0xc7, 0x0b, 0x4f, 0x1d,
     0x8a, 0x51, 0xe0, 0x4b, 0xcd, 0xb4, 0x59, 0x31, 0xc8, 0x9f, 0x7e, 0xc9, 0xd9, 0x78, 0x73, 0x64,
     0xea, 0xc5, 0xac, 0x83, 0x34, 0xd3, 0xeb, 0xc3, 0xc5, 0x81, 0xa0, 0xff, 0xfa, 0x13, 0x63, 0xeb,
     0x17, 0x0d, 0xdd, 0x51, 0xb7, 0xf0, 0xda, 0x49, 0xd3, 0x16, 0x55, 0x26, 0x29, 0xd4, 0x68, 0x9e,
     0x2b, 0x16, 0xbe, 0x58, 0x7d, 0x47, 0xa1, 0xfc, 0x8f, 0xf8, 0xb8, 0xd1, 0x7a, 0xd0, 0x31, 0xce,
     0x45, 0xcb, 0x3a, 0x8f, 0x95, 0x16, 0x04, 0x28, 0xaf, 0xd7, 0xfb, 0xca, 0xbb, 0x4b, 0x40, 0x7e]⟩

/-- The first prime of 32 bits. -/
def prime32x1 : UInt64 := 0x9E3779B1

/-- The second prime of 32 bits. -/
def prime32x2 : UInt64 := 0x85EBCA77

/-- The third prime of 32 bits. -/
def prime32x3 : UInt64 := 0xC2B2AE3D

/-- The first prime of 64 bits. -/
def prime64x1 : UInt64 := 0x9E3779B185EBCA87

/-- The second prime of 64 bits. -/
def prime64x2 : UInt64 := 0xC2B2AE3D27D4EB4F

/-- The third prime of 64 bits. -/
def prime64x3 : UInt64 := 0x165667B19E3779F9

/-- The fourth prime of 64 bits. -/
def prime64x4 : UInt64 := 0x85EBCA77C2B2AE63

/-- The fifth prime of 64 bits. -/
def prime64x5 : UInt64 := 0x27D4EB2F165667C5

/-- The first multiplier of the mixing steps. -/
def mixPrime1 : UInt64 := 0x165667919E3779F9

/-- The second multiplier of the mixing steps. -/
def mixPrime2 : UInt64 := 0x9FB21C651E98DF25

/-! ## Reading -/

/-- The byte at a place, zero past the end. -/
def byteAt (bytes : ByteArray) (i : Nat) : UInt64 :=
  if h : i < bytes.size then bytes[i].toUInt64 else 0

/-- The little-endian number that the `width` bytes from `i` on spell. -/
def word (bytes : ByteArray) (i : Nat) : (width : Nat) → UInt64
  | 0 => 0
  | width + 1 => byteAt bytes i ||| (word bytes (i + 1) width <<< 8)

/-- The 64-bit number at a place. -/
def word64 (bytes : ByteArray) (i : Nat) : UInt64 := word bytes i 8

/-- The 32-bit number at a place. -/
def word32 (bytes : ByteArray) (i : Nat) : UInt64 := word bytes i 4

/-! ## Mixing -/

/-- The bits of `x` turned to the left. -/
def rotateLeft (x : UInt64) (bits : UInt64) : UInt64 := (x <<< bits) ||| (x >>> (64 - bits))

/-- The bytes of `x` in opposite order. -/
def swapBytes (x : UInt64) : UInt64 :=
  (List.range 8).foldl (fun acc i => (acc <<< 8) ||| ((x >>> (8 * i.toUInt64)) &&& 0xFF)) 0

/-- The two halves of the 128-bit product, combined. -/
def foldedProduct (x y : UInt64) : UInt64 :=
  let product := x.toNat * y.toNat
  UInt64.ofNat product ^^^ UInt64.ofNat (product >>> 64)

/-- The final mixing of medium and long inputs. -/
def avalanche (x : UInt64) : UInt64 :=
  let x := (x ^^^ (x >>> 37)) * mixPrime1
  x ^^^ (x >>> 32)

/-- The final mixing of inputs of up to three bytes. -/
def avalancheTiny (x : UInt64) : UInt64 :=
  let x := (x ^^^ (x >>> 33)) * prime64x2
  let x := (x ^^^ (x >>> 29)) * prime64x3
  x ^^^ (x >>> 32)

/-- The final mixing of inputs of four to eight bytes. -/
def avalancheShort (x : UInt64) (size : UInt64) : UInt64 :=
  let x := (x ^^^ rotateLeft x 49 ^^^ rotateLeft x 24) * mixPrime2
  let x := (x ^^^ ((x >>> 35) + size)) * mixPrime2
  x ^^^ (x >>> 28)

/-- Sixteen bytes of the input at `i`, mixed with the secret at `k`. -/
def mix16 (bytes : ByteArray) (i k : Nat) : UInt64 :=
  foldedProduct (word64 bytes i ^^^ word64 secret k) (word64 bytes (i + 8) ^^^ word64 secret (k + 8))

/-! ## Up to 16 bytes -/

/-- The hash of at most 16 bytes. -/
def hashShort (bytes : ByteArray) : UInt64 :=
  let n := bytes.size
  let size := UInt64.ofNat n
  if n = 0 then avalancheTiny (word64 secret 56 ^^^ word64 secret 64)
  else if n ≤ 3 then
    let combined := (byteAt bytes 0 <<< 16) ||| (byteAt bytes (n / 2) <<< 24) ||| byteAt bytes (n - 1)
      ||| (size <<< 8)
    avalancheTiny (combined ^^^ (word32 secret 0 ^^^ word32 secret 4))
  else if n ≤ 8 then
    let combined := word32 bytes (n - 4) + (word32 bytes 0 <<< 32)
    avalancheShort (combined ^^^ (word64 secret 8 ^^^ word64 secret 16)) size
  else
    let low := word64 bytes 0 ^^^ (word64 secret 24 ^^^ word64 secret 32)
    let high := word64 bytes (n - 8) ^^^ (word64 secret 40 ^^^ word64 secret 48)
    avalanche (size + swapBytes low + high + foldedProduct low high)

/-! ## Up to 240 bytes -/

/-- The hash of 17 to 240 bytes.  Up to 128 bytes are taken in pairs from both ends; beyond that, the
first 128 bytes are taken in order and mixed before the rest follows, with the secret three bytes on. -/
def hashMedium (bytes : ByteArray) : UInt64 :=
  let n := bytes.size
  let start := UInt64.ofNat n * prime64x1
  if n ≤ 128 then
    let pairs := (List.range 4).filter (fun i => i = 0 || n > 32 * i)
    avalanche <| pairs.foldl
      (fun acc i => acc + mix16 bytes (16 * i) (32 * i) + mix16 bytes (n - 16 * (i + 1)) (32 * i + 16))
      start
  else
    let first := avalanche <| (List.range 8).foldl
      (fun acc i => acc + mix16 bytes (16 * i) (16 * i)) start
    let rest := (List.range (n / 16 - 8)).foldl
      (fun acc i => acc + mix16 bytes (128 + 16 * i) (16 * i + 3)) first
    avalanche (rest + mix16 bytes (n - 16) 119)

/-! ## Longer inputs -/

/-- The eight accumulators at the beginning. -/
def initialLanes : List UInt64 :=
  [prime32x3, prime64x1, prime64x2, prime64x3, prime64x4, prime32x2, prime64x5, prime32x1]

/-- Takes in the stripe of 64 bytes at `i`, with the secret at `k`: every accumulator receives a product
of its own bytes and the plain bytes of its neighbour. -/
def addStripe (bytes : ByteArray) (i k : Nat) (lanes : List UInt64) : List UInt64 :=
  lanes.zipIdx.map fun (lane, j) =>
    let keyed : UInt64 := word64 bytes (i + 8 * j) ^^^ word64 secret (k + 8 * j)
    let neighbour : UInt64 := word64 bytes (i + 8 * (if j % 2 = 0 then j + 1 else j - 1))
    lane + neighbour + (keyed &&& (0xFFFFFFFF : UInt64)) * (keyed >>> 32)

/-- Mixes the accumulators between blocks. -/
def scramble (lanes : List UInt64) : List UInt64 :=
  lanes.zipIdx.map fun (lane, j) =>
    (lane ^^^ (lane >>> 47) ^^^ word64 secret (128 + 8 * j)) * prime32x1

/-- Takes in `count` stripes of the block at `i`, the secret moving on by eight bytes each time. -/
def addStripes (bytes : ByteArray) (i count : Nat) (lanes : List UInt64) : List UInt64 :=
  (List.range count).foldl (fun acc s => addStripe bytes (i + 64 * s) (8 * s) acc) lanes

/-- Combines the accumulators. -/
def mergeLanes (start : UInt64) (lanes : List UInt64) : UInt64 :=
  let lane (j : Nat) := lanes.getD j 0 ^^^ word64 secret (11 + 8 * j)
  avalanche <| (List.range 4).foldl
    (fun acc j => acc + foldedProduct (lane (2 * j)) (lane (2 * j + 1))) start

/-- The hash of more than 240 bytes: full blocks of 16 stripes, the stripes of the last block, and the
last 64 bytes as a stripe of their own. -/
def hashLong (bytes : ByteArray) : UInt64 :=
  let n := bytes.size
  let blocks := (n - 1) / 1024
  let afterBlocks := (List.range blocks).foldl
    (fun acc b => scramble (addStripes bytes (1024 * b) 16 acc)) initialLanes
  let afterStripes :=
    addStripes bytes (1024 * blocks) ((n - 1 - 1024 * blocks) / 64) afterBlocks
  mergeLanes (UInt64.ofNat n * prime64x1) (addStripe bytes (n - 64) 121 afterStripes)

/-- The hash of a sequence of bytes. -/
def hash (bytes : ByteArray) : UInt64 :=
  if bytes.size ≤ 16 then hashShort bytes
  else if bytes.size ≤ 240 then hashMedium bytes
  else hashLong bytes

end EntityAudit.Xxh3
