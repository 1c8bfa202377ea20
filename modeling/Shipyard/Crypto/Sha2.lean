/-!
The SHA-2 hash functions SHA-256, SHA-384 and SHA-512 (FIPS 180-4).

A message is padded with a one bit, zeros, and its length in bits, to a whole number of
blocks; each block is compressed into the running state; the digest is the final state in
big-endian order (SHA-384 keeps the first six of its eight words). SHA-256 works on 32-bit
words in 64-byte blocks over 64 rounds, SHA-512 and SHA-384 on 64-bit words in 128-byte blocks
over 80 rounds.
-/
namespace Shipyard.Crypto

/-- Byte strings. -/
abbrev Bytes := List UInt8

/-- The number's lowest `count` bytes, most significant first. -/
def bigEndian (count n : Nat) : Bytes :=
  (List.range count).reverse.map fun k => (n / Nat.pow 256 k % 256).toUInt8

/-- The number a big-endian byte string writes. -/
def ofBigEndian (bs : Bytes) : Nat := bs.foldl (fun acc b => acc * 256 + b.toNat) 0

/-- The message padded to whole blocks: a one bit, zeros, and the length in bits in the last
`lenBytes` bytes. -/
def pad (blockBytes lenBytes : Nat) (msg : Bytes) : Bytes :=
  let used := (msg.length + 1 + lenBytes) % blockBytes
  let zeros := if used == 0 then 0 else blockBytes - used
  msg ++ [0x80] ++ List.replicate zeros 0 ++ bigEndian lenBytes (msg.length * 8)

/-- A list cut into pieces of `size` items (the last may be shorter). -/
def chunks {α : Type} (size : Nat) (bs : List α) : List (List α) :=
  if bs.isEmpty then []
  else if _h : size = 0 then [bs]
  else if bs.length ≤ size then [bs]
  else bs.take size :: chunks size (bs.drop size)
termination_by bs.length
decreasing_by simp only [List.length_drop]; omega

namespace Sha256

def roundConstants : Array UInt32 := #[
  0x428a2f98, 0x71374491, 0xb5c0fbcf, 0xe9b5dba5, 0x3956c25b, 0x59f111f1, 0x923f82a4, 0xab1c5ed5,
  0xd807aa98, 0x12835b01, 0x243185be, 0x550c7dc3, 0x72be5d74, 0x80deb1fe, 0x9bdc06a7, 0xc19bf174,
  0xe49b69c1, 0xefbe4786, 0x0fc19dc6, 0x240ca1cc, 0x2de92c6f, 0x4a7484aa, 0x5cb0a9dc, 0x76f988da,
  0x983e5152, 0xa831c66d, 0xb00327c8, 0xbf597fc7, 0xc6e00bf3, 0xd5a79147, 0x06ca6351, 0x14292967,
  0x27b70a85, 0x2e1b2138, 0x4d2c6dfc, 0x53380d13, 0x650a7354, 0x766a0abb, 0x81c2c92e, 0x92722c85,
  0xa2bfe8a1, 0xa81a664b, 0xc24b8b70, 0xc76c51a3, 0xd192e819, 0xd6990624, 0xf40e3585, 0x106aa070,
  0x19a4c116, 0x1e376c08, 0x2748774c, 0x34b0bcb5, 0x391c0cb3, 0x4ed8aa4a, 0x5b9cca4f, 0x682e6ff3,
  0x748f82ee, 0x78a5636f, 0x84c87814, 0x8cc70208, 0x90befffa, 0xa4506ceb, 0xbef9a3f7, 0xc67178f2]

def initial : Array UInt32 :=
  #[0x6a09e667, 0xbb67ae85, 0x3c6ef372, 0xa54ff53a, 0x510e527f, 0x9b05688c, 0x1f83d9ab, 0x5be0cd19]

def rotr (x : UInt32) (n : UInt32) : UInt32 := (x >>> n) ||| (x <<< (32 - n))

/-- The sixteen words of a block. -/
def words (block : Bytes) : Array UInt32 :=
  ((chunks 4 block).map fun ws => (ofBigEndian ws).toUInt32).toArray

/-- The 64 words of the message schedule. -/
def schedule (w : Array UInt32) : Array UInt32 := Id.run do
  let mut w := w
  for t in [16:64] do
    let x := w.getD (t - 15) 0
    let y := w.getD (t - 2) 0
    let s0 := rotr x 7 ^^^ rotr x 18 ^^^ (x >>> 3)
    let s1 := rotr y 17 ^^^ rotr y 19 ^^^ (y >>> 10)
    w := w.push (w.getD (t - 16) 0 + s0 + w.getD (t - 7) 0 + s1)
  return w

/-- Compresses one block into the state. -/
def compress (h : Array UInt32) (block : Bytes) : Array UInt32 := Id.run do
  let w := schedule (words block)
  let mut a := h.getD 0 0
  let mut b := h.getD 1 0
  let mut c := h.getD 2 0
  let mut d := h.getD 3 0
  let mut e := h.getD 4 0
  let mut f := h.getD 5 0
  let mut g := h.getD 6 0
  let mut hh := h.getD 7 0
  for t in [0:64] do
    let s1 := rotr e 6 ^^^ rotr e 11 ^^^ rotr e 25
    let ch := (e &&& f) ^^^ (~~~e &&& g)
    let t1 := hh + s1 + ch + roundConstants.getD t 0 + w.getD t 0
    let s0 := rotr a 2 ^^^ rotr a 13 ^^^ rotr a 22
    let maj := (a &&& b) ^^^ (a &&& c) ^^^ (b &&& c)
    let t2 := s0 + maj
    hh := g
    g := f
    f := e
    e := d + t1
    d := c
    c := b
    b := a
    a := t1 + t2
  return #[h.getD 0 0 + a, h.getD 1 0 + b, h.getD 2 0 + c, h.getD 3 0 + d,
           h.getD 4 0 + e, h.getD 5 0 + f, h.getD 6 0 + g, h.getD 7 0 + hh]

end Sha256

/-- The SHA-256 digest of a message: 32 bytes. -/
def sha256 (msg : Bytes) : Bytes :=
  let state := (chunks 64 (pad 64 8 msg)).foldl Sha256.compress Sha256.initial
  state.toList.flatMap fun w => bigEndian 4 w.toNat

namespace Sha512

def roundConstants : Array UInt64 := #[
  0x428a2f98d728ae22, 0x7137449123ef65cd, 0xb5c0fbcfec4d3b2f, 0xe9b5dba58189dbbc,
  0x3956c25bf348b538, 0x59f111f1b605d019, 0x923f82a4af194f9b, 0xab1c5ed5da6d8118,
  0xd807aa98a3030242, 0x12835b0145706fbe, 0x243185be4ee4b28c, 0x550c7dc3d5ffb4e2,
  0x72be5d74f27b896f, 0x80deb1fe3b1696b1, 0x9bdc06a725c71235, 0xc19bf174cf692694,
  0xe49b69c19ef14ad2, 0xefbe4786384f25e3, 0x0fc19dc68b8cd5b5, 0x240ca1cc77ac9c65,
  0x2de92c6f592b0275, 0x4a7484aa6ea6e483, 0x5cb0a9dcbd41fbd4, 0x76f988da831153b5,
  0x983e5152ee66dfab, 0xa831c66d2db43210, 0xb00327c898fb213f, 0xbf597fc7beef0ee4,
  0xc6e00bf33da88fc2, 0xd5a79147930aa725, 0x06ca6351e003826f, 0x142929670a0e6e70,
  0x27b70a8546d22ffc, 0x2e1b21385c26c926, 0x4d2c6dfc5ac42aed, 0x53380d139d95b3df,
  0x650a73548baf63de, 0x766a0abb3c77b2a8, 0x81c2c92e47edaee6, 0x92722c851482353b,
  0xa2bfe8a14cf10364, 0xa81a664bbc423001, 0xc24b8b70d0f89791, 0xc76c51a30654be30,
  0xd192e819d6ef5218, 0xd69906245565a910, 0xf40e35855771202a, 0x106aa07032bbd1b8,
  0x19a4c116b8d2d0c8, 0x1e376c085141ab53, 0x2748774cdf8eeb99, 0x34b0bcb5e19b48a8,
  0x391c0cb3c5c95a63, 0x4ed8aa4ae3418acb, 0x5b9cca4f7763e373, 0x682e6ff3d6b2b8a3,
  0x748f82ee5defb2fc, 0x78a5636f43172f60, 0x84c87814a1f0ab72, 0x8cc702081a6439ec,
  0x90befffa23631e28, 0xa4506cebde82bde9, 0xbef9a3f7b2c67915, 0xc67178f2e372532b,
  0xca273eceea26619c, 0xd186b8c721c0c207, 0xeada7dd6cde0eb1e, 0xf57d4f7fee6ed178,
  0x06f067aa72176fba, 0x0a637dc5a2c898a6, 0x113f9804bef90dae, 0x1b710b35131c471b,
  0x28db77f523047d84, 0x32caab7b40c72493, 0x3c9ebe0a15c9bebc, 0x431d67c49c100d4c,
  0x4cc5d4becb3e42b6, 0x597f299cfc657e2a, 0x5fcb6fab3ad6faec, 0x6c44198c4a475817]

def initial512 : Array UInt64 :=
  #[0x6a09e667f3bcc908, 0xbb67ae8584caa73b, 0x3c6ef372fe94f82b, 0xa54ff53a5f1d36f1,
    0x510e527fade682d1, 0x9b05688c2b3e6c1f, 0x1f83d9abfb41bd6b, 0x5be0cd19137e2179]

def initial384 : Array UInt64 :=
  #[0xcbbb9d5dc1059ed8, 0x629a292a367cd507, 0x9159015a3070dd17, 0x152fecd8f70e5939,
    0x67332667ffc00b31, 0x8eb44a8768581511, 0xdb0c2e0d64f98fa7, 0x47b5481dbefa4fa4]

def rotr (x : UInt64) (n : UInt64) : UInt64 := (x >>> n) ||| (x <<< (64 - n))

/-- The sixteen words of a block. -/
def words (block : Bytes) : Array UInt64 :=
  ((chunks 8 block).map fun ws => (ofBigEndian ws).toUInt64).toArray

/-- The 80 words of the message schedule. -/
def schedule (w : Array UInt64) : Array UInt64 := Id.run do
  let mut w := w
  for t in [16:80] do
    let x := w.getD (t - 15) 0
    let y := w.getD (t - 2) 0
    let s0 := rotr x 1 ^^^ rotr x 8 ^^^ (x >>> 7)
    let s1 := rotr y 19 ^^^ rotr y 61 ^^^ (y >>> 6)
    w := w.push (w.getD (t - 16) 0 + s0 + w.getD (t - 7) 0 + s1)
  return w

/-- Compresses one block into the state. -/
def compress (h : Array UInt64) (block : Bytes) : Array UInt64 := Id.run do
  let w := schedule (words block)
  let mut a := h.getD 0 0
  let mut b := h.getD 1 0
  let mut c := h.getD 2 0
  let mut d := h.getD 3 0
  let mut e := h.getD 4 0
  let mut f := h.getD 5 0
  let mut g := h.getD 6 0
  let mut hh := h.getD 7 0
  for t in [0:80] do
    let s1 := rotr e 14 ^^^ rotr e 18 ^^^ rotr e 41
    let ch := (e &&& f) ^^^ (~~~e &&& g)
    let t1 := hh + s1 + ch + roundConstants.getD t 0 + w.getD t 0
    let s0 := rotr a 28 ^^^ rotr a 34 ^^^ rotr a 39
    let maj := (a &&& b) ^^^ (a &&& c) ^^^ (b &&& c)
    let t2 := s0 + maj
    hh := g
    g := f
    f := e
    e := d + t1
    d := c
    c := b
    b := a
    a := t1 + t2
  return #[h.getD 0 0 + a, h.getD 1 0 + b, h.getD 2 0 + c, h.getD 3 0 + d,
           h.getD 4 0 + e, h.getD 5 0 + f, h.getD 6 0 + g, h.getD 7 0 + hh]

/-- The final state of a message from the given initial state. -/
def digestWords (init : Array UInt64) (msg : Bytes) : List UInt64 :=
  ((chunks 128 (pad 128 16 msg)).foldl compress init).toList

end Sha512

/-- The SHA-512 digest of a message: 64 bytes. -/
def sha512 (msg : Bytes) : Bytes :=
  (Sha512.digestWords Sha512.initial512 msg).flatMap fun w => bigEndian 8 w.toNat

/-- The SHA-384 digest of a message: 48 bytes. -/
def sha384 (msg : Bytes) : Bytes :=
  ((Sha512.digestWords Sha512.initial384 msg).take 6).flatMap fun w => bigEndian 8 w.toNat

/-- A hash function with the block size HMAC pads its key to. -/
structure Hasher where
  digest : Bytes → Bytes
  blockSize : Nat

def Hasher.sha256 : Hasher := ⟨Crypto.sha256, 64⟩
def Hasher.sha384 : Hasher := ⟨Crypto.sha384, 128⟩
def Hasher.sha512 : Hasher := ⟨Crypto.sha512, 128⟩

/-- HMAC (RFC 2104): the key, hashed when longer than a block and padded with zeros to one,
is mixed into the inner and outer hashes with the bytes `0x36` and `0x5c`. -/
def hmac (h : Hasher) (key msg : Bytes) : Bytes :=
  let key := if key.length > h.blockSize then h.digest key else key
  let key := key ++ List.replicate (h.blockSize - key.length) 0
  let inner := h.digest (key.map (· ^^^ 0x36) ++ msg)
  h.digest (key.map (· ^^^ 0x5c) ++ inner)

end Shipyard.Crypto
