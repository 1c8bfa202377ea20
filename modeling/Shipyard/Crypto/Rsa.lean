import Shipyard.Crypto.Der
/-!
RSA signatures (PKCS #1 v2.2, RFC 8017).

A key is read from its PKCS #1 structure: the public key is the modulus and exponent, the
private key adds the private exponent. Signing raises the encoded message to the private
exponent modulo the modulus, verifying raises the signature to the public exponent and
compares.

Two encodings of the message are used: PKCS #1 v1.5 (`00 01 FF…FF 00`, the DER `DigestInfo`
of the hash algorithm, the digest) and PSS (a masked block ending in `BC`, here with an
all-zero salt as long as the digest).
-/
namespace Shipyard.Crypto

/-- An RSA public key. -/
structure RsaPublic where
  modulus : Nat
  exponent : Nat

/-- An RSA private key: its public part and the private exponent. -/
structure RsaPrivate where
  pub : RsaPublic
  privateExponent : Nat

namespace Rsa

/-- `b ^ e mod m` by square and multiply over the bits of `e`. -/
def powMod (b e m : Nat) : Nat :=
  if m ≤ 1 then 0
  else go (Nat.log2 e + 1) (b % m) e 1
where
  go : Nat → Nat → Nat → Nat → Nat
    | 0, _, _, acc => acc
    | fuel + 1, base, e, acc =>
      if e == 0 then acc
      else go fuel (base * base % m) (e / 2) (if e % 2 == 1 then acc * base % m else acc)

/-- The byte length of a modulus. -/
def byteLength (n : Nat) : Nat := (Nat.log2 n + 8) / 8

/-- The non-negative integers of a DER sequence. -/
def integers (items : List Asn1) : List Nat :=
  items.filterMap fun
    | .integer v => if 0 ≤ v then some v.toNat else none
    | _ => none

/-- A public key from its PKCS #1 structure (`SEQUENCE { n, e }`). -/
def publicOf? (der : Bytes) : Option RsaPublic :=
  match Der.parse? der with
  | some [.sequence items] =>
    match integers items with
    | [n, e] => some ⟨n, e⟩
    | _ => none
  | _ => none

/-- Why DER bytes are not the PKCS #1 structure of a private key, in the words of its reader:
the structure opens with its version, an INTEGER of at most two content bytes, so the structure
of a public key, which opens with its modulus, is refused there. -/
def privateKeyFault (der : Bytes) : String :=
  let asn1 (m : String) : String := "PKCS#8 ASN.1 error: " ++ m
  let malformed := asn1 "ASN.1 DER message is malformed"
  match der with
  | 0x30 :: rest =>
    match Der.length? rest with
    | some (_, 0x02 :: more) =>
      match Der.length? more with
      | some (len, _) =>
        if len > 2 then asn1 "ASN.1 INTEGER not canonically encoded as DER" else malformed
      | none => malformed
    | _ => malformed
  | _ => malformed

/-- A private key from its PKCS #1 structure (`SEQUENCE { version, n, e, d, p, q, … }`). -/
def privateOf? (der : Bytes) : Option RsaPrivate :=
  match Der.parse? der with
  | some [.sequence items] =>
    match integers items with
    | _ :: n :: e :: d :: _ => if n > 1 then some ⟨⟨n, e⟩, d⟩ else none
    | _ => none
  | _ => none

/-- The DER `DigestInfo` prefix of SHA-256, SHA-384 and SHA-512. -/
def digestInfo (digestLength : Nat) : Bytes :=
  let algo : UInt8 := if digestLength == 32 then 1 else if digestLength == 48 then 2 else 3
  [0x30, (digestLength + 17).toUInt8, 0x30, 0x0d, 0x06, 0x09, 0x60, 0x86, 0x48, 0x01, 0x65,
   0x03, 0x04, 0x02, algo, 0x05, 0x00, 0x04, digestLength.toUInt8]

/-- The PKCS #1 v1.5 encoding of a digest in `k` bytes. -/
def pkcs1Encoding (k : Nat) (digest : Bytes) : Bytes :=
  let t := digestInfo digest.length ++ digest
  [0x00, 0x01] ++ List.replicate (k - t.length - 3) 0xff ++ [0x00] ++ t

/-- The mask generation function MGF1: hashes of the seed with a counter, cut to length. -/
def mgf1 (h : Hasher) (seed : Bytes) (length : Nat) : Bytes :=
  let count := (length + 31) / 32 + 1
  ((List.range count).flatMap fun i => h.digest (seed ++ bigEndian 4 i)).take length

/-- The PSS encoding of a message digest for a modulus of `bits` bits, salt of zeros. -/
def pssEncoding (h : Hasher) (bits : Nat) (mHash : Bytes) : Bytes :=
  let emBits := bits - 1
  let emLen := (emBits + 7) / 8
  let hLen := mHash.length
  let salt := List.replicate hLen (0 : UInt8)
  let hh := h.digest (List.replicate 8 0 ++ mHash ++ salt)
  let db := List.replicate (emLen - 2 * hLen - 2) 0 ++ [0x01] ++ salt
  let masked := List.zipWith (· ^^^ ·) db (mgf1 h hh db.length)
  let topBits := 8 * emLen - emBits
  let masked := match masked with
    | b :: rest => (b &&& (0xff >>> topBits.toUInt8)) :: rest
    | [] => []
  masked ++ hh ++ [0xbc]

end Rsa

namespace RsaPrivate

/-- The signature of an encoded message: `m ^ d mod n` in as many bytes as the modulus. -/
def signEncoded (key : RsaPrivate) (em : Bytes) : Bytes :=
  let n := key.pub.modulus
  bigEndian (Rsa.byteLength n) (Rsa.powMod (ofBigEndian em) key.privateExponent n)

/-- A PKCS #1 v1.5 signature of a message. -/
def signPkcs1 (key : RsaPrivate) (h : Hasher) (msg : Bytes) : Bytes :=
  key.signEncoded (Rsa.pkcs1Encoding (Rsa.byteLength key.pub.modulus) (h.digest msg))

/-- A PSS signature of a message. -/
def signPss (key : RsaPrivate) (h : Hasher) (msg : Bytes) : Bytes :=
  key.signEncoded (Rsa.pssEncoding h (Nat.log2 key.pub.modulus + 1) (h.digest msg))

end RsaPrivate

/-- Whether a PKCS #1 v1.5 signature of a message is right: it has the modulus's length, is
below the modulus, and raised to the public exponent gives the encoding of the digest. -/
def RsaPublic.verifyPkcs1 (key : RsaPublic) (h : Hasher) (msg sig : Bytes) : Bool :=
  let k := Rsa.byteLength key.modulus
  let s := ofBigEndian sig
  sig.length == k && s < key.modulus &&
    bigEndian k (Rsa.powMod s key.exponent key.modulus) == Rsa.pkcs1Encoding k (h.digest msg)

end Shipyard.Crypto
