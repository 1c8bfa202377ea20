import Shipyard.Crypto.Sha2
import Shipyard.Text.Base64
/-!
Keys in PEM armour over DER (ASN.1 distinguished encoding).

A PEM text holds a block `-----BEGIN <label>-----`, Base64 lines, and `-----END <label>-----`
with the same label. The Base64 decodes to DER: a series of elements, each a tag byte, a
length (short form, or `0x81`–`0x84` followed by that many length bytes) and that many bytes
of content; sequences and sets hold elements of their own. Object identifiers are decoded into
their arcs, bit strings lose their leading count of unused bits.

A key block is classified by the first algorithm identifier in it (RSA, elliptic curve or
Ed25519), and the key material of an RSA key is its first bit string or octet string: the
PKCS #1 structure inside a PKCS #8 or SubjectPublicKeyInfo wrapper.
-/
namespace Shipyard.Crypto

/-- An element of DER. -/
inductive Asn1 where
  | sequence (items : List Asn1)
  | set (items : List Asn1)
  | oid (arcs : List Nat)
  | bitString (bytes : Bytes)
  | octetString (bytes : Bytes)
  | integer (value : Int)
  | other (tag : Nat) (bytes : Bytes)
  deriving Repr, Inhabited

namespace Der

/-- A length: short form, or long form with one to four bytes. Returns the length and the
rest. -/
def length? : Bytes → Option (Nat × Bytes)
  | [] => none
  | b :: rest =>
    if b.toNat < 0x80 then some (b.toNat, rest)
    else
      let count := b.toNat - 0x80
      if count == 0 || count > 4 || rest.length < count then none
      else some (ofBigEndian (rest.take count), rest.drop count)

/-- The arcs of an object identifier: the first byte holds two arcs, then base-128 groups. -/
def oidArcs (bs : Bytes) : Option (List Nat) :=
  match bs with
  | [] => none
  | first :: rest =>
    let step := fun (acc : List Nat × Nat × Bool) (b : UInt8) =>
      let (arcs, cur, _) := acc
      let cur := cur * 128 + (b.toNat % 128)
      if b.toNat < 128 then (arcs ++ [cur], 0, false) else (arcs, cur, true)
    let (arcs, _, pending) := rest.foldl step ([], 0, false)
    if pending then none else some ([first.toNat / 40, first.toNat % 40] ++ arcs)

/-- A two's complement integer. -/
def integerOf (bs : Bytes) : Int :=
  match bs with
  | [] => 0
  | b :: _ =>
    let n := ofBigEndian bs
    if b.toNat ≥ 0x80 then (n : Int) - Int.pow 2 (8 * bs.length) else n

/-- The elements of a DER text; `fuel` bounds the nesting. -/
def elements : Nat → Bytes → Option (List Asn1)
  | 0, _ => none
  | _, [] => some []
  | fuel + 1, tag :: rest => do
    let (len, rest) ← length? rest
    if rest.length < len then none
    let body := rest.take len
    let el ← match tag.toNat with
      | 0x30 => (elements fuel body).map Asn1.sequence
      | 0x31 => (elements fuel body).map Asn1.set
      | 0x06 => (oidArcs body).map Asn1.oid
      | 0x03 => match body with
        | _ :: bits => some (Asn1.bitString bits)
        | [] => none
      | 0x04 => some (Asn1.octetString body)
      | 0x02 => if body.isEmpty then none else some (Asn1.integer (integerOf body))
      | 0x05 => if body.isEmpty then some (Asn1.other 5 []) else none
      | t => some (Asn1.other t body)
    let more ← elements fuel (rest.drop len)
    pure (el :: more)

/-- The elements of a DER text. -/
def parse? (bs : Bytes) : Option (List Asn1) := elements (bs.length + 1) bs

end Der

/-- The kinds of key an algorithm identifier names. -/
inductive KeyKind where
  | rsa
  | ec
  | ed25519
  deriving DecidableEq, Repr

namespace Asn1

mutual
/-- The kind named by the first algorithm identifier met, depth first. -/
def kind? : List Asn1 → Option KeyKind
  | [] => none
  | .sequence items :: rest => (kind? items).orElse fun _ => kind? rest
  | .oid arcs :: rest =>
    if arcs == [1, 2, 840, 10045, 2, 1] then some .ec
    else if arcs == [1, 2, 840, 113549, 1, 1, 1] then some .rsa
    else if arcs == [1, 3, 101, 112] then some .ed25519
    else kind? rest
  | _ :: rest => kind? rest

/-- The first bit string or octet string, depth first through sequences. -/
def firstString? : List Asn1 → Option Bytes
  | [] => none
  | .sequence items :: rest => (firstString? items).orElse fun _ => firstString? rest
  | .bitString bs :: _ => some bs
  | .octetString bs :: _ => some bs
  | _ :: rest => firstString? rest
end

end Asn1

/-- A PEM block: its label and the bytes it armours. -/
structure Pem where
  label : String
  contents : Bytes

namespace Pem

/-- The text after the first occurrence of `marker`. -/
def after? (s marker : String) : Option String :=
  match s.splitOn marker with
  | _ :: rest@(_ :: _) => some (marker.intercalate rest)
  | _ => none

/-- The first PEM block of a text. -/
def parse? (text : String) : Option Pem := do
  let rest ← after? text "-----BEGIN "
  let label := (rest.splitOn "-----").headD ""
  let body ← after? rest (label ++ "-----")
  let endMarker := "-----END " ++ label ++ "-----"
  let inner := (body.splitOn endMarker)
  if inner.length < 2 then none
  let data := (inner.headD "").toList.filter fun c => !(c == ' ' || c == '\t' || c == '\r' || c == '\n')
  match Text.Base64.standard.decode (String.ofList data).toUTF8.toList with
  | .ok bs => some ⟨label, bs⟩
  | .error _ => none

end Pem

/-- Whether a key is private or public. -/
inductive KeyRole where
  | secretKey
  | publicKey
  deriving DecidableEq, Repr

/-- A key read from PEM: its kind, role and the DER of its key material. -/
structure PemKey where
  kind : KeyKind
  role : KeyRole
  /-- The key material: for RSA, the PKCS #1 structure. -/
  material : Bytes

/-- Reads an RSA key from PEM: PKCS #1 (`RSA PRIVATE KEY`, `RSA PUBLIC KEY`) as it is, PKCS #8
and SubjectPublicKeyInfo (`PRIVATE KEY`, `PUBLIC KEY`, `CERTIFICATE`) by their first bit or
octet string once the wrapper names RSA. Anything else is not a key format this reads. -/
def PemKey.rsa? (text : String) : Option PemKey := do
  let pem ← Pem.parse? text
  let asn ← Der.parse? pem.contents
  if pem.label == "RSA PRIVATE KEY" then some ⟨.rsa, .secretKey, pem.contents⟩
  else if pem.label == "RSA PUBLIC KEY" then some ⟨.rsa, .publicKey, pem.contents⟩
  else if pem.label == "PRIVATE KEY" || pem.label == "PUBLIC KEY" || pem.label == "CERTIFICATE" then
    let kind ← Asn1.kind? asn
    if kind != .rsa then none
    let material ← Asn1.firstString? asn
    some ⟨.rsa, if pem.label == "PRIVATE KEY" then .secretKey else .publicKey, material⟩
  else none

end Shipyard.Crypto
