import Mathlib
import Shipyard.Webhook.Signature
/-!
# Which signatures a webhook accepts

A body is signed as `sha256=` and the lower-case hexadecimal digits of its HMAC-SHA-256. The
check strips the prefix, reads the digits as bytes and compares them with the body's code. Hex
reading takes a letter of either case (`hexValue?_eq_some_iff`) and refuses an odd count or any
other character, so a text reads as given bytes exactly when it writes their digits with each
letter in either case (`hexPairs_eq_some_iff`). Hence the signatures accepted for a body are the
written one and its case variants, and nothing else (`verify_accepts_signature_cases`). The code
itself is never opened: the statements hold for whatever bytes `hmac` gives.
-/
namespace Shipyard.Text

open Shipyard.Crypto

/-! ## Hex digits as character codes -/

theorem toNat_ofNat_of_lt {n : Nat} (h : n < 55296) : (Char.ofNat n).toNat = n := by
  have hv : n.isValidChar := Or.inl h
  rw [Char.ofNat, dif_pos hv]
  simp [Char.ofNatAux]

theorem toNat_hexDigit {v : Nat} (h : v < 16) :
    (hexDigit v).toNat = if v < 10 then 48 + v else 87 + v := by
  unfold hexDigit
  split_ifs with hv
  · rw [toNat_ofNat_of_lt (by simp; omega)]; simp
  · rw [toNat_ofNat_of_lt (by simp; omega)]; simp; omega

/-- Upper-casing moves the 26 lower-case letters down by 32 and keeps every other character. -/
theorem toNat_toUpper (c : Char) :
    c.toUpper.toNat = if 97 ≤ c.toNat ∧ c.toNat ≤ 122 then c.toNat - 32 else c.toNat := by
  have ha : 'a'.val.toNat = 97 := rfl
  have hz : 'z'.val.toNat = 122 := rfl
  have hshift : ('A'.val - 'a'.val).toNat = 4294967264 := by decide
  unfold Char.toUpper
  simp only [UInt32.le_iff_toNat_le, ha, hz, Char.toNat_val]
  split_ifs with h
  · simp only [Char.toNat_mk, UInt32.toNat_add, hshift, Char.toNat_val]
    omega
  · rfl

theorem hexValue?_eq (c : Char) : hexValue? c =
    if 48 ≤ c.toNat ∧ c.toNat ≤ 57 then some (c.toNat - 48)
    else if 97 ≤ c.toNat ∧ c.toNat ≤ 102 then some (c.toNat - 87)
    else if 65 ≤ c.toNat ∧ c.toNat ≤ 70 then some (c.toNat - 55) else none := by
  simp only [hexValue?, Char.le_def, UInt32.le_iff_toNat_le, Char.toNat_val, Bool.and_eq_true,
    decide_eq_true_eq, Char.reduceToNat]
  split_ifs with hd hl hu
  · rfl
  · congr 1; omega
  · congr 1; omega
  · rfl

/-- A hexadecimal digit of either case reads as its value, and nothing else reads. -/
theorem hexValue?_eq_some_iff {c : Char} {v : Nat} :
    hexValue? c = some v ↔ v < 16 ∧ (c = hexDigit v ∨ c = (hexDigit v).toUpper) := by
  rw [hexValue?_eq]
  constructor
  · intro h
    have hv : v < 16 := by split_ifs at h <;> simp at h <;> omega
    refine ⟨hv, ?_⟩
    rw [← Char.toNat_inj, ← Char.toNat_inj, toNat_toUpper, toNat_hexDigit hv]
    split_ifs at h ⊢ <;> simp at h <;> omega
  · rintro ⟨hv, h⟩
    rw [← Char.toNat_inj, ← Char.toNat_inj, toNat_toUpper, toNat_hexDigit hv] at h
    -- the value read agrees with the digit's, and the branches that disagree are refuted
    split_ifs at h ⊢ <;> (try rw [Option.some.injEq]) <;> omega

theorem hexValue?_eq_some_of_lt {c : Char} {v : Nat} (hv : v < 16) :
    hexValue? c = some v ↔ (c = hexDigit v ∨ c = (hexDigit v).toUpper) := by
  rw [hexValue?_eq_some_iff]
  exact and_iff_right hv

/-! ## Hexadecimal text -/

/-- The digits `hexOf` writes: for each byte its high and its low half. -/
theorem toList_hexOf (bs : Bytes) :
    (hexOf bs).toList = bs.flatMap fun b => [hexDigit (b.toNat / 16), hexDigit (b.toNat % 16)] := by
  rw [hexOf, String.toList_ofList]

theorem hexPairs_cons_cons (a b : Char) (rest : List Char) :
    hexPairs (a :: b :: rest) = (hexValue? a).bind fun x => (hexValue? b).bind fun y =>
      (hexPairs rest).bind fun more => some ((x * 16 + y).toUInt8 :: more) := by
  rw [hexPairs]
  rfl

/-- Two digit values make a byte exactly when they are its high and its low half. -/
theorem toUInt8_eq_iff {x y : Nat} (hx : x < 16) (hy : y < 16) (b : UInt8) :
    (x * 16 + y).toUInt8 = b ↔ x = b.toNat / 16 ∧ y = b.toNat % 16 := by
  rw [← UInt8.toNat_inj]
  simp [Nat.toUInt8]
  have hb := b.toNat_lt
  omega

/-- Hexadecimal text reads as the bytes whose digits it writes, each letter in either case, and
no other text reads as them. -/
theorem hexPairs_eq_some_iff {cs : List Char} {bs : Bytes} :
    hexPairs cs = some bs ↔
      List.Forall₂ (fun c d => c = d ∨ c = d.toUpper) cs (hexOf bs).toList := by
  rw [toList_hexOf]
  -- one byte at a time, against two characters of the text
  induction bs generalizing cs with
  | nil =>
    rw [List.flatMap_nil, List.forall₂_nil_right_iff]
    match cs with
    | [] => simp [hexPairs]
    | [_] => simp [hexPairs]
    | a :: b :: rest => simp [hexPairs_cons_cons, Option.bind_eq_some_iff]
  | cons b bs ih =>
    rw [List.flatMap_cons, List.cons_append, List.cons_append, List.nil_append]
    have hhi : b.toNat / 16 < 16 := by have := b.toNat_lt; omega
    have hlo : b.toNat % 16 < 16 := Nat.mod_lt _ (by omega)
    match cs with
    | [] => simp [hexPairs]
    | [_] => simp [hexPairs]
    | c₁ :: c₂ :: rest =>
      simp only [hexPairs_cons_cons, Option.bind_eq_some_iff, Option.some.injEq, List.cons.injEq,
        List.forall₂_cons, ← ih]
      rw [← hexValue?_eq_some_of_lt hhi, ← hexValue?_eq_some_of_lt hlo]
      constructor
      · rintro ⟨x, hx, y, hy, more, hmore, hb, rfl⟩
        have hx16 := (hexValue?_eq_some_iff.mp hx).1
        have hy16 := (hexValue?_eq_some_iff.mp hy).1
        obtain ⟨rfl, rfl⟩ := (toUInt8_eq_iff hx16 hy16 b).mp hb
        exact ⟨hx, hy, hmore⟩
      · rintro ⟨hx, hy, hmore⟩
        exact ⟨_, hx, _, hy, bs, hmore, (toUInt8_eq_iff hhi hlo b).mpr ⟨rfl, rfl⟩, rfl⟩

end Shipyard.Text

namespace Shipyard.Webhook

open Shipyard.Crypto Shipyard.Text

/-- A signature is accepted exactly when it is `sha256=` followed by the digits of the body's
code with each letter in either case. -/
theorem verify_iff (secret body : Bytes) (signature : String) :
    verify secret body signature = true ↔
      ∃ digits : List Char, signature.toList = "sha256=".toList ++ digits ∧
        List.Forall₂ (fun c d => c = d ∨ c = d.toUpper) digits
          (hexOf (hmac .sha256 secret body)).toList := by
  have hpre : signaturePrefix = "sha256=" := rfl
  simp only [verify, hpre, Bool.and_eq_true, beq_iff_eq, bytesOfHex?, String.toList_ofList,
    hexPairs_eq_some_iff]
  constructor
  · rintro ⟨htake, hdigits⟩
    refine ⟨_, ?_, hdigits⟩
    have h := List.take_append_drop "sha256=".toList.length signature.toList
    rw [htake] at h
    exact h.symm
  · rintro ⟨digits, hsig, hdigits⟩
    rw [hsig, List.take_left', List.drop_left']
    · exact ⟨rfl, hdigits⟩
    · rfl
    · rfl

theorem verify_sign (secret body : Bytes) : verify secret body (sign secret body) = true :=
  (verify_iff secret body _).mpr ⟨_, by rw [sign, String.toList_append]; rfl,
    List.forall₂_same.mpr fun _ _ => Or.inl rfl⟩

/-- The signatures a webhook accepts for a body under a secret are `sha256=` followed by the
hexadecimal digits of the body's HMAC-SHA-256, each letter in either case, and no other text;
the signature made for the body is among them. -/
theorem verify_accepts_signature_cases (secret body : Bytes) (signature : String) :
    (verify secret body signature = true ↔
      ∃ digits : List Char, signature.toList = "sha256=".toList ++ digits ∧
        List.Forall₂ (fun c d => c = d ∨ c = d.toUpper) digits
          (hexOf (hmac .sha256 secret body)).toList) ∧
    verify secret body (sign secret body) = true :=
  ⟨verify_iff secret body signature, verify_sign secret body⟩

end Shipyard.Webhook
