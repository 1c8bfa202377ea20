import Mathlib
import Shipyard.Session.Oauth
import Shipyard.Text.Hex
import Shipyard.Proofs.Text.Digits
/-!
# Reading back the sign-in address

The address that starts sign-in carries its parameters in its query: the client id, the scopes,
the state and, when one is configured, the redirect URL, each percent-encoded. A reader of an
address takes the query between the first `?` and the fragment's `#`, cuts it at every `&`,
cuts each pair at its first `=`, and percent-decodes the value (`queryParams`).

Percent-encoding writes unreserved characters, `%` and upper-case hex digits only
(`percentEncode_safe`), so an encoded value holds no `&`, `=` or `#`; and decoding takes an
encoded text back to the text (`percentDecode_percentEncode`). So the reader inverts the writer
for any names free of separators (`queryParams_written`), and the sign-in address reads back as
exactly its parameters, in order, whatever the values (`authorizeUrl_queryParams`).
-/
namespace Shipyard.Session

open Shipyard.Text

/-! ## The reader -/

/-- The bytes a percent-encoded text stands for: `%` with two hex digits of either case stands for
the byte they write, any other character for its UTF-8 bytes. A `%` that starts no escape is
refused. -/
def percentBytes? : List Char → Option (List UInt8)
  | [] => some []
  | '%' :: h :: l :: rest => do
    let hi ← hexValue? h
    let lo ← hexValue? l
    let more ← percentBytes? rest
    pure ((hi * 16 + lo).toUInt8 :: more)
  | '%' :: _ => none
  | c :: rest => (String.utf8EncodeChar c ++ ·) <$> percentBytes? rest

/-- A percent-encoded text decoded: the text whose UTF-8 form its bytes are. -/
def percentDecode (s : List Char) : Option String := do
  String.fromUTF8? (← percentBytes? s).toByteArray

/-- The query of an address: what follows the first `?` before the fragment, which starts at the
first `#`. -/
def queryOf (url : String) : List Char :=
  ((url.toList.takeWhile (· != '#')).dropWhile (· != '?')).drop 1

/-- One parameter of a query: the name before the first `=`, and the value after it, decoded. -/
def readParam (pair : List Char) : Option (String × String) :=
  (percentDecode ((pair.dropWhile (· != '=')).drop 1)).map
    (String.ofList (pair.takeWhile (· != '=')), ·)

/-- The parameters of an address, in order, with their values decoded; `none` when a value does
not decode. -/
def queryParams (url : String) : Option (List (String × String)) :=
  ((queryOf url).splitOn '&').mapM readParam

/-! ## Percent-encoding -/

/-- The characters of an encoded text are its bytes' escapes. -/
theorem toList_percentEncode (s : String) :
    (percentEncode s).toList = s.toUTF8.toList.flatMap percentEncodeByte := by
  rw [percentEncode, String.toList_ofList]

theorem upperHexDigit_bounds {n : Nat} (hn : n < 16) :
    (48 ≤ (upperHexDigit n).toNat ∧ (upperHexDigit n).toNat ≤ 57) ∨
      (65 ≤ (upperHexDigit n).toNat ∧ (upperHexDigit n).toNat ≤ 70) := by
  unfold upperHexDigit
  split
  · rw [Char.toNat_ofNat, if_pos (by omega)]
    omega
  · rw [Char.toNat_ofNat, if_pos (by omega)]
    omega

theorem hexValue?_upperHexDigit {n : Nat} (hn : n < 16) : hexValue? (upperHexDigit n) = some n := by
  interval_cases n <;> rfl

/-- An unreserved byte is written as the ASCII character of its code. -/
theorem isUnreserved_bounds {b : UInt8} (h : isUnreserved b = true) :
    b.toNat < 128 ∧ b.toNat ≠ 35 ∧ b.toNat ≠ 37 ∧ b.toNat ≠ 38 ∧ b.toNat ≠ 61 := by
  simp only [isUnreserved, Bool.or_eq_true, Bool.and_eq_true, decide_eq_true_eq, beq_iff_eq,
    UInt8.le_iff_toNat_le, UInt8.ext_iff] at h
  simp only [UInt8.reduceToNat] at h
  omega

theorem toNat_ofNat_byte (b : UInt8) : (Char.ofNat b.toNat).toNat = b.toNat := by
  have hb := b.toNat_lt
  rw [Char.toNat_ofNat, if_pos (by omega)]

/-- An encoded text holds no `&`, `=` or `#`: each character is an unreserved one, `%`, or an
upper-case hex digit. -/
theorem percentEncode_safe (s : String) :
    ∀ c ∈ (percentEncode s).toList, c ≠ '&' ∧ c ≠ '=' ∧ c ≠ '#' := by
  intro c hc
  rw [toList_percentEncode] at hc
  obtain ⟨b, -, hcb⟩ := List.mem_flatMap.mp hc
  have hb256 : b.toNat < 256 := b.toNat_lt
  have hne : c.toNat ≠ 38 ∧ c.toNat ≠ 61 ∧ c.toNat ≠ 35 := by
    unfold percentEncodeByte at hcb
    split at hcb
    case isTrue hu =>
      rw [List.mem_singleton.mp hcb, toNat_ofNat_byte]
      have := isUnreserved_bounds hu
      omega
    case isFalse =>
      simp only [List.mem_cons, List.not_mem_nil, or_false] at hcb
      rcases hcb with rfl | rfl | rfl
      · decide
      · have := upperHexDigit_bounds (n := b.toNat / 16) (by omega)
        omega
      · have := upperHexDigit_bounds (n := b.toNat % 16) (by omega)
        omega
  refine ⟨?_, ?_, ?_⟩ <;> rintro rfl <;> simp at hne

/-- Decoding reads one byte's escape back as the byte. -/
theorem percentBytes?_percentEncodeByte (b : UInt8) (rest : List Char) :
    percentBytes? (percentEncodeByte b ++ rest) = (b :: ·) <$> percentBytes? rest := by
  have hb256 : b.toNat < 256 := b.toNat_lt
  unfold percentEncodeByte
  split
  case isTrue hu =>
    -- an unreserved byte stands for itself, as one ASCII character
    have hb := isUnreserved_bounds hu
    have hc : Char.ofNat b.toNat ≠ '%' := by
      intro h
      have := congrArg Char.toNat h
      rw [toNat_ofNat_byte] at this
      exact hb.2.2.1 this
    have henc : String.utf8EncodeChar (Char.ofNat b.toNat) = [b] := by
      rw [utf8EncodeChar_of_ascii (by rw [toNat_ofNat_byte]; exact hb.1)]
      congr 1
      apply UInt8.toNat_inj.mp
      change (Char.ofNat b.toNat).val.toUInt8.toNat = b.toNat
      rw [UInt32.toNat_toUInt8]
      change (Char.ofNat b.toNat).toNat % 2 ^ 8 = b.toNat
      rw [toNat_ofNat_byte]
      omega
    rw [List.singleton_append, percentBytes?.eq_4 _ _ (fun _ _ _ h _ => hc h) hc, henc]
    rfl
  case isFalse =>
    -- any other byte is `%` and its two digits
    have hhi := hexValue?_upperHexDigit (n := b.toNat / 16) (by omega)
    have hlo := hexValue?_upperHexDigit (n := b.toNat % 16) (by omega)
    have hbyte : (b.toNat / 16 * 16 + b.toNat % 16).toUInt8 = b := by
      apply UInt8.toNat_inj.mp
      simp only [Nat.toUInt8_eq, UInt8.toNat_ofNat']
      omega
    simp only [List.cons_append, List.nil_append, percentBytes?, hhi, hlo]
    cases percentBytes? rest with
    | none => rfl
    | some more =>
      show some ((b.toNat / 16 * 16 + b.toNat % 16).toUInt8 :: more) = some (b :: more)
      rw [hbyte]

/-- Decoding reads the escapes of a run of bytes back as those bytes. -/
theorem percentBytes?_flatMap (bs : List UInt8) (rest : List Char) :
    percentBytes? (bs.flatMap percentEncodeByte ++ rest) = (bs ++ ·) <$> percentBytes? rest := by
  induction bs with
  | nil =>
    rw [List.flatMap_nil, List.nil_append]
    cases percentBytes? rest <;> rfl
  | cons b bs ih =>
    rw [List.flatMap_cons, List.append_assoc, percentBytes?_percentEncodeByte, ih]
    cases percentBytes? rest <;> rfl

/-- Decoding an encoded text gives the text back. -/
theorem percentDecode_percentEncode (s : String) : percentDecode (percentEncode s).toList = some s := by
  have hbytes : percentBytes? (percentEncode s).toList = some s.toUTF8.toList := by
    rw [toList_percentEncode, ← List.append_nil (s.toUTF8.toList.flatMap _), percentBytes?_flatMap]
    simp [percentBytes?]
  rw [percentDecode, hbytes]
  exact fromUTF8?_toUTF8_toList s

/-! ## Parameters in a query -/

/-- Characters that can stand in a query unescaped: none is `&`, `=` or `#`. -/
def Plain (l : List Char) : Prop := ∀ c ∈ l, c ≠ '&' ∧ c ≠ '=' ∧ c ≠ '#'

/-- A parameter as written into a query: its name, `=`, and its value percent-encoded. -/
def paramChars (p : String × String) : List Char := p.1.toList ++ '=' :: (percentEncode p.2).toList

/-- A query's parameters joined with `&`. -/
def queryChars (ps : List (String × String)) : List Char := ['&'].intercalate (ps.map paramChars)

variable {p : String × String} {ps : List (String × String)}

theorem not_mem_paramChars {c : Char} (hp : Plain p.1.toList) (hc : c = '&' ∨ c = '#') :
    c ∉ paramChars p := by
  intro h
  rcases List.mem_append.mp h with h | h
  · have := hp c h
    rcases hc with rfl | rfl <;> simp at this
  · rcases List.mem_cons.mp h with h | h
    · rcases hc with rfl | rfl <;> simp at h
    · have := percentEncode_safe p.2 c h
      rcases hc with rfl | rfl <;> simp at this

/-- A written parameter reads back as itself. -/
theorem readParam_paramChars (hp : Plain p.1.toList) : readParam (paramChars p) = some p := by
  have hname : ∀ c ∈ p.1.toList, (c != '=') = true := fun c hc => by simpa using (hp c hc).2.1
  have htake : (paramChars p).takeWhile (· != '=') = p.1.toList := by
    rw [paramChars, List.takeWhile_append_of_pos hname, List.takeWhile_cons_of_neg (by simp),
      List.append_nil]
  have hdrop : (paramChars p).dropWhile (· != '=') = '=' :: (percentEncode p.2).toList := by
    rw [paramChars, List.dropWhile_append_of_pos hname, List.dropWhile_cons_of_neg (by simp)]
  rw [readParam, htake, hdrop, List.drop_one, List.tail_cons, percentDecode_percentEncode,
    String.ofList_toList]
  rfl

/-- A character of lists joined by a separator is the separator or one of theirs. -/
theorem mem_intercalate {c s : Char} {ls : List (List Char)} (h : c ∈ [s].intercalate ls) :
    c = s ∨ ∃ l ∈ ls, c ∈ l := by
  induction ls with
  | nil => simp [List.intercalate_nil] at h
  | cons l ls ih =>
    cases ls with
    | nil => exact .inr ⟨l, List.mem_singleton_self l, by rwa [List.intercalate_singleton] at h⟩
    | cons l' ls =>
      rw [List.intercalate_cons_cons] at h
      rcases List.mem_append.mp h with h | h
      · rcases List.mem_append.mp h with h | h
        · exact .inr ⟨l, List.mem_cons_self, h⟩
        · exact .inl (List.mem_singleton.mp h)
      · rcases ih h with h | ⟨m, hm, hcm⟩
        · exact .inl h
        · exact .inr ⟨m, List.mem_cons_of_mem l hm, hcm⟩

theorem not_mem_queryChars_hash (hps : ∀ p ∈ ps, Plain p.1.toList) : '#' ∉ queryChars ps := by
  intro h
  rcases mem_intercalate h with hsep | ⟨l, hl, hcl⟩
  · simp at hsep
  · obtain ⟨p, hp, rfl⟩ := List.mem_map.mp hl
    exact not_mem_paramChars (hps p hp) (Or.inr rfl) hcl

/-- Written parameters read back as themselves, in order. -/
theorem mapM_readParam (hps : ∀ p ∈ ps, Plain p.1.toList) :
    (ps.map paramChars).mapM readParam = some ps := by
  induction ps with
  | nil => rfl
  | cons p ps ih =>
    rw [List.map_cons, List.mapM_cons, readParam_paramChars (hps p List.mem_cons_self),
      ih fun q hq => hps q (List.mem_cons_of_mem p hq)]
    rfl

/-- The query of an address made of a part free of `?` and `#`, then `?` and written parameters,
gives back those parameters. -/
theorem queryParams_written {base : List Char} (hq : '?' ∉ base) (hh : '#' ∉ base)
    (hne : ps ≠ []) (hps : ∀ p ∈ ps, Plain p.1.toList) :
    queryParams (String.ofList (base ++ '?' :: queryChars ps)) = some ps := by
  have hnohash : ∀ c ∈ base ++ '?' :: queryChars ps, (c != '#') = true := by
    intro c hc
    rcases List.mem_append.mp hc with h | h
    · exact bne_iff_ne.mpr fun e => hh (e ▸ h)
    · rcases List.mem_cons.mp h with rfl | h
      · decide
      · exact bne_iff_ne.mpr fun e => not_mem_queryChars_hash hps (e ▸ h)
  have hbase : ∀ c ∈ base, (c != '?') = true := fun c hc => bne_iff_ne.mpr fun e => hq (e ▸ hc)
  have hquery : queryOf (String.ofList (base ++ '?' :: queryChars ps)) = queryChars ps := by
    rw [queryOf, String.toList_ofList, List.takeWhile_eq_self_iff.mpr hnohash,
      List.dropWhile_append_of_pos hbase, List.dropWhile_cons_of_neg (by simp), List.drop_one,
      List.tail_cons]
  have hsplit : (queryChars ps).splitOn '&' = ps.map paramChars := by
    refine List.splitOn_intercalate '&' ?_ (by simpa using hne)
    intro l hl
    obtain ⟨p, hp, rfl⟩ := List.mem_map.mp hl
    exact not_mem_paramChars (hps p hp) (Or.inl rfl)
  rw [queryParams, hquery, hsplit, mapM_readParam hps]

/-! ## The sign-in address -/

theorem mem_trimEndChar {c d : Char} {s : String} (h : c ∈ (trimEndChar s d).toList) :
    c ∈ s.toList := by
  rw [trimEndChar, String.toList_ofList, List.mem_reverse] at h
  exact List.mem_reverse.mp ((List.dropWhile_sublist _).subset h)

/-- The sign-in address is the OAuth URL's path, `?`, and the parameters written in order. -/
theorem toList_authorizeUrl (c : OauthClient) (state : String) :
    (c.authorizeUrl state).toList =
      ((trimEndChar c.oauthUrl '/').toList ++ "/login/oauth/authorize".toList) ++ '?' ::
        queryChars ([("client_id", c.clientId), ("scope", "read:user user:email"), ("state", state)] ++
          c.redirectUrl.toList.map fun r => ("redirect_uri", r)) := by
  cases hr : c.redirectUrl <;>
    simp [OauthClient.authorizeUrl, hr, queryChars, paramChars, oauthScopes]

/-- Whatever the client id, state and redirect URL, and for an OAuth URL with no `?` and no `#`,
the sign-in address reads back as exactly its parameters, in order and with the values given:
no value can add, drop or change a parameter. -/
theorem authorizeUrl_queryParams (c : OauthClient) (state : String)
    (hq : '?' ∉ c.oauthUrl.toList) (hh : '#' ∉ c.oauthUrl.toList) :
    queryParams (c.authorizeUrl state) =
      some ([("client_id", c.clientId), ("scope", "read:user user:email"), ("state", state)] ++
        c.redirectUrl.toList.map fun r => ("redirect_uri", r)) := by
  rw [← String.ofList_toList (s := c.authorizeUrl state), toList_authorizeUrl]
  apply queryParams_written
  · intro h
    rcases List.mem_append.mp h with h | h
    · exact hq (mem_trimEndChar h)
    · simp at h
  · intro h
    rcases List.mem_append.mp h with h | h
    · exact hh (mem_trimEndChar h)
    · simp at h
  · simp
  · intro p hp
    cases hr : c.redirectUrl <;> simp [hr] at hp <;>
      rcases hp with rfl | rfl | rfl | rfl <;> simp [Plain]

/-- Values made of separators stay in their parameters: a client id with `&` and `=`, a state
with `&`, `=`, `#` and a character of two bytes, and a redirect URL with its own query and
fragment. -/
theorem separators_stay_in_their_values :
    '?' ∉ "https://github.com/".toList ∧ '#' ∉ "https://github.com/".toList ∧
      queryParams (OauthClient.authorizeUrl
        { clientId := "Iv1.a&b=c", redirectUrl := some "https://app.test/cb?next=/x&y=1#top",
          oauthUrl := "https://github.com/" } "s&t=é#v") =
        some [("client_id", "Iv1.a&b=c"), ("scope", "read:user user:email"), ("state", "s&t=é#v"),
          ("redirect_uri", "https://app.test/cb?next=/x&y=1#top")] :=
  ⟨by simp, by simp, authorizeUrl_queryParams _ _ (by simp) (by simp)⟩

end Shipyard.Session
