import Mathlib
import Shipyard.Time.Instant
/-!
# Fixed-width decimal fields

`Instant.padded w n` writes `n` in exactly `w` digits when it has at most `w`
(`writesIn_padded`). Two runs of digits of one width compare, character by character, as the
numbers they write (`digits_lt_iff_and_eq_iff`); so a text made of such runs between fixed
separators compares as its numbers do, field after field (`WritesIn.append_cons_lt_iff`). An
ASCII text is encoded one byte per character (`toUTF8_toList_of_ascii`), which is how a reader
of its bytes sees it.
-/
namespace Shipyard.Decimal

/-- The number a run of decimal digits writes, read from the left. -/
def digitsValue (l : List Char) : Nat := l.foldl (fun acc c => acc * 10 + (c.toNat - 48)) 0

/-- `l` writes `n` in exactly `w` decimal digits. -/
structure WritesIn (w n : Nat) (l : List Char) : Prop where
  length : l.length = w
  isDigit : ∀ c ∈ l, c.isDigit
  value : digitsValue l = n

@[simp] theorem digitsValue_nil : digitsValue [] = 0 := rfl

@[simp] theorem digitsValue_concat (l : List Char) (c : Char) :
    digitsValue (l ++ [c]) = digitsValue l * 10 + (c.toNat - 48) := by
  simp [digitsValue, List.foldl_append]

theorem digit_bounds {c : Char} (h : c.isDigit) : 48 ≤ c.toNat ∧ c.toNat ≤ 57 := by
  change (decide (48 ≤ c.val) && decide (c.val ≤ 57)) = true at h
  simp only [Bool.and_eq_true, decide_eq_true_eq] at h
  exact ⟨h.1, h.2⟩

/-- Equal-length prefixes decide the order of two lists before what follows them does. -/
theorem append_lt_append_iff {α : Type} [LT α] {a a' b b' : List α} (h : a.length = a'.length) :
    a ++ b < a' ++ b' ↔ a < a' ∨ a = a' ∧ b < b' := by
  induction a generalizing a' with
  | nil =>
    rw [List.length_nil, eq_comm, List.length_eq_zero_iff] at h
    subst h
    simp [List.not_lt_nil]
  | cons x a ih =>
    obtain ⟨x', a', rfl⟩ := List.exists_cons_of_length_eq_add_one h.symm
    simp only [List.cons_append, List.cons_lt_cons_iff, List.cons.injEq,
      ih (Nat.succ.inj h)]
    constructor
    · rintro (hx | ⟨rfl, (ha | ⟨rfl, hb⟩)⟩)
      · exact .inl (.inl hx)
      · exact .inl (.inr ⟨rfl, ha⟩)
      · exact .inr ⟨⟨rfl, rfl⟩, hb⟩
    · rintro ((hx | ⟨rfl, ha⟩) | ⟨⟨rfl, rfl⟩, hb⟩)
      · exact .inl hx
      · exact .inr ⟨rfl, .inl ha⟩
      · exact .inr ⟨rfl, .inr ⟨rfl, hb⟩⟩

/-- Runs of digits of one length compare as the numbers they write, and are equal when those
are. -/
theorem digits_lt_iff_and_eq_iff {l₁ : List Char} :
    ∀ {l₂ : List Char}, l₁.length = l₂.length → (∀ c ∈ l₁, c.isDigit) → (∀ c ∈ l₂, c.isDigit) →
      (l₁ < l₂ ↔ digitsValue l₁ < digitsValue l₂) ∧ (l₁ = l₂ ↔ digitsValue l₁ = digitsValue l₂) := by
  -- from the right: the last digit counts once, the run before it ten times
  induction l₁ using List.reverseRecOn with
  | nil =>
    intro l₂ h _ _
    rw [List.length_nil, eq_comm, List.length_eq_zero_iff] at h
    subst h
    simp
  | append_singleton l₁ c ih =>
    intro l₂ h d₁ d₂
    obtain ⟨l₂, c', rfl⟩ : ∃ l c', l₂ = l ++ [c'] := by
      rcases List.eq_nil_or_concat l₂ with rfl | ⟨l, c', rfl⟩
      · simp at h
      · exact ⟨l, c', List.concat_eq_append ..⟩
    have hl : l₁.length = l₂.length := by simpa using h
    obtain ⟨hlt, heq⟩ := ih hl (fun x hx => d₁ x (by simp [hx])) (fun x hx => d₂ x (by simp [hx]))
    have hc := digit_bounds (d₁ c (by simp))
    have hc' := digit_bounds (d₂ c' (by simp))
    have hcc : c = c' ↔ c.toNat = c'.toNat := Char.toNat_inj.symm
    have hcl : c < c' ↔ c.toNat < c'.toNat := Char.lt_def
    have happ : l₁ ++ [c] = l₂ ++ [c'] ↔ l₁ = l₂ ∧ c = c' :=
      ⟨fun he => ⟨(List.append_inj he hl).1, by simpa using (List.append_inj he hl).2⟩,
        fun ⟨h₁, h₂⟩ => by rw [h₁, h₂]⟩
    rw [append_lt_append_iff hl, happ, hlt, heq, digitsValue_concat, digitsValue_concat,
      List.cons_lt_cons_iff, hcl, hcc]
    simp only [List.not_lt_nil, and_false, or_false]
    -- name the two digits, so that only linear facts about them remain
    obtain ⟨x, hx⟩ : ∃ x, c.toNat = x + 48 := ⟨c.toNat - 48, by omega⟩
    obtain ⟨x', hx'⟩ : ∃ x', c'.toNat = x' + 48 := ⟨c'.toNat - 48, by omega⟩
    rw [hx, hx', Nat.add_sub_cancel, Nat.add_sub_cancel]
    constructor <;> omega

/-- The characters of a run of digits of one width against another, each followed by the same
separator: the first run decides unless the two write the same number. -/
theorem WritesIn.append_cons_lt_iff {w a b : Nat} {l₁ l₂ : List Char} (h₁ : WritesIn w a l₁)
    (h₂ : WritesIn w b l₂) (c : Char) (r₁ r₂ : List Char) :
    l₁ ++ c :: r₁ < l₂ ++ c :: r₂ ↔ a < b ∨ a = b ∧ r₁ < r₂ := by
  have hlen : l₁.length = l₂.length := h₁.length.trans h₂.length.symm
  obtain ⟨hlt, heq⟩ := digits_lt_iff_and_eq_iff hlen h₁.isDigit h₂.isDigit
  rw [append_lt_append_iff hlen, hlt, heq, h₁.value, h₂.value, List.cons_lt_cons_iff]
  simp only [lt_irrefl, false_or, true_and]

theorem digitsValue_replicate_zero_append (k : Nat) (l : List Char) :
    digitsValue (List.replicate k '0' ++ l) = digitsValue l := by
  induction k with
  | zero => rfl
  | succ k ih => simpa [digitsValue, List.replicate_succ] using ih

/-- Decimal digits read back as the number they were written from. -/
theorem digitsValue_toDigits (n : Nat) : digitsValue (Nat.toDigits 10 n) = n := by
  -- the fold is the library's `ofDigitChars` with the product turned round
  have hfold : digitsValue (Nat.toDigits 10 n) = Nat.ofDigitChars 10 (Nat.toDigits 10 n) 0 := by
    rw [digitsValue, Nat.ofDigitChars]
    congr 1
    funext acc c
    rw [Nat.mul_comm]
    rfl
  rw [hfold, Nat.ofDigitChars_ten_toDigits]

theorem toList_padded (w n : Nat) :
    (Instant.padded w n).toList = List.replicate (w - (Nat.toDigits 10 n).length) '0' ++
      Nat.toDigits 10 n := by
  rw [Instant.padded, natText, String.toList_append, String.toList_ofList, String.toList_ofList,
    String.length_ofList]

/-- `padded` writes nothing but digits, whether or not the number fits. -/
theorem isDigit_of_mem_padded {w n : Nat} {c : Char} (h : c ∈ (Instant.padded w n).toList) :
    c.isDigit := by
  rw [toList_padded] at h
  rcases List.mem_append.1 h with h | h
  · rw [List.eq_of_mem_replicate h]
    rfl
  · exact Nat.isDigit_of_mem_toDigits (by decide) (by decide) h

/-- `padded w n` writes `n` in exactly `w` digits when `n` has at most `w`. -/
theorem writesIn_padded {w n : Nat} (hw : 0 < w) (hn : n < Nat.pow 10 w) :
    WritesIn w n (Instant.padded w n).toList := by
  have hlen : (Nat.toDigits 10 n).length ≤ w := Nat.toDigits_length 10 n w hw hn
  refine ⟨?_, fun _ => isDigit_of_mem_padded, ?_⟩
  · rw [toList_padded, List.length_append, List.length_replicate]
    omega
  · rw [toList_padded, digitsValue_replicate_zero_append, digitsValue_toDigits]

/-- Two numbers that fit a width, each written in it and followed by the same separator. -/
theorem padded_append_cons_lt_iff (w : Nat) {a b : Nat} (hw : 0 < w) (ha : a < Nat.pow 10 w)
    (hb : b < Nat.pow 10 w) (c : Char) (r₁ r₂ : List Char) :
    (Instant.padded w a).toList ++ c :: r₁ < (Instant.padded w b).toList ++ c :: r₂ ↔
      a < b ∨ a = b ∧ r₁ < r₂ :=
  (writesIn_padded hw ha).append_cons_lt_iff (writesIn_padded hw hb) c r₁ r₂

end Shipyard.Decimal

namespace Shipyard.Text

/-! ## The bytes of ASCII text -/

theorem byteArray_toList_loop (bs : ByteArray) (i : Nat) (r : List UInt8) :
    ByteArray.toList.loop bs i r = r.reverse ++ bs.data.toList.drop i := by
  rw [ByteArray.toList.loop.eq_1]
  split
  · rename_i hi
    have hlen : i < bs.data.toList.length := by simpa using hi
    rw [byteArray_toList_loop bs (i + 1), List.reverse_cons, List.append_assoc,
      List.singleton_append, List.drop_eq_getElem_cons hlen]
    congr 2
    show bs.data[i]! = _
    rw [getElem!_pos bs.data i (by simpa using hi)]
    simp
  · rename_i hi
    have hlen : bs.data.toList.length ≤ i := by simpa using hi
    rw [List.drop_eq_nil_of_le hlen, List.append_nil]
termination_by bs.size - i

theorem byteArray_toList (bs : ByteArray) : bs.toList = bs.data.toList := by
  rw [ByteArray.toList, byteArray_toList_loop]
  rfl

theorem utf8EncodeChar_of_ascii {c : Char} (h : c.toNat < 128) :
    String.utf8EncodeChar c = [c.toUInt8] := by
  have h' : c.val.toNat ≤ 127 := by change c.toNat ≤ 127; omega
  simp only [String.utf8EncodeChar, if_pos h']
  rfl

theorem toUTF8_toList_append (a b : String) :
    (a ++ b).toUTF8.toList = a.toUTF8.toList ++ b.toUTF8.toList := by
  rw [byteArray_toList, byteArray_toList, byteArray_toList,
    show (a ++ b).toUTF8 = a.toUTF8 ++ b.toUTF8 from ByteArray.ext rfl, ByteArray.data_append,
    Array.toList_append]

/-- A text is encoded character by character. -/
theorem toUTF8_toList (s : String) : s.toUTF8.toList = s.toList.flatMap String.utf8EncodeChar := by
  have henc : s.toUTF8 = (s.toList.flatMap String.utf8EncodeChar).toByteArray := by
    conv_lhs => rw [← @String.ofList_toList s]
    exact String.toByteArray_ofList
  rw [henc, byteArray_toList, List.toList_data_toByteArray]

/-- An ASCII text is encoded one byte per character. -/
theorem toUTF8_toList_of_ascii {s : String} (h : ∀ c ∈ s.toList, c.toNat < 128) :
    s.toUTF8.toList = s.toList.map Char.toUInt8 := by
  rw [toUTF8_toList, List.flatMap_congr fun c hc => utf8EncodeChar_of_ascii (h c hc)]
  exact List.map_eq_flatMap.symm

/-- UTF-8 bytes read back as their text. -/
theorem fromUTF8?_toUTF8_toList (s : String) : String.fromUTF8? s.toUTF8.toList.toByteArray = some s := by
  have hbytes : s.toUTF8.toList.toByteArray = s.toByteArray := by
    apply ByteArray.ext
    apply Array.ext'
    rw [List.toList_data_toByteArray, byteArray_toList]
    rfl
  rw [hbytes, String.fromUTF8?, dif_pos s.isValidUTF8]
  rfl

end Shipyard.Text
