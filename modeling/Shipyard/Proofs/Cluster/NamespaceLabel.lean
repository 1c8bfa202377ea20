import Shipyard.Proofs.Cluster.ManifestObjects
import Shipyard.Space.Validate
import Mathlib.Data.List.Chain
/-!
# Namespace names are labels

`labelOf` turns any text into lower-case letters, digits and single dashes with no dash at
either end (`isLabel_labelOf`): lower-casing and a dash for every other character give the
characters, collapsing gives single dashes, and trimming clears the ends. A namespace name keeps
these rules, being the key's label, the cut and trimmed workspace label, or the two joined by one
dash.

The name ends with the key's label. It fits in 63 characters unless the key's label alone is
longer: the workspace part is cut to make room for the key, never the key itself, so a longer key
label is the whole name (`namespaceName_of_long_key`).
-/
namespace Shipyard.Cluster

open List (IsChain)

/-- Two neighbours in a name that are not both dashes. -/
def Apart (a b : Char) : Prop := a ≠ '-' ∨ b ≠ '-'

/-- Lower-case ASCII letters, digits and dashes, with no dash first or last and no two dashes in
a row. The empty name is one too. -/
structure IsLabel (cs : List Char) : Prop where
  chars : ∀ c ∈ cs, isLowerAlnum c = true ∨ c = '-'
  head : cs.head? ≠ some '-'
  last : cs.getLast? ≠ some '-'
  noDoubleDash : ¬ ['-', '-'] <:+: cs

/-- Neighbours that are all apart are exactly the absence of two dashes in a row. -/
theorem isChain_apart_iff {cs : List Char} : cs.IsChain Apart ↔ ¬ ['-', '-'] <:+: cs := by
  rw [List.isChain_iff_forall_rel_of_append_cons_cons]
  constructor
  · rintro h ⟨l₁, l₂, hl⟩
    have hd : Apart '-' '-' := h (show cs = l₁ ++ '-' :: '-' :: l₂ by rw [← hl]; simp)
    simp [Apart] at hd
  · intro h a b l₁ l₂ hl
    rw [Apart, ← not_and_or]
    rintro ⟨rfl, rfl⟩
    exact h ⟨l₁, l₂, by simp [hl]⟩

theorem IsLabel.apart {cs : List Char} (h : IsLabel cs) : cs.IsChain Apart :=
  isChain_apart_iff.2 h.noDoubleDash

/-! ## Characters -/

theorem isLowerAlnum_toLower {c : Char} (h : c.isUpper = true) :
    isLowerAlnum c.toLower = true := by
  change decide (c.val ≥ 'A'.val ∧ c.val ≤ 'Z'.val) = true at h
  rw [decide_eq_true_eq] at h
  unfold Char.toLower
  rw [dif_pos h]
  simp only [isLowerAlnum, Char.le_def, Bool.or_eq_true, Bool.and_eq_true, decide_eq_true_eq]
  left
  -- a capital moves up by 32, onto the lower-case letters
  simp only [UInt32.le_iff_toNat_le, UInt32.toNat_add] at h ⊢
  grind

/-- Every character a text's character turns into is a lower-case letter, a digit or a dash. -/
theorem labelChars_lowerAlnum (c : Char) :
    ∀ d ∈ labelChars c, isLowerAlnum d = true ∨ d = '-' := by
  unfold labelChars
  split
  · rename_i h
    simp only [List.mem_singleton, forall_eq]
    change (decide (c.val ≥ 'a'.val) && decide (c.val ≤ 'z'.val) || c.isDigit) = true at h
    simp only [Char.isDigit, Bool.or_eq_true, Bool.and_eq_true, decide_eq_true_eq] at h
    simp only [isLowerAlnum, Char.le_def, Bool.or_eq_true, Bool.and_eq_true, decide_eq_true_eq]
    exact .inl (h.imp (fun h => ⟨h.1, h.2⟩) (fun h => ⟨h.1, h.2⟩))
  · split
    · rename_i h
      simp only [List.mem_singleton, forall_eq]
      exact .inl (isLowerAlnum_toLower h)
    · split
      · simp only [List.mem_singleton, forall_eq]
        exact .inl (by decide)
      · split
        · intro d hd
          simp only [List.mem_cons, List.not_mem_nil, or_false] at hd
          rcases hd with rfl | rfl
          · exact .inl (by decide)
          · exact .inr rfl
        · simp

/-- An ASCII letter or digit stays one character that is no dash. -/
theorem labelChars_of_isAlphanum {c : Char} (h : c.isAlphanum = true) :
    ∃ d ∈ labelChars c, d ≠ '-' := by
  unfold labelChars
  by_cases hl : (c.isLower || c.isDigit) = true
  · refine ⟨c, by simp [hl], ?_⟩
    rintro rfl
    exact absurd hl (by decide)
  · have hu : c.isUpper = true := by
      change ((c.isUpper || c.isLower) || c.isDigit) = true at h
      simp only [Bool.or_eq_true] at h hl
      tauto
    refine ⟨c.toLower, by simp [hl, hu], fun he => ?_⟩
    have := isLowerAlnum_toLower hu
    rw [he] at this
    exact absurd this (by decide)

/-! ## Collapsing and trimming dashes -/

theorem head?_collapseDashes (cs : List Char) : (collapseDashes cs).head? = cs.head? := by
  fun_induction collapseDashes cs with
  | case1 => rfl
  | case2 rest ih => simp [ih]
  | case3 c rest _ ih => rfl

theorem isChain_collapseDashes (cs : List Char) : (collapseDashes cs).IsChain Apart := by
  fun_induction collapseDashes cs with
  | case1 => exact .nil
  | case2 rest ih => exact ih
  | case3 c rest hc ih =>
    refine List.isChain_cons.2 ⟨fun y hy => ?_, ih⟩
    rw [head?_collapseDashes] at hy
    obtain ⟨rest', rfl⟩ : ∃ rest', rest = y :: rest' := by
      cases rest with
      | nil => cases hy
      | cons z rest' =>
        cases hy
        exact ⟨rest', rfl⟩
    -- two dashes in a row are the case collapsing handles, not this one
    rw [Apart, ← not_and_or]
    rintro ⟨rfl, rfl⟩
    exact hc rest' rfl rfl

/-- A character that is no dash survives collapsing. -/
theorem mem_collapseDashes {cs : List Char} {c : Char} (hc : c ∈ cs) (hd : c ≠ '-') :
    c ∈ collapseDashes cs := by
  fun_induction collapseDashes cs with
  | case1 => exact hc
  | case2 rest ih =>
    apply ih
    rcases List.mem_cons.1 hc with rfl | hc
    · exact absurd rfl hd
    · exact hc
  | case3 d rest _ ih =>
    rcases List.mem_cons.1 hc with rfl | hc
    · exact List.mem_cons_self
    · exact List.mem_cons_of_mem _ (ih hc)

theorem head?_dropDashes_ne (cs : List Char) : (dropDashes cs).head? ≠ some '-' := by
  have h := List.head?_dropWhile_not (· == '-') cs
  intro he
  rw [dropDashes] at he
  rw [he] at h
  exact absurd h (by decide)

/-- A character that is no dash survives dropping the dashes at the start. -/
theorem mem_dropDashes {cs : List Char} {c : Char} (hc : c ∈ cs) (hd : c ≠ '-') :
    c ∈ dropDashes cs := by
  rw [← @List.takeWhile_append_dropWhile _ (· == '-') cs, List.mem_append] at hc
  rcases hc with hc | hc
  · have := List.all_eq_true.1 List.all_takeWhile c hc
    exact absurd (beq_iff_eq.1 this) hd
  · exact hc

/-- Dropping the dashes at the end of a list. -/
def dropEndDashes (cs : List Char) : List Char := (dropDashes cs.reverse).reverse

theorem trimDashes_eq (cs : List Char) : trimDashes cs = dropEndDashes (dropDashes cs) := rfl

theorem dropEndDashes_isPrefixOf (cs : List Char) : dropEndDashes cs <+: cs := by
  rw [dropEndDashes, ← List.reverse_suffix, List.reverse_reverse]
  exact List.dropWhile_suffix _

theorem getLast?_dropEndDashes_ne (cs : List Char) :
    (dropEndDashes cs).getLast? ≠ some '-' := by
  rw [dropEndDashes, List.getLast?_reverse]
  exact head?_dropDashes_ne _

/-- Dropping dashes at the end keeps the first character, when anything is left. -/
theorem head?_dropEndDashes {cs : List Char} (h : dropEndDashes cs ≠ []) :
    (dropEndDashes cs).head? = cs.head? := by
  obtain ⟨t, ht⟩ := dropEndDashes_isPrefixOf cs
  have hhead : (dropEndDashes cs ++ t).head? = (dropEndDashes cs).head? :=
    List.head?_append_of_ne_nil _ h
  rw [ht] at hhead
  exact hhead.symm

theorem mem_dropEndDashes {cs : List Char} {c : Char} (hc : c ∈ cs) (hd : c ≠ '-') :
    c ∈ dropEndDashes cs := by
  rw [dropEndDashes, List.mem_reverse]
  exact mem_dropDashes (List.mem_reverse.2 hc) hd

/-- What is left of a label after cutting it and dropping the dashes at the cut is a label. -/
theorem IsLabel.of_isPrefixOf {cs ds : List Char} (h : IsLabel cs) (hp : ds <+: cs)
    (hl : ds.getLast? ≠ some '-') : IsLabel ds where
  chars := fun c hc => h.chars c (hp.subset hc)
  head := by
    cases ds with
    | nil => simp
    | cons d ds =>
      obtain ⟨t, ht⟩ := hp
      rw [← ht] at h
      exact h.head
  last := hl
  noDoubleDash := isChain_apart_iff.1 ( List.IsChain.prefix h.apart hp)

/-! ## Labels -/

theorem isLabel_labelOf (s : String) : IsLabel (labelOf s) := by
  have hcol := isChain_collapseDashes (s.toList.flatMap labelChars)
  have hinf : labelOf s <:+: collapseDashes (s.toList.flatMap labelChars) := by
    rw [labelOf, trimDashes_eq]
    exact (dropEndDashes_isPrefixOf _).isInfix.trans (List.dropWhile_suffix _).isInfix
  refine
    { chars := fun c hc => ?_
      head := ?_
      last := ?_
      noDoubleDash := isChain_apart_iff.1 ( List.IsChain.infix hcol hinf) }
  · obtain ⟨d, -, hd⟩ := List.mem_flatMap.1 (collapseDashes_subset _ (hinf.subset hc))
    exact labelChars_lowerAlnum d c hd
  · rw [labelOf, trimDashes_eq]
    by_cases he : dropEndDashes (dropDashes (collapseDashes (s.toList.flatMap labelChars))) = []
    · rw [he]
      simp
    · rw [head?_dropEndDashes he]
      exact head?_dropDashes_ne _
  · rw [labelOf, trimDashes_eq]
    exact getLast?_dropEndDashes_ne _

/-- A text with an ASCII letter or digit has a label that is not empty. -/
theorem labelOf_ne_nil {s : String} (h : ∃ c ∈ s.toList, c.isAlphanum = true) : labelOf s ≠ [] := by
  obtain ⟨c, hc, ha⟩ := h
  obtain ⟨d, hd, hdash⟩ := labelChars_of_isAlphanum ha
  have hmem : d ∈ labelOf s := by
    rw [labelOf, trimDashes_eq]
    exact mem_dropEndDashes (mem_dropDashes (mem_collapseDashes
      (List.mem_flatMap.2 ⟨c, hc, hd⟩) hdash) hdash) hdash
  exact List.ne_nil_of_mem hmem

/-- Two labels joined by a dash are a label. -/
theorem IsLabel.join {w k : List Char} (hw : IsLabel w) (hk : IsLabel k) (hw0 : w ≠ [])
    (hk0 : k ≠ []) : IsLabel (w ++ '-' :: k) where
  chars := by
    intro c hc
    rcases List.mem_append.1 hc with hc | hc
    · exact hw.chars c hc
    · rcases List.mem_cons.1 hc with rfl | hc
      · exact .inr rfl
      · exact hk.chars c hc
  head := by rw [List.head?_append_of_ne_nil _ hw0]; exact hw.head
  last := by
    obtain ⟨x, xs, rfl⟩ := List.exists_cons_of_ne_nil hk0
    rw [List.getLast?_append_of_ne_nil _ (List.cons_ne_nil _ _), List.getLast?_cons_cons]
    exact hk.last
  noDoubleDash := by
    rw [← isChain_apart_iff]
    refine hw.apart.append (List.isChain_cons.2 ⟨fun y hy => ?_, hk.apart⟩) fun x hx y hy => ?_
    · exact .inr fun hd => hk.head (by rw [← hd]; exact hy)
    · exact .inl fun hd => hw.last (by rw [← hd]; exact hx)

/-! ## Namespace names -/

/-- The workspace part of a namespace name: the workspace label cut to leave room for a dash and
the key label, without the dashes at the cut. -/
def workspacePart (workspace key : String) : List Char :=
  dropEndDashes ((labelOf workspace).take (maxNameLength - ((labelOf key).length + 1)))

/-- A namespace name is the key label alone when no workspace part is left, the workspace part
alone when the key has no label, and otherwise the two joined by a dash. -/
theorem namespaceName_toList (workspace key : String) :
    (namespaceName workspace key).toList =
      if workspacePart workspace key = [] then labelOf key
      else if labelOf key = [] then workspacePart workspace key
      else workspacePart workspace key ++ '-' :: labelOf key := by
  unfold namespaceName
  dsimp only
  split <;> simp_all [workspacePart, dropEndDashes]

theorem isLabel_workspacePart (workspace key : String) : IsLabel (workspacePart workspace key) :=
  (isLabel_labelOf workspace).of_isPrefixOf
    ((dropEndDashes_isPrefixOf _).trans ( List.take_prefix _ _)) (getLast?_dropEndDashes_ne _)

theorem length_workspacePart (workspace key : String) :
    (workspacePart workspace key).length ≤ maxNameLength - ((labelOf key).length + 1) :=
  calc (workspacePart workspace key).length
      ≤ ((labelOf workspace).take (maxNameLength - ((labelOf key).length + 1))).length :=
        (dropEndDashes_isPrefixOf _).length_le
    _ ≤ maxNameLength - ((labelOf key).length + 1) := List.length_take_le _ _

theorem isLabel_namespaceName (workspace key : String) :
    IsLabel (namespaceName workspace key).toList := by
  rw [namespaceName_toList]
  split
  · exact isLabel_labelOf key
  · rename_i hw0
    split
    · exact isLabel_workspacePart workspace key
    · rename_i hk0
      exact (isLabel_workspacePart workspace key).join (isLabel_labelOf key) hw0 hk0

theorem labelOf_suffix_namespaceName (workspace key : String) :
    labelOf key <:+ (namespaceName workspace key).toList := by
  rw [namespaceName_toList]
  split
  · exact List.suffix_refl _
  · split
    · rename_i hk
      rw [hk]
      exact List.nil_suffix
    · exact List.suffix_append_of_suffix (List.suffix_cons _ _)

/-- A key label longer than a namespace name may be is the whole name: no room is left for the
workspace. -/
theorem namespaceName_of_long_key {workspace key : String}
    (h : maxNameLength < (labelOf key).length) : namespaceName workspace key = dnsLabel key := by
  have hw : workspacePart workspace key = [] := by
    rw [workspacePart, Nat.sub_eq_zero_of_le (by omega), List.take_zero]
    rfl
  apply String.toList_injective
  rw [namespaceName_toList, if_pos hw, dnsLabel, String.toList_ofList]

/-- A namespace name fits in 63 characters exactly when the key label does. -/
theorem length_namespaceName_le_iff (workspace key : String) :
    (namespaceName workspace key).length ≤ maxNameLength ↔ (labelOf key).length ≤ maxNameLength := by
  rw [← String.length_toList]
  constructor
  · exact fun h => Nat.le_trans (labelOf_suffix_namespaceName workspace key).length_le h
  · intro hk
    have hw := length_workspacePart workspace key
    rw [namespaceName_toList]
    split
    · exact hk
    · split
      · omega
      · rename_i hw0 hk0
        -- a workspace part is left, so the budget was not used up by the key
        have : 0 < (workspacePart workspace key).length := List.length_pos_iff.2 hw0
        simp only [List.length_append, List.length_cons]
        omega

/-- A namespace name is not empty when its workspace or its key has an ASCII letter or digit. -/
theorem namespaceName_ne_empty {workspace key : String}
    (h : (∃ c ∈ workspace.toList, c.isAlphanum = true) ∨ (∃ c ∈ key.toList, c.isAlphanum = true)) :
    namespaceName workspace key ≠ "" := by
  intro he
  have hnil : (namespaceName workspace key).toList = [] := by rw [he]; rfl
  rw [namespaceName_toList] at hnil
  by_cases hk : labelOf key = []
  · -- the workspace label is not empty, and its first character, no dash, survives the cut
    have hws : labelOf workspace ≠ [] := by
      rcases h with h | h
      · exact labelOf_ne_nil h
      · exact absurd hk (labelOf_ne_nil h)
    obtain ⟨c, cs, hcs⟩ := List.exists_cons_of_ne_nil hws
    have hc : c ≠ '-' := fun hc => (isLabel_labelOf workspace).head (by rw [hcs, hc]; rfl)
    have hmem : c ∈ workspacePart workspace key := by
      apply mem_dropEndDashes _ hc
      rw [hcs, hk]
      exact List.mem_cons_self
    have hw0 : workspacePart workspace key ≠ [] := List.ne_nil_of_mem hmem
    rw [if_neg hw0, if_pos hk] at hnil
    exact hw0 hnil
  · by_cases hw0 : workspacePart workspace key = []
    · rw [if_pos hw0] at hnil
      exact hk hnil
    · rw [if_neg hw0, if_neg hk] at hnil
      exact List.cons_ne_nil _ _ (List.append_eq_nil_iff.1 hnil).2

/-- A namespace name is a label (lower-case letters, digits and single dashes, no dash at either
end) that ends with the key's label. It fits in 63 characters exactly when the key's label does,
and a longer key label is the whole name. It is not empty when the workspace or the key has an
ASCII letter or digit. -/
theorem namespaceName_is_label (workspace key : String) :
    IsLabel (namespaceName workspace key).toList ∧
      (dnsLabel key).toList <:+ (namespaceName workspace key).toList ∧
      ((namespaceName workspace key).length ≤ maxNameLength ↔
        (dnsLabel key).length ≤ maxNameLength) ∧
      (maxNameLength < (dnsLabel key).length → namespaceName workspace key = dnsLabel key) ∧
      ((∃ c ∈ workspace.toList, c.isAlphanum = true) ∨ (∃ c ∈ key.toList, c.isAlphanum = true) →
        namespaceName workspace key ≠ "") := by
  have hlen : (dnsLabel key).length = (labelOf key).length := by
    rw [dnsLabel, String.length_ofList]
  refine ⟨isLabel_namespaceName workspace key, ?_, ?_, fun h => ?_, namespaceName_ne_empty⟩
  · rw [dnsLabel, String.toList_ofList]
    exact labelOf_suffix_namespaceName workspace key
  · rw [hlen]
    exact length_namespaceName_le_iff workspace key
  · rw [hlen] at h
    exact namespaceName_of_long_key h

/-- A key of 64 letters makes a namespace name of 64 characters, over the limit of 63. -/
theorem long_key_overflows_namespace :
    maxNameLength < (namespaceName "alice" (String.ofList (List.replicate 64 'k'))).length := by
  decide

/-- The 64-letter key is the whole namespace name of a workspace with a letter. -/
theorem long_key_is_whole_namespace :
    (maxNameLength < (dnsLabel (String.ofList (List.replicate 64 'k'))).length ∧
        namespaceName "alice" (String.ofList (List.replicate 64 'k')) =
          dnsLabel (String.ofList (List.replicate 64 'k'))) ∧
      (((∃ c ∈ "alice".toList, c.isAlphanum = true) ∨
          (∃ c ∈ (String.ofList (List.replicate 64 'k')).toList, c.isAlphanum = true)) ∧
        namespaceName "alice" (String.ofList (List.replicate 64 'k')) ≠ "") := by
  have hlong : maxNameLength < (dnsLabel (String.ofList (List.replicate 64 'k'))).length := by
    decide
  have hletter : (∃ c ∈ "alice".toList, c.isAlphanum = true) ∨
      (∃ c ∈ (String.ofList (List.replicate 64 'k')).toList, c.isAlphanum = true) :=
    .inl ⟨'a', by decide, by decide⟩
  have h := namespaceName_is_label "alice" (String.ofList (List.replicate 64 'k'))
  exact ⟨⟨hlong, h.2.2.2.1 hlong⟩, ⟨hletter, h.2.2.2.2 hletter⟩⟩

end Shipyard.Cluster
