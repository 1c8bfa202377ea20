import Shipyard.Yaml.Writer
/-!
# No line of a written document starts with a dash

The writer puts every line of a nested value after indentation, so a line of a written document
starts either with the indentation or with a key of the top mapping. `Pen.Tidy` says what has
been written so far holds no carriage return, no line of it starts with a dash, and the pen
stands at the start of a line only at column zero. Every operation of the writer keeps it, given
what its callers know: a nested value is written at indentation one or more, and a text at the
start of a line does not start with a dash.
-/
namespace Shipyard.Yaml

/-- A text in which no line starts with a dash: no line feed is followed by one, and the text
does not start with one. -/
def NoDashLine (cs : List Char) : Prop := ¬ ['\n', '-'] <:+: '\n' :: cs

/-- One more character keeps a text free of lines starting with a dash, unless it is a dash
that starts a line. -/
theorem NoDashLine.snoc {cs : List Char} {c : Char} (h : NoDashLine cs)
    (hc : ('\n' :: cs).getLast? = some '\n' → c ≠ '-') : NoDashLine (cs ++ [c]) := by
  intro hinf
  rw [← List.cons_append, List.infix_concat_iff] at hinf
  rcases hinf with ⟨t, ht⟩ | hinf
  · -- the dash would be the new character, right after a line feed
    have ht' : (t ++ ['\n']) ++ ['-'] = ('\n' :: cs) ++ [c] := by simpa using ht
    obtain ⟨hlast, hdash⟩ := List.append_inj' ht' rfl
    have hend : ('\n' :: cs).getLast? = some '\n' := by rw [← hlast]; simp
    exact hc hend (List.singleton_inj.1 hdash).symm
  · exact h hinf

/-! ## Which texts may be written as they are -/

theorem Writer.Scan.step_special (cs : Array Char) (s : Writer.Scan) (i : Nat) :
    (Writer.Scan.step cs s i).special = (s.special || !Writer.isPrintable (cs.getD i ' ')) := by
  unfold Writer.Scan.step
  dsimp only
  split
  · rfl
  · split <;> rfl

theorem Writer.Scan.foldl_step_special (cs : Array Char) : ∀ (l : List Nat) (s : Writer.Scan),
    (l.foldl (Writer.Scan.step cs) s).special =
      (s.special || l.any fun i => !Writer.isPrintable (cs.getD i ' '))
  | [], s => by simp
  | i :: l, s => by
    rw [List.foldl_cons, foldl_step_special cs l, step_special, List.any_cons, Bool.or_assoc]

/-- A text holding a carriage return is neither plain, nor single-quoted, nor a block: the
carriage return does not print. -/
theorem Analysis.ofText_of_return {t : String} (h : '\r' ∈ t.toList) :
    (Analysis.ofText t).plain = false ∧ (Analysis.ofText t).single = false ∧
      (Analysis.ofText t).block = false := by
  obtain ⟨i, hi, hget⟩ := List.getElem_of_mem h
  have hany : ((List.range t.toList.toArray.size).any fun i =>
      !Writer.isPrintable (t.toList.toArray.getD i ' ')) = true := by
    refine List.any_eq_true.2 ⟨i, List.mem_range.2 (by simpa using hi), ?_⟩
    simp [Array.getD, hi, hget]
    decide
  have hne : t.toList.toArray.isEmpty = false := by
    simp only [List.isEmpty_toArray, List.isEmpty_eq_false_iff]
    exact List.ne_nil_of_mem h
  unfold Analysis.ofText
  simp only [hne, Bool.false_eq_true, if_false, Writer.Scan.foldl_step_special, hany, Bool.or_true]
  simp

/-- With none of the plain, single-quoted and block styles open, a text is double-quoted. -/
theorem Style.settle_of_closed {a : Analysis} (hp : a.plain = false) (hs : a.single = false)
    (hb : a.block = false) (asked : Style) (empty key : Bool) :
    asked.settle a empty key = .doubleQuoted := by
  unfold Style.settle
  cases asked <;> cases key <;> cases a.multiline <;> simp [hp, hs, hb]

/-- A text written in any style but double quotes holds no carriage return. -/
theorem not_return_of_settle {t : String} {asked : Style} {empty key : Bool}
    (h : asked.settle (Analysis.ofText t) empty key ≠ .doubleQuoted) : '\r' ∉ t.toList := by
  intro hr
  obtain ⟨hp, hs, hb⟩ := Analysis.ofText_of_return hr
  exact h (Style.settle_of_closed hp hs hb asked empty key)

namespace Pen

/-- The pen has written nothing yet, or its last character ended a line. -/
def AtLineStart (p : Pen) : Prop := ('\n' :: p.out.toList).getLast? = some '\n'

/-- What the pen has written holds no carriage return and no line starting with a dash, and the
pen is at column zero whenever it stands at the start of a line. -/
structure Tidy (p : Pen) : Prop where
  noReturn : '\r' ∉ p.out.toList
  noDashLine : NoDashLine p.out.toList
  column_eq_zero : p.AtLineStart → p.column = 0

/-- Tidiness reads only the text and the column. -/
theorem Tidy.of_eq {p q : Pen} (h : p.Tidy) (hout : q.out = p.out) (hcol : q.column = p.column) :
    q.Tidy := by
  obtain ⟨h1, h2, h3⟩ := h
  exact ⟨hout ▸ h1, hout ▸ h2, fun hq => hcol ▸ h3 (by unfold AtLineStart at hq ⊢; rwa [hout] at hq)⟩

theorem atLineStart_push {p : Pen} {c : Char} (hc : c ≠ '\n') :
    ¬ ('\n' :: (p.out.push c).toList).getLast? = some '\n' := by
  rw [String.toList_push, ← List.cons_append, List.getLast?_concat]
  exact fun h => hc (Option.some.inj h)

theorem put_tidy {p : Pen} {c : Char} (h : p.Tidy) (hr : c ≠ '\r') (hn : c ≠ '\n')
    (hd : p.AtLineStart → c ≠ '-') : (p.put c).Tidy where
  noReturn := by
    simp only [put, String.toList_push, List.mem_append, List.mem_singleton, not_or]
    exact ⟨h.noReturn, hr.symm⟩
  noDashLine := by
    simp only [put, String.toList_push]
    exact h.noDashLine.snoc hd
  column_eq_zero := fun hs => absurd hs (atLineStart_push hn)

theorem not_atLineStart_put {p : Pen} {c : Char} (hn : c ≠ '\n') : ¬ (p.put c).AtLineStart :=
  atLineStart_push hn

theorem newline_tidy {p : Pen} (h : p.Tidy) : p.newline.Tidy where
  noReturn := by
    simp only [newline, String.toList_push, List.mem_append, List.mem_singleton, not_or]
    exact ⟨h.noReturn, by decide⟩
  noDashLine := by
    simp only [newline, String.toList_push]
    exact h.noDashLine.snoc fun _ => by decide
  column_eq_zero := fun _ => rfl

theorem lineBreak_tidy {p : Pen} {c : Char} (h : p.Tidy) (hr : c ≠ '\r') (hd : c ≠ '-') :
    (p.lineBreak c).Tidy := by
  unfold lineBreak
  split
  · exact newline_tidy h
  · rename_i hc
    have hn : c ≠ '\n' := fun he => hc (by simp [he])
    exact {
      noReturn := by
        simp only [String.toList_push, List.mem_append, List.mem_singleton, not_or]
        exact ⟨h.noReturn, hr.symm⟩
      noDashLine := by
        simp only [String.toList_push]
        exact h.noDashLine.snoc fun _ => hd
      column_eq_zero := fun _ => rfl }

/-- `q` goes on from `p`: its text is that of `p` with more after it, written tidily, at the same
indentation. -/
structure Continues (p q : Pen) : Prop where
  tidy : q.Tidy
  grows : p.out.toList <+: q.out.toList
  indent : q.indent = p.indent
  indents : q.indents = p.indents

theorem Continues.refl {p : Pen} (h : p.Tidy) : Continues p p := ⟨h, List.prefix_refl _, rfl, rfl⟩

theorem Continues.trans {p q r : Pen} (h₁ : Continues p q) (h₂ : Continues q r) : Continues p r :=
  ⟨h₂.tidy, h₁.grows.trans h₂.grows, h₂.indent.trans h₁.indent, h₂.indents.trans h₁.indents⟩

/-- Setting the flags of the pen changes nothing it wrote. -/
theorem Continues.flags {p q : Pen} (h : Continues p q) (w i : Bool) :
    Continues p { q with whitespace := w, indention := i } :=
  ⟨h.tidy.of_eq rfl rfl, h.grows, h.indent, h.indents⟩

theorem Continues.put {p q : Pen} {c : Char} (h : Continues p q) (hr : c ≠ '\r') (hn : c ≠ '\n')
    (hd : q.AtLineStart → c ≠ '-') : Continues p (q.put c) :=
  h.trans ⟨put_tidy h.tidy hr hn hd, by simp [Pen.put, String.toList_push], rfl, rfl⟩

theorem Continues.newline {p q : Pen} (h : Continues p q) : Continues p q.newline :=
  h.trans ⟨newline_tidy h.tidy, by simp [Pen.newline, String.toList_push], rfl, rfl⟩

theorem Continues.lineBreak {p q : Pen} {c : Char} (h : Continues p q) (hr : c ≠ '\r')
    (hd : c ≠ '-') : Continues p (q.lineBreak c) := by
  refine h.trans ⟨lineBreak_tidy h.tidy hr hd, ?_, ?_, ?_⟩ <;> unfold Pen.lineBreak <;> split <;>
    simp [Pen.newline, String.toList_push]

/-- Characters put one after the other, none a carriage return or a line feed, and no dash at
the start of a line. -/
theorem Continues.foldl_put : ∀ {cs : List Char} {p q : Pen}, Continues p q →
    (∀ c ∈ cs, c ≠ '\r' ∧ c ≠ '\n') → (q.AtLineStart → cs.head? ≠ some '-') →
    Continues p (cs.foldl Pen.put q) ∧ (cs ≠ [] → ¬ (cs.foldl Pen.put q).AtLineStart)
  | [], _, _, h, _, _ => ⟨h, fun hne => absurd rfl hne⟩
  | c :: cs, _, q, h, hcs, hd => by
    have hc := hcs c List.mem_cons_self
    have hq := h.put hc.1 hc.2 fun hs he => hd hs (by rw [he]; rfl)
    have hnot : ¬ (q.put c).AtLineStart := not_atLineStart_put hc.2
    obtain ⟨hrest, hend⟩ := Continues.foldl_put hq (fun c' hc' => hcs c' (List.mem_cons_of_mem _ hc'))
      (fun hs => absurd hs hnot)
    refine ⟨hrest, fun _ => ?_⟩
    cases cs with
    | nil => exact hnot
    | cons _ _ => exact hend (List.cons_ne_nil _ _)

theorem Continues.putStr {p q : Pen} (s : String) (h : Continues p q)
    (hs : ∀ c ∈ s.toList, c ≠ '\r' ∧ c ≠ '\n') (hd : q.AtLineStart → s.toList.head? ≠ some '-') :
    Continues p (q.putStr s) ∧ (s.toList ≠ [] → ¬ (q.putStr s).AtLineStart) :=
  Continues.foldl_put h hs hd

/-- Indentation: spaces, ending the line when they are some or it was not at its start. -/
theorem Continues.spaces {p q : Pen} (h : Continues p q) (n : Nat) :
    Continues p { q.putStr (String.ofList (List.replicate n ' ')) with
      whitespace := true, indention := true } ∧
    ((n ≠ 0 ∨ ¬ q.AtLineStart) →
      ¬ { q.putStr (String.ofList (List.replicate n ' ')) with
          whitespace := true, indention := true }.AtLineStart) := by
  have hs := h.putStr (String.ofList (List.replicate n ' '))
    (fun c hc => by simp [String.toList_ofList] at hc; simp [hc])
    (fun _ => by cases n <;> simp [String.toList_ofList, List.replicate_succ])
  refine ⟨hs.1.flags true true, fun hn hstart => ?_⟩
  rcases hn with hn | hn
  · exact hs.2 (by simpa [String.toList_ofList] using hn) hstart
  · cases n with
    | zero => exact hn hstart
    | succ n => exact hs.2 (by simp [String.toList_ofList]) hstart

/-- Going to the indentation writes tidily; at indentation one or more the pen is then past the
start of its line. -/
theorem Continues.writeIndent {p q : Pen} (h : Continues p q) :
    Continues p q.writeIndent ∧ (1 ≤ q.indent → ¬ q.writeIndent.AtLineStart) := by
  unfold Pen.writeIndent
  dsimp only
  split
  · -- a new line, then all of the indentation
    obtain ⟨hc, hnot⟩ := h.newline.spaces (q.indent.toNat - q.newline.column)
    refine ⟨hc, fun hind => hnot (.inl ?_)⟩
    simp only [Pen.newline]
    omega
  · -- the same line, filled up to the indentation
    rename_i hcond
    obtain ⟨hc, hnot⟩ := h.spaces (q.indent.toNat - q.column)
    refine ⟨hc, fun hind => hnot ?_⟩
    by_cases hz : q.indent.toNat - q.column = 0
    · exact .inr fun hstart => by
        have := h.tidy.column_eq_zero hstart
        simp only [Bool.or_eq_true, Bool.not_eq_eq_eq_not, Bool.not_true, decide_eq_true_eq,
          Bool.and_eq_true, beq_iff_eq, not_or] at hcond
        omega
    · exact .inl hz

/-- An indicator, after a space when it needs one: tidy as long as it is no line feed and does
not put a dash at the start of a line. -/
theorem Continues.indicator {p q : Pen} (h : Continues p q) (text : String)
    (needSpace isSpace isIndention : Bool) (ht : ∀ c ∈ text.toList, c ≠ '\r' ∧ c ≠ '\n')
    (hd : q.AtLineStart → text.toList.head? ≠ some '-') :
    Continues p (q.indicator text needSpace isSpace isIndention) ∧
      (text.toList ≠ [] → ¬ (q.indicator text needSpace isSpace isIndention).AtLineStart) := by
  unfold Pen.indicator
  dsimp only
  split
  · have hsp := h.put (c := ' ') (by decide) (by decide) fun _ => by decide
    obtain ⟨hc, hnot⟩ := hsp.putStr text ht fun hs => absurd hs (not_atLineStart_put (by decide))
    exact ⟨hc.flags _ _, hnot⟩
  · obtain ⟨hc, hnot⟩ := h.putStr text ht hd
    exact ⟨hc.flags _ _, hnot⟩

/-- An indicator that holds no line feed and no dash. -/
theorem Continues.sign {p q : Pen} (h : Continues p q) (text : String)
    (needSpace isSpace isIndention : Bool)
    (ht : ∀ c ∈ text.toList, c ≠ '\r' ∧ c ≠ '\n' ∧ c ≠ '-') (hne : text.toList ≠ []) :
    Continues p (q.indicator text needSpace isSpace isIndention) ∧
      ¬ (q.indicator text needSpace isSpace isIndention).AtLineStart := by
  obtain ⟨hc, hnot⟩ := h.indicator text needSpace isSpace isIndention
    (fun c hc => ⟨(ht c hc).1, (ht c hc).2.1⟩) fun _ hd =>
      (ht _ (List.mem_of_mem_head? hd)).2.2 rfl
  exact ⟨hc, hnot hne⟩

/-- Writing at a deeper indentation and coming back to the one before. -/
theorem Continues.popIndent {q r : Pen} (flow indentless : Bool)
    (h : Continues (q.increaseIndent flow indentless) r) : Continues q r.popIndent := by
  unfold Pen.popIndent
  rw [h.indents]
  exact ⟨h.tidy.of_eq rfl rfl, h.grows, rfl, rfl⟩

theorem increaseIndent_tidy {q : Pen} (h : q.Tidy) (flow indentless : Bool) :
    (q.increaseIndent flow indentless).Tidy :=
  h.of_eq rfl rfl

theorem ne_dash_of_isBreak {c : Char} (h : Scan.isBreak c = true) : c ≠ '-' := by
  rintro rfl
  exact absurd h (by decide)

theorem ne_of_isBreak_eq_false {c : Char} (h : Scan.isBreak c = false) : c ≠ '\r' ∧ c ≠ '\n' :=
  ⟨by rintro rfl; exact absurd h (by decide), by rintro rfl; exact absurd h (by decide)⟩

/-- One character of a plain or single-quoted text, at indentation one or more: a break ends the
line, any other character lands past the start of its line unless it comes first on a line that
no break began. -/
theorem flowStep_continues (quote : Bool) {q : Pen} {breaks : Bool} {c : Char} (hq : q.Tidy)
    (hind : 1 ≤ q.indent) (hr : c ≠ '\r') (hd : breaks = false → q.AtLineStart → c ≠ '-') :
    Continues q (flowStep quote (q, breaks) c).1 ∧
      ((flowStep quote (q, breaks) c).2 = false → ¬ (flowStep quote (q, breaks) c).1.AtLineStart) := by
  unfold flowStep
  dsimp only
  split
  · -- a break: perhaps a new line first, then the break itself
    rename_i hbr
    have h₁ : Continues q (if (!breaks && c == '\n') = true then q.newline else q) := by
      split
      · exact (Continues.refl hq).newline
      · exact Continues.refl hq
    exact ⟨(h₁.lineBreak hr (ne_dash_of_isBreak hbr)).flags _ _, fun h => Bool.noConfusion h⟩
  · -- another character: the indentation first after a break, a doubled quote, then itself
    rename_i hbr
    have hc := ne_of_isBreak_eq_false (Bool.eq_false_iff.2 hbr)
    have h₁ : Continues q (if breaks = true then q.writeIndent else q) ∧
        ((if breaks = true then q.writeIndent else q).AtLineStart → c ≠ '-') := by
      split
      · rename_i hb
        obtain ⟨hw, hnot⟩ := (Continues.refl hq).writeIndent
        exact ⟨hw, fun hs => absurd hs (hnot hind)⟩
      · rename_i hb
        exact ⟨Continues.refl hq, hd (Bool.eq_false_iff.2 hb)⟩
    have h₂ : Continues q (if (quote && c == '\'') = true then
          (if breaks = true then q.writeIndent else q).put '\'' else
          (if breaks = true then q.writeIndent else q)) ∧
        ((if (quote && c == '\'') = true then
          (if breaks = true then q.writeIndent else q).put '\'' else
          (if breaks = true then q.writeIndent else q)).AtLineStart → c ≠ '-') := by
      split
      · exact ⟨h₁.1.put (by decide) (by decide) fun _ => by decide,
          fun hs => absurd hs (not_atLineStart_put (by decide))⟩
      · exact h₁
    exact ⟨(h₂.1.put hc.1 hc.2 h₂.2).flags _ _, fun _ => not_atLineStart_put hc.2⟩

/-- A plain or single-quoted text without carriage returns, at indentation one or more, writes
tidily when it does not start a line that no break began with a dash. -/
theorem foldl_flowStep_continues (quote : Bool) : ∀ {cs : List Char} {q : Pen} {breaks : Bool},
    q.Tidy → 1 ≤ q.indent → '\r' ∉ cs → (breaks = false → q.AtLineStart → cs.head? ≠ some '-') →
    Continues q (cs.foldl (flowStep quote) (q, breaks)).1
  | [], q, _, hq, _, _, _ => Continues.refl hq
  | c :: cs, q, breaks, hq, hind, hr, hd => by
    have hc : c ≠ '\r' := fun he => hr (he ▸ List.mem_cons_self)
    obtain ⟨hstep, hnext⟩ := flowStep_continues quote hq hind hc fun hb hs he =>
      hd hb hs (by rw [he]; rfl)
    rw [List.foldl_cons]
    rcases hflow : flowStep quote (q, breaks) c with ⟨r, rb⟩
    rw [hflow] at hstep hnext
    have hrest := foldl_flowStep_continues quote hstep.tidy (hstep.indent ▸ hind)
      (fun hm => hr (List.mem_cons_of_mem _ hm)) fun hb hs => absurd hs (hnext hb)
    exact hstep.trans hrest

theorem plain_eq (q : Pen) (t : String) :
    q.plain t = { (t.toList.foldl (flowStep false)
      ((if (!q.whitespace && !t.isEmpty) = true then q.put ' ' else q), false)).1 with
      whitespace := false, indention := false } := rfl

theorem singleQuoted_eq (q : Pen) (t : String) :
    q.singleQuoted t =
      let r := t.toList.foldl (flowStep true) (q.indicator "'" true false false, false)
      { ((if r.2 then r.1.writeIndent else r.1).indicator "'" false false false) with
        whitespace := false, indention := false } := rfl

/-- A plain text at indentation one or more, without carriage returns and not starting a line
with a dash. -/
theorem plain_continues {q : Pen} (hq : q.Tidy) (t : String) (hind : 1 ≤ q.indent)
    (hr : '\r' ∉ t.toList) (hd : q.AtLineStart → t.toList.head? ≠ some '-') :
    Continues q (q.plain t) ∧ (q.plain t).indention = false := by
  rw [plain_eq]
  refine ⟨Continues.flags ?_ _ _, rfl⟩
  -- a space first when the text does not follow white space
  have h₁ : Continues q (if (!q.whitespace && !t.isEmpty) = true then q.put ' ' else q) ∧
      ((if (!q.whitespace && !t.isEmpty) = true then q.put ' ' else q).AtLineStart →
        t.toList.head? ≠ some '-') := by
    split
    · exact ⟨(Continues.refl hq).put (by decide) (by decide) fun _ => by decide,
        fun hs => absurd hs (not_atLineStart_put (by decide))⟩
    · exact ⟨Continues.refl hq, hd⟩
  exact h₁.1.trans (foldl_flowStep_continues false h₁.1.tidy (by rw [h₁.1.indent]; exact hind) hr
    fun _ => h₁.2)

/-- A single-quoted text at indentation one or more, without carriage returns. -/
theorem singleQuoted_continues {q : Pen} (hq : q.Tidy) (t : String) (hind : 1 ≤ q.indent)
    (hr : '\r' ∉ t.toList) :
    Continues q (q.singleQuoted t) ∧ (q.singleQuoted t).indention = false := by
  rw [singleQuoted_eq]
  dsimp only
  refine ⟨Continues.flags ?_ _ _, rfl⟩
  obtain ⟨hopen, hnot⟩ := (Continues.refl hq).sign "'" true false false (by simp) (by decide)
  have hfold : Continues q
      (t.toList.foldl (flowStep true) (q.indicator "'" true false false, false)).1 :=
    hopen.trans (foldl_flowStep_continues true hopen.tidy
    (by rw [hopen.indent]; exact hind) hr fun _ hs => absurd hs hnot)
  generalize t.toList.foldl (flowStep true) (q.indicator "'" true false false, false) = r at hfold
  -- the indentation again when the text ended with a break, then the closing quote
  have h₂ : Continues q (if r.2 = true then r.1.writeIndent else r.1) := by
    split
    · exact hfold.writeIndent.1
    · exact hfold
  exact (h₂.sign "'" false false false (by simp) (by decide)).1

/-- A hexadecimal digit is neither a carriage return nor a line feed. -/
theorem hexDigit_ne : ∀ d < 16,
    Char.ofNat (if d < 10 then '0'.toNat + d else 'A'.toNat + d - 10) ≠ '\r' ∧
      Char.ofNat (if d < 10 then '0'.toNat + d else 'A'.toNat + d - 10) ≠ '\n' := by
  decide

theorem hexDigits_chars (width n : Nat) :
    ∀ d ∈ (hexDigits width n).toList, d ≠ '\r' ∧ d ≠ '\n' := by
  unfold hexDigits
  rw [String.toList_ofList]
  intro d hd
  obtain ⟨k, -, rfl⟩ := List.mem_map.1 hd
  exact hexDigit_ne _ (Nat.mod_lt _ (by decide))

theorem prefixed_hexDigits_chars {pre : String} (hpre : ∀ d ∈ pre.toList, d ≠ '\r' ∧ d ≠ '\n')
    (width n : Nat) : ∀ d ∈ (pre ++ hexDigits width n).toList, d ≠ '\r' ∧ d ≠ '\n' := by
  rw [String.toList_append]
  intro d hd
  rcases List.mem_append.1 hd with hd | hd
  · exact hpre d hd
  · exact hexDigits_chars width n d hd

/-- An escape holds neither a carriage return nor a line feed. -/
theorem escape_chars (c : Char) : ∀ d ∈ (escape c).toList, d ≠ '\r' ∧ d ≠ '\n' := by
  unfold escape
  repeat' split
  all_goals first
    | exact prefixed_hexDigits_chars (by simp) _ _
    | simp

theorem doubleQuoted_eq (q : Pen) (t : String) :
    q.doubleQuoted t = { ((t.toList.foldl quotedChar (q.indicator "\"" true false false)).indicator
      "\"" false false false) with whitespace := false, indention := false } := rfl

/-- Characters between double quotes, past the start of the line: escaped or as they are, they
never end the line. -/
theorem foldl_quotedChar_continues : ∀ (cs : List Char) {q : Pen}, q.Tidy → ¬ q.AtLineStart →
    Continues q (cs.foldl quotedChar q) ∧ ¬ (cs.foldl quotedChar q).AtLineStart
  | [], _, hq, hnot => ⟨Continues.refl hq, hnot⟩
  | c :: cs, q, hq, hnot => by
    have hstep : Continues q (q.quotedChar c) ∧ ¬ (q.quotedChar c).AtLineStart := by
      unfold quotedChar
      split
      · obtain ⟨hc, hend⟩ := (Continues.refl hq).putStr (escape c) (escape_chars c)
          fun hs => absurd hs hnot
        refine ⟨hc, fun hs => ?_⟩
        by_cases he : (escape c).toList = []
        · -- an empty escape writes nothing
          have hsame : (q.putStr (escape c)).out = q.out := by
            rw [Pen.putStr, he]
            rfl
          exact hnot (by unfold AtLineStart at hs ⊢; rwa [hsame] at hs)
        · exact hend he hs
      · rename_i hspecial
        have hbr : Scan.isBreak c = false := by
          simp only [Bool.or_eq_true, not_or] at hspecial
          exact Bool.eq_false_iff.2 hspecial.1.1.2
        have hc := ne_of_isBreak_eq_false hbr
        exact ⟨(Continues.refl hq).put hc.1 hc.2 fun hs => absurd hs hnot,
          not_atLineStart_put hc.2⟩
    obtain ⟨hrest, hend⟩ := foldl_quotedChar_continues cs hstep.1.tidy hstep.2
    exact ⟨hstep.1.trans hrest, hend⟩

/-- A double-quoted text writes tidily wherever it starts. -/
theorem doubleQuoted_continues {q : Pen} (hq : q.Tidy) (t : String) :
    Continues q (q.doubleQuoted t) ∧ (q.doubleQuoted t).indention = false := by
  rw [doubleQuoted_eq]
  refine ⟨Continues.flags ?_ _ _, rfl⟩
  obtain ⟨hopen, hnot⟩ := (Continues.refl hq).sign "\"" true false false (by simp) (by decide)
  obtain ⟨hchars, hnot'⟩ := foldl_quotedChar_continues t.toList hopen.tidy hnot
  exact ((hopen.trans hchars).sign "\"" false false false (by simp) (by decide)).1

/-- One character of a literal block, at indentation one or more: a character that is not a
break lands past the start of its line. -/
theorem literalStep_continues {q : Pen} {breaks : Bool} {c : Char} (hq : q.Tidy)
    (hind : 1 ≤ q.indent) (hr : c ≠ '\r') (hd : breaks = false → ¬ q.AtLineStart) :
    Continues q (literalStep (q, breaks) c).1 ∧
      ((literalStep (q, breaks) c).2 = false → ¬ (literalStep (q, breaks) c).1.AtLineStart) := by
  unfold literalStep
  dsimp only
  split
  · rename_i hbr
    exact ⟨((Continues.refl hq).lineBreak hr (ne_dash_of_isBreak hbr)).flags _ _,
      fun h => Bool.noConfusion h⟩
  · rename_i hbr
    have hc := ne_of_isBreak_eq_false (Bool.eq_false_iff.2 hbr)
    -- after a break the indentation comes first; otherwise the line already has text
    have h₁ : Continues q (if breaks = true then q.writeIndent else q) ∧
        ¬ (if breaks = true then q.writeIndent else q).AtLineStart := by
      split
      · obtain ⟨hw, hnot⟩ := (Continues.refl hq).writeIndent
        exact ⟨hw, hnot hind⟩
      · rename_i hb
        exact ⟨Continues.refl hq, hd (Bool.eq_false_iff.2 hb)⟩
    exact ⟨(h₁.1.put hc.1 hc.2 fun hs => absurd hs h₁.2).flags _ _,
      fun _ => not_atLineStart_put hc.2⟩

theorem foldl_literalStep_continues : ∀ {cs : List Char} {q : Pen} {breaks : Bool},
    q.Tidy → 1 ≤ q.indent → '\r' ∉ cs → (breaks = false → ¬ q.AtLineStart) →
    Continues q (cs.foldl literalStep (q, breaks)).1
  | [], q, _, hq, _, _, _ => Continues.refl hq
  | c :: cs, q, breaks, hq, hind, hr, hd => by
    have hc : c ≠ '\r' := fun he => hr (he ▸ List.mem_cons_self)
    obtain ⟨hstep, hnext⟩ := literalStep_continues hq hind hc hd
    rw [List.foldl_cons]
    rcases hlit : literalStep (q, breaks) c with ⟨r, rb⟩
    rw [hlit] at hstep hnext
    exact hstep.trans (foldl_literalStep_continues hstep.tidy (by rw [hstep.indent]; exact hind)
      (fun hm => hr (List.mem_cons_of_mem _ hm)) hnext)

/-- An indicator written past the start of a line, holding no carriage return or line feed. -/
theorem Continues.indicator_past {p q : Pen} (h : Continues p q) (hnot : ¬ q.AtLineStart)
    (text : String) (needSpace isSpace isIndention : Bool)
    (ht : ∀ c ∈ text.toList, c ≠ '\r' ∧ c ≠ '\n') :
    Continues p (q.indicator text needSpace isSpace isIndention) ∧
      ¬ (q.indicator text needSpace isSpace isIndention).AtLineStart := by
  obtain ⟨hc, hend⟩ := h.indicator text needSpace isSpace isIndention ht fun hs => absurd hs hnot
  refine ⟨hc, fun hs => ?_⟩
  by_cases he : text.toList = []
  · -- an empty indicator leaves the pen past the start of its line, after a space or not
    unfold Pen.indicator at hs
    dsimp only at hs
    split at hs
    · exact not_atLineStart_put (p := q) (c := ' ') (by decide) (by
        unfold AtLineStart at hs ⊢
        rwa [Pen.putStr, he] at hs)
    · exact hnot (by unfold AtLineStart at hs ⊢; rwa [Pen.putStr, he] at hs)
  · exact hend he hs

theorem chompHint_eq {t h : String} (hh : chompHint t = some h) : h = "-" ∨ h = "+" := by
  unfold chompHint at hh
  split at hh
  all_goals
    repeat' split at hh
    all_goals (cases hh <;> simp)

/-- The header hints of a block scalar, after its `|`. -/
theorem blockHints_continues {q : Pen} (hq : q.Tidy) (hnot : ¬ q.AtLineStart) (t : String) :
    Continues q (q.blockHints t) ∧ ¬ (q.blockHints t).AtLineStart := by
  -- the indentation figure, then the chomping sign, each written past the start of the line
  have hfig : Continues q (if needsIndentHint t = true then q.indicator "2" false false false
      else q) ∧
      ¬ (if needsIndentHint t = true then q.indicator "2" false false false else q).AtLineStart := by
    split
    · exact (Continues.refl hq).indicator_past hnot "2" false false false (by simp)
    · exact ⟨Continues.refl hq, hnot⟩
  unfold Pen.blockHints
  dsimp only
  split
  · rename_i h hh
    have hchars : ∀ c ∈ h.toList, c ≠ '\r' ∧ c ≠ '\n' := by
      rcases chompHint_eq hh with rfl | rfl <;> simp
    exact hfig.1.indicator_past hfig.2 h false false false hchars
  · exact hfig

theorem literal_eq (q : Pen) (t : String) :
    q.literal t = (t.toList.foldl literalStep
      ({ ((q.indicator "|" true false false).blockHints t).newline with
        indention := true, whitespace := true }, true)).1 := rfl

/-- A literal block at indentation one or more, without carriage returns. -/
theorem literal_continues {q : Pen} (hq : q.Tidy) (t : String) (hind : 1 ≤ q.indent)
    (hr : '\r' ∉ t.toList) : Continues q (q.literal t) := by
  rw [literal_eq]
  obtain ⟨hbar, hnot⟩ := (Continues.refl hq).sign "|" true false false (by simp) (by decide)
  obtain ⟨hhints, -⟩ := blockHints_continues hbar.tidy hnot t
  have hhead := ((hbar.trans hhints).newline).flags true true
  exact hhead.trans (foldl_literalStep_continues hhead.tidy (by rw [hhead.indent]; exact hind) hr
    fun h => Bool.noConfusion h)

/-- A scalar is written two further in than the pen, or at two from the outside. -/
theorem one_le_increaseIndent_flow (q : Pen) : 1 ≤ (q.increaseIndent true false).indent := by
  unfold increaseIndent
  dsimp only
  split
  · decide
  · simp only [Bool.false_eq_true, if_false]
    omega

/-- A scalar, wherever it is written, as long as its text does not start a line with a dash:
its indentation is two more than the pen's, or two. -/
theorem scalar_continues {q : Pen} (hq : q.Tidy) (t : String) (asked : Style) (key : Bool)
    (hd : q.AtLineStart → t.toList.head? ≠ some '-') : Continues q (q.scalar t asked key) := by
  unfold Pen.scalar
  dsimp only
  apply Continues.popIndent true false
  have hq₁ := increaseIndent_tidy hq true false
  have hind := one_le_increaseIndent_flow q
  split
  · rename_i hs
    exact (plain_continues hq₁ t hind (not_return_of_settle (by rw [hs]; decide)) hd).1
  · rename_i hs
    exact (singleQuoted_continues hq₁ t hind (not_return_of_settle (by rw [hs]; decide))).1
  · exact (doubleQuoted_continues hq₁ t).1
  · rename_i hs
    exact literal_continues hq₁ t hind (not_return_of_settle (by rw [hs]; decide))

/-- An empty collection in flow style: its opening sign holds no dash. -/
theorem emptyFlow_continues {q : Pen} (hq : q.Tidy) (opening closing : String)
    (ho : ∀ c ∈ opening.toList, c ≠ '\r' ∧ c ≠ '\n' ∧ c ≠ '-') (hne : opening.toList ≠ [])
    (hc : ∀ c ∈ closing.toList, c ≠ '\r' ∧ c ≠ '\n') :
    Continues q (q.emptyFlow opening closing) ∧ ¬ (q.emptyFlow opening closing).AtLineStart := by
  obtain ⟨h₁, hnot⟩ := (Continues.refl hq).sign opening true true false ho hne
  exact h₁.indicator_past hnot closing false false false hc

theorem one_le_increaseIndent {q : Pen} (hind : 1 ≤ q.indent) (indentless : Bool) :
    1 ≤ (q.increaseIndent false indentless).indent := by
  unfold increaseIndent
  dsimp only
  split
  · omega
  · split <;> omega

mutual
/-- A nested value, written at indentation one or more past the start of a line, keeps the text
tidy: every line it begins starts with indentation. -/
theorem node_continues : ∀ (v : Json) {q : Pen} (member : Bool), q.Tidy → 1 ≤ q.indent →
    ¬ q.AtLineStart → Continues q (q.node member v)
  | .obj [], q, _, hq, _, _ => by
    simp only [Pen.node]
    exact (emptyFlow_continues hq _ _ (by simp) (by decide) (by simp)).1
  | .obj (kv :: kvs), q, _, hq, hind, _ => by
    simp only [Pen.node]
    exact Continues.popIndent false false (entries_continues (kv :: kvs)
      (increaseIndent_tidy hq false false) (one_le_increaseIndent hind false))
  | .arr [], q, _, hq, _, _ => by
    simp only [Pen.node]
    exact (emptyFlow_continues hq _ _ (by simp) (by decide) (by simp)).1
  | .arr (x :: xs), q, member, hq, hind, _ => by
    simp only [Pen.node]
    exact Continues.popIndent false _ (items_continues (x :: xs)
      (increaseIndent_tidy hq false _) (one_le_increaseIndent hind _))
  | .null, q, _, hq, _, hnot => by
    simp only [Pen.node]
    exact scalar_continues hq _ _ _ fun hs => absurd hs hnot
  | .bool _, q, _, hq, _, hnot => by
    simp only [Pen.node]
    exact scalar_continues hq _ _ _ fun hs => absurd hs hnot
  | .num _, q, _, hq, _, hnot => by
    simp only [Pen.node]
    exact scalar_continues hq _ _ _ fun hs => absurd hs hnot
  | .str _, q, _, hq, _, hnot => by
    simp only [Pen.node]
    exact scalar_continues hq _ _ _ fun hs => absurd hs hnot

/-- The members of a nested mapping keep the text tidy. -/
theorem entries_continues : ∀ (kvs : List (String × Json)) {q : Pen}, q.Tidy → 1 ≤ q.indent →
    Continues q (q.entries kvs)
  | [], q, hq, _ => by
    simp only [Pen.entries]
    exact Continues.refl hq
  | (k, v) :: rest, q, hq, hind => by
    simp only [Pen.entries]
    obtain ⟨hw, hnot⟩ := (Continues.refl hq).writeIndent
    have hind' : 1 ≤ q.writeIndent.indent := by rw [hw.indent]; exact hind
    split
    · -- a simple key, `:` and the value on the same line
      have hk := hw.trans (scalar_continues hw.tidy k (Style.ofText k) true
        fun hs => absurd hs (hnot hind))
      obtain ⟨hc, hnot'⟩ := hk.sign ":" false false false (by simp) (by decide)
      have hmember := hc.trans (node_continues v true hc.tidy (by rw [hc.indent]; exact hind) hnot')
      exact hmember.trans
        (entries_continues rest hmember.tidy (by rw [hmember.indent]; exact hind))
    · -- a complex key after `?`, then `:` at the indentation and the value
      obtain ⟨hq₁, hnot₁⟩ := hw.sign "?" true false true (by simp) (by decide)
      have hk := hq₁.trans (scalar_continues hq₁.tidy k (Style.ofText k) false
        fun hs => absurd hs hnot₁)
      obtain ⟨hw', hnot₂⟩ := hk.writeIndent
      obtain ⟨hc, hnot'⟩ := hw'.sign ":" true false true (by simp) (by decide)
      have hmember := hc.trans (node_continues v true hc.tidy (by rw [hc.indent]; exact hind) hnot')
      exact hmember.trans
        (entries_continues rest hmember.tidy (by rw [hmember.indent]; exact hind))

/-- The items of a nested sequence keep the text tidy: each `-` comes after indentation. -/
theorem items_continues : ∀ (xs : List Json) {q : Pen}, q.Tidy → 1 ≤ q.indent →
    Continues q (q.items xs)
  | [], q, hq, _ => by
    simp only [Pen.items]
    exact Continues.refl hq
  | x :: xs, q, hq, hind => by
    simp only [Pen.items]
    obtain ⟨hw, hnot⟩ := (Continues.refl hq).writeIndent
    obtain ⟨hc, hnot'⟩ := hw.indicator_past (hnot hind) "-" true false true (by simp)
    have hitem := hc.trans (node_continues x false hc.tidy (by rw [hc.indent]; exact hind) hnot')
    exact hitem.trans (items_continues xs hitem.tidy (by rw [hitem.indent]; exact hind))
end

/-! ## The top mapping -/

/-- A member that may stand in the top mapping of a document: its key does not start with a
dash, and its value is no sequence with items, which would be written without indentation. -/
def TopMember (kv : String × Json) : Prop :=
  kv.1.toList.head? ≠ some '-' ∧ ∀ x xs, kv.2 ≠ .arr (x :: xs)

theorem one_le_increaseIndent_of_nonneg {q : Pen} (hind : 0 ≤ q.indent) :
    1 ≤ (q.increaseIndent false false).indent := by
  unfold increaseIndent
  dsimp only
  split
  · omega
  · simp only [Bool.false_eq_true, if_false]
    omega

/-- The value of a member of the top mapping, written after its `:`. -/
theorem top_value_continues (v : Json) (hv : ∀ x xs, v ≠ .arr (x :: xs)) {q : Pen}
    (member : Bool) (hq : q.Tidy) (hind : 0 ≤ q.indent) (hnot : ¬ q.AtLineStart) :
    Continues q (q.node member v) := by
  match v, hv with
  | .obj [], _ =>
    simp only [Pen.node]
    exact (emptyFlow_continues hq _ _ (by simp) (by decide) (by simp)).1
  | .obj (kv :: kvs), _ =>
    simp only [Pen.node]
    exact Continues.popIndent false false (entries_continues (kv :: kvs)
      (increaseIndent_tidy hq false false) (one_le_increaseIndent_of_nonneg hind))
  | .arr [], _ =>
    simp only [Pen.node]
    exact (emptyFlow_continues hq _ _ (by simp) (by decide) (by simp)).1
  | .arr (x :: xs), hv => exact absurd rfl (hv x xs)
  | .null, _ =>
    simp only [Pen.node]
    exact scalar_continues hq _ _ _ fun hs => absurd hs hnot
  | .bool _, _ =>
    simp only [Pen.node]
    exact scalar_continues hq _ _ _ fun hs => absurd hs hnot
  | .num _, _ =>
    simp only [Pen.node]
    exact scalar_continues hq _ _ _ fun hs => absurd hs hnot
  | .str _, _ =>
    simp only [Pen.node]
    exact scalar_continues hq _ _ _ fun hs => absurd hs hnot

theorem foldl_put_out : ∀ (cs : List Char) (q : Pen),
    (cs.foldl Pen.put q).out.toList = q.out.toList ++ cs
  | [], q => by simp
  | c :: cs, q => by simp [foldl_put_out cs, Pen.put, String.toList_push]

theorem mem_indicator {q : Pen} {text : String} {c : Char} (hc : c ∈ text.toList)
    (needSpace isSpace isIndention : Bool) :
    c ∈ (q.indicator text needSpace isSpace isIndention).out.toList := by
  unfold Pen.indicator putStr
  dsimp only
  rw [foldl_put_out]
  exact List.mem_append_right _ hc

/-- The members of the top mapping, each starting a line with its key or `?`; the first one
writes a `:`. -/
theorem top_entries_continues : ∀ (kvs : List (String × Json)) {q : Pen}, q.Tidy →
    q.indent = 0 → (∀ kv ∈ kvs, TopMember kv) →
    Continues q (q.entries kvs) ∧ (kvs ≠ [] → ':' ∈ (q.entries kvs).out.toList)
  | [], q, hq, _, _ => by
    simp only [Pen.entries]
    exact ⟨Continues.refl hq, fun hne => absurd rfl hne⟩
  | (k, v) :: rest, q, hq, hind, htop => by
    obtain ⟨hkey, hval⟩ := htop (k, v) List.mem_cons_self
    have hrest : ∀ kv ∈ rest, TopMember kv := fun kv hkv => htop kv (List.mem_cons_of_mem _ hkv)
    simp only [Pen.entries]
    have hw := (Continues.refl hq).writeIndent.1
    split
    · -- the key starts the line
      have hk := hw.trans (scalar_continues hw.tidy k (Style.ofText k) true fun _ => hkey)
      obtain ⟨hc, hnot'⟩ := hk.sign ":" false false false (by simp) (by decide)
      have hv := top_value_continues v hval true hc.tidy
        (Int.le_of_eq (by rw [hc.indent, hind])) hnot'
      have hmember := hc.trans hv
      obtain ⟨hnext, -⟩ := top_entries_continues rest hmember.tidy
        (by rw [hmember.indent, hind]) hrest
      exact ⟨hmember.trans hnext, fun _ => (hv.trans hnext).grows.subset (mem_indicator (by decide) _ _ _)⟩
    · -- `?` starts the line
      obtain ⟨hq₁, hnot₁⟩ := hw.sign "?" true false true (by simp) (by decide)
      have hk := hq₁.trans (scalar_continues hq₁.tidy k (Style.ofText k) false
        fun hs => absurd hs hnot₁)
      obtain ⟨hc, hnot'⟩ := hk.writeIndent.1.sign ":" true false true (by simp) (by decide)
      have hv := top_value_continues v hval true hc.tidy
        (Int.le_of_eq (by rw [hc.indent, hind])) hnot'
      have hmember := hc.trans hv
      obtain ⟨hnext, -⟩ := top_entries_continues rest hmember.tidy
        (by rw [hmember.indent, hind]) hrest
      exact ⟨hmember.trans hnext, fun _ => (hv.trans hnext).grows.subset (mem_indicator (by decide) _ _ _)⟩

end Pen

/-! ## The end of a document -/

mutual
/-- The last text a value is written with holds no line feed, so it is not written as a literal
block, the one style that ends by leaving the pen at the start of a line. -/
def endsOnLine : Json → Bool
  | .obj kvs => entriesEndOnLine kvs
  | .arr xs => itemsEndOnLine xs
  | .str t => !t.toList.contains '\n'
  | _ => true

/-- The value of the last member ends on its line. -/
def entriesEndOnLine : List (String × Json) → Bool
  | [] => true
  | [(_, v)] => endsOnLine v
  | _ :: kv :: kvs => entriesEndOnLine (kv :: kvs)

/-- The last item ends on its line. -/
def itemsEndOnLine : List Json → Bool
  | [] => true
  | [x] => endsOnLine x
  | _ :: x :: xs => itemsEndOnLine (x :: xs)
end

/-- Only the last members decide how a mapping ends. -/
theorem entriesEndOnLine_append (A : List (String × Json)) {B : List (String × Json)}
    (hB : B ≠ []) : entriesEndOnLine (A ++ B) = entriesEndOnLine B := by
  induction A with
  | nil => rfl
  | cons a A ih =>
    obtain ⟨kv, rest, hkr⟩ := List.exists_cons_of_ne_nil (List.append_ne_nil_of_right_ne_nil A hB)
    rw [List.cons_append, hkr, entriesEndOnLine, ← hkr, ih]

theorem Style.settle_ne_literal {asked : Style} (h : asked ≠ .literal) (a : Analysis)
    (empty key : Bool) : asked.settle a empty key ≠ .literal := by
  -- each step of the settling trades one style for a quoted one
  unfold Style.settle
  grind

theorem Style.ofText_ne_literal {t : String} (h : '\n' ∉ t.toList) : Style.ofText t ≠ .literal := by
  unfold Style.ofText
  rw [if_neg (by simpa using h)]
  split
  · split <;> decide
  · decide

theorem scalarText_ne_literal : ∀ j : Json, endsOnLine j = true → (scalarText j).2 ≠ .literal
  | .str t, h => by
    simp only [endsOnLine, List.contains_eq_mem, Bool.not_eq_true', decide_eq_false_iff_not] at h
    exact Style.ofText_ne_literal h
  | .num (.float f), _ => by
    simp only [scalarText]
    repeat' split
    all_goals exact Style.noConfusion
  | .null, _ | .bool _, _ | .num (.int _), _ | .arr _, _ | .obj _, _ => by
    simp only [scalarText]
    decide

namespace Pen

theorem popIndent_indention (q : Pen) : q.popIndent.indention = q.indention := by
  unfold popIndent
  split <;> rfl

theorem emptyFlow_indention (q : Pen) (opening closing : String) :
    (q.emptyFlow opening closing).indention = false := by
  simp only [emptyFlow, indicator, Bool.and_false]

/-- Every style but the literal block leaves the pen past the text it wrote. -/
theorem scalar_indention (q : Pen) (t : String) {asked : Style} (key : Bool)
    (h : asked ≠ .literal) : (q.scalar t asked key).indention = false := by
  unfold Pen.scalar
  dsimp only
  rw [popIndent_indention]
  split
  · rfl
  · rfl
  · rfl
  · rename_i hs
    exact absurd hs (Style.settle_ne_literal h _ _ _)

mutual
/-- A value whose last text ends on its line leaves the pen on that line. -/
theorem node_indention : ∀ (v : Json) (q : Pen) (member : Bool), endsOnLine v = true →
    (q.node member v).indention = false
  | .obj [], q, _, _ => by
    simp only [Pen.node]
    exact emptyFlow_indention _ _ _
  | .obj (kv :: kvs), q, _, h => by
    simp only [Pen.node]
    rw [popIndent_indention]
    exact entries_indention (kv :: kvs) _ (List.cons_ne_nil _ _) h
  | .arr [], q, _, _ => by
    simp only [Pen.node]
    exact emptyFlow_indention _ _ _
  | .arr (x :: xs), q, _, h => by
    simp only [Pen.node]
    rw [popIndent_indention]
    exact items_indention (x :: xs) _ (List.cons_ne_nil _ _) h
  | .null, q, _, h | .bool _, q, _, h | .num _, q, _, h | .str _, q, _, h => by
    simp only [Pen.node]
    exact scalar_indention _ _ _ (scalarText_ne_literal _ h)

theorem entries_indention : ∀ (kvs : List (String × Json)) (q : Pen), kvs ≠ [] →
    entriesEndOnLine kvs = true → (q.entries kvs).indention = false
  | [], _, hne, _ => absurd rfl hne
  | [(k, v)], q, _, h => by
    simp only [Pen.entries]
    split
    · exact node_indention v _ true h
    · exact node_indention v _ true h
  | (k, v) :: kv :: kvs, q, _, h => by
    simp only [Pen.entries.eq_2 q k v]
    exact entries_indention (kv :: kvs) _ (List.cons_ne_nil _ _) h

theorem items_indention : ∀ (xs : List Json) (q : Pen), xs ≠ [] →
    itemsEndOnLine xs = true → (q.items xs).indention = false
  | [], _, hne, _ => absurd rfl hne
  | [x], q, _, h => by
    simp only [Pen.items]
    exact node_indention x _ false h
  | x :: y :: xs, q, _, h => by
    simp only [Pen.items.eq_2 q x]
    exact items_indention (y :: xs) _ (List.cons_ne_nil _ _) h
end

end Pen

/-! ## Documents -/

theorem Pen.empty_tidy : ({} : Pen).Tidy := ⟨by simp, by unfold NoDashLine; decide, fun _ => rfl⟩

theorem Pen.popIndent_out (q : Pen) : q.popIndent.out = q.out := by
  unfold Pen.popIndent
  split <;> rfl

/-- At the outermost level and past the text, going to the indentation only ends the line. -/
theorem Pen.writeIndent_out {p : Pen} (h : p.indention = false) (hind : p.indent < 0) :
    p.writeIndent.out.toList = p.out.toList ++ ['\n'] := by
  unfold Pen.writeIndent Pen.putStr
  simp [h, Pen.newline, Int.toNat_of_nonpos (Int.le_of_lt hind), String.toList_push]

/-- The document of a mapping whose members may all stand at the top and whose last text ends on
its line holds no carriage return and no line starting with a dash; it holds a `:` and ends with
a line feed. -/
theorem writeDocument_lines {kvs : List (String × Json)} (hne : kvs ≠ [])
    (htop : ∀ kv ∈ kvs, Pen.TopMember kv) (hend : entriesEndOnLine kvs = true) :
    '\r' ∉ (writeDocument (.obj kvs)).toList ∧ NoDashLine (writeDocument (.obj kvs)).toList ∧
      ':' ∈ (writeDocument (.obj kvs)).toList ∧
      (writeDocument (.obj kvs)).toList.getLast? = some '\n' := by
  obtain ⟨kv, rest, rfl⟩ := List.exists_cons_of_ne_nil hne
  obtain ⟨hc, hcolon⟩ := Pen.top_entries_continues (kv :: rest)
    (Pen.increaseIndent_tidy Pen.empty_tidy false false) rfl htop
  -- the members are written one level in from the pen's start, which is then restored
  have hdoc : Pen.Continues {} (({} : Pen).node false (.obj (kv :: rest))) := by
    simp only [Pen.node]
    exact Pen.Continues.popIndent false false hc
  have hlast := Pen.writeIndent_out (Pen.node_indention (.obj (kv :: rest)) {} false hend)
    (by rw [hdoc.indent]; decide)
  have hw := hdoc.writeIndent.1
  unfold writeDocument
  refine ⟨hw.tidy.noReturn, hw.tidy.noDashLine, ?_, ?_⟩
  · rw [hlast]
    apply List.mem_append_left
    simp only [Pen.node, Pen.popIndent_out]
    exact hcolon (List.cons_ne_nil _ _)
  · rw [hlast, List.getLast?_concat]

end Shipyard.Yaml
