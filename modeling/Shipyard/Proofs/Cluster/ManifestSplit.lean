import Shipyard.Cluster.Manifest
import Mathlib.Data.List.TakeWhile
/-!
# Splitting a manifest back into its documents

A manifest joins its documents with `---` lines, and `manifestDocuments` cuts it back at every
line that is `---` once the white space after it is trimmed, keeping what is not blank. The cut
is exact for documents that end with a line feed, hold no carriage return before a line feed,
are not blank and have no line that reads as a separator (`Separable`):
`manifestDocuments_intercalate` gives back exactly the joined documents, in order.

The argument works on texts as lists of lines, each ended by a line feed (`Text.terminated`):
such a text splits into exactly its lines, and a document joins the one being read line by line
until the separator after it closes it.
-/
namespace Shipyard

namespace Text

/-- The text of lines, each ended by a line feed. -/
def terminated (L : List (List Char)) : List Char := (L.map (· ++ ['\n'])).flatten

@[simp] theorem terminated_nil : terminated [] = [] := rfl

@[simp] theorem terminated_cons (l : List Char) (L : List (List Char)) :
    terminated (l :: L) = l ++ '\n' :: terminated L := by
  simp [terminated]

theorem terminated_append (A B : List (List Char)) :
    terminated (A ++ B) = terminated A ++ terminated B := by
  simp [terminated]

/-- The pieces of a list split at a separator hold no separator. -/
theorem not_mem_of_mem_splitOn {x : Char} :
    ∀ {xs l : List Char}, l ∈ xs.splitOn x → x ∉ l
  | [], l, hl => by
    rw [List.splitOn_nil, List.mem_singleton] at hl
    subst hl
    exact List.not_mem_nil
  | y :: xs, l, hl => by
    rw [List.splitOn_cons_eq_if_modifyHead] at hl
    split at hl
    · rcases List.mem_cons.1 hl with rfl | hl
      · exact List.not_mem_nil
      · exact not_mem_of_mem_splitOn hl
    · rename_i hy
      -- the first piece gains `y`, which is not the separator; the others are as before
      obtain ⟨p, ps, hps⟩ := List.exists_cons_of_ne_nil (List.splitOn_ne_nil x xs)
      rw [hps, List.modifyHead_cons] at hl
      rcases List.mem_cons.1 hl with rfl | hl
      · have hp := not_mem_of_mem_splitOn (hps ▸ List.mem_cons_self : p ∈ xs.splitOn x)
        intro hmem
        rcases List.mem_cons.1 hmem with rfl | hmem
        · exact hy (beq_self_eq_true _)
        · exact hp hmem
      · exact not_mem_of_mem_splitOn (hps ▸ List.mem_cons_of_mem _ hl)

/-- A text of lines without line feeds splits at its line feeds into those lines and the empty
rest after the last one. -/
theorem splitOn_terminated :
    ∀ {L : List (List Char)}, (∀ l ∈ L, '\n' ∉ l) → (terminated L).splitOn '\n' = L ++ [[]]
  | [], _ => rfl
  | l :: L, h => by
    rw [terminated_cons, List.splitOn_append_cons_self_of_not_mem (h l List.mem_cons_self),
      splitOn_terminated fun l' hl' => h l' (List.mem_cons_of_mem _ hl')]
    rfl

/-- Every text that ends with a line feed is the text of its lines. -/
theorem exists_terminated {cs : List Char} (h : cs.getLast? = some '\n') :
    ∃ L, cs = terminated L ∧ L ≠ [] ∧ ∀ l ∈ L, '\n' ∉ l := by
  obtain ⟨body, rfl⟩ := List.getLast?_eq_some_iff.1 h
  refine ⟨body.splitOn '\n', ?_, List.splitOn_ne_nil _ _, fun l hl => not_mem_of_mem_splitOn hl⟩
  -- rejoining the pieces with line feeds gives the body back
  have hjoin : ∀ L : List (List Char), L ≠ [] → terminated L = ['\n'].intercalate L ++ ['\n'] := by
    intro L hL
    induction L with
    | nil => exact absurd rfl hL
    | cons l L ih =>
      cases L with
      | nil => simp
      | cons l' L => simp [ih (List.cons_ne_nil _ _), List.intercalate_cons_cons]
  rw [hjoin _ (List.splitOn_ne_nil _ _), List.intercalate_splitOn]

theorem getLast?_terminated : ∀ {L : List (List Char)}, L ≠ [] →
    (terminated L).getLast? = some '\n'
  | [], h => absurd rfl h
  | [l], _ => by simp
  | l :: l' :: L, _ => by
    rw [terminated_cons, List.getLast?_append, List.getLast?_cons,
      getLast?_terminated (List.cons_ne_nil l' L)]
    rfl

/-- The lines of a text of terminated lines, none of them ending with a carriage return, are
those lines. -/
theorem lines_terminated {L : List (List Char)} (hL : L ≠ []) (hnl : ∀ l ∈ L, '\n' ∉ l)
    (hcr : ∀ l ∈ L, l.getLast? ≠ some '\r') :
    lines (String.ofList (terminated L)) = L.map String.ofList := by
  unfold lines
  simp only [String.toList_ofList, getLast?_terminated hL, splitOn_terminated hnl,
    List.dropLast_concat, beq_self_eq_true, Bool.or_true, Bool.true_and]
  rw [if_pos trivial]
  -- no line ends with a carriage return, so each is kept as it is
  conv => rhs; rw [← List.zipIdx_map_fst 0 L, List.map_map]
  refine List.map_congr_left fun x hx => ?_
  have hx' : (x.1.getLast? == some '\r') = false := by
    simpa using hcr x.1 (List.fst_mem_of_mem_zipIdx hx)
  simp [hx']

/-- Trimming a text that holds a character other than white space leaves it not empty. -/
theorem trimWhite_isEmpty_eq_false {s : String} (h : ∃ c ∈ s.toList, isWhite c = false) :
    (trimWhite s).isEmpty = false := by
  obtain ⟨c, hc, hw⟩ := h
  -- after the leading white space the text starts with a character that is not white
  have h1 : s.toList.dropWhile isWhite ≠ [] := fun he =>
    absurd (List.dropWhile_eq_nil_iff.1 he c hc) (by simp [hw])
  obtain ⟨d, hd, hdw⟩ : ∃ d ∈ s.toList.dropWhile isWhite, isWhite d = false :=
    ⟨_, List.head_mem h1, by simpa using List.head_dropWhile_not isWhite h1⟩
  have h2 : (s.toList.dropWhile isWhite).reverse.dropWhile isWhite ≠ [] := fun he =>
    absurd (List.dropWhile_eq_nil_iff.1 he d (List.mem_reverse.2 hd)) (by simp [hdw])
  unfold trimWhite
  rw [String.isEmpty_eq_false_iff, Ne, String.ofList_eq_empty_iff, List.reverse_eq_nil_iff]
  exact h2

end Text

namespace Cluster

/-- A document that the splitter hands back whole: it ends with a line feed, holds no carriage
return before a line feed, is not blank, and none of its lines reads as a separator. -/
structure Separable (doc : String) : Prop where
  endsWithLineFeed : doc.toList.getLast? = some '\n'
  noCarriageReturn : ¬ ['\r', '\n'] <:+: doc.toList
  notBlank : ∃ c ∈ doc.toList, Text.isWhite c = false
  noSeparatorLine : ∀ line ∈ Text.lines doc, Text.trimEndWhite line ≠ "---"

/-- A separable document is the text of its lines, none of which ends with a carriage return. -/
theorem Separable.terminated {doc : String} (h : Separable doc) :
    ∃ L, doc = String.ofList (Text.terminated L) ∧ L ≠ [] ∧
      ∀ l ∈ L, '\n' ∉ l ∧ l.getLast? ≠ some '\r' := by
  obtain ⟨L, hL, hne, hnl⟩ := Text.exists_terminated h.endsWithLineFeed
  refine ⟨L, by rw [← hL, String.ofList_toList], hne, fun l hl => ⟨hnl l hl, fun hcr => ?_⟩⟩
  -- a line ending with a carriage return puts one before the line feed that ends it
  obtain ⟨l', rfl⟩ := List.getLast?_eq_some_iff.1 hcr
  have hinfix : l' ++ ['\r'] ++ ['\n'] <:+: doc.toList :=
    hL ▸ List.infix_of_mem_flatten (List.mem_map.2 ⟨_, hl, rfl⟩ : l' ++ ['\r'] ++ ['\n'] ∈ L.map (· ++ ['\n']))
  exact h.noCarriageReturn (List.IsInfix.trans ⟨l', [], by simp⟩ hinfix)

/-- One line of a manifest taken in by the splitter: a separator closes the document being read,
kept when it is not blank; any other line joins it. -/
def documentStep (acc : List String × String) (line : String) : List String × String :=
  if Text.trimEndWhite line == "---" then
    (if (Text.trimWhite acc.2).isEmpty then acc.1 else acc.2 :: acc.1, "")
  else (acc.1, acc.2 ++ line ++ "\n")

theorem trimEndWhite_separator : Text.trimEndWhite "---" = "---" := by decide

theorem toList_separator : "---\n".toList = ['-', '-', '-', '\n'] := by decide

theorem manifestDocuments_eq (manifest : String) :
    manifestDocuments manifest =
      ((Text.lines manifest ++ ["---"]).foldl documentStep ([], "")).1.reverse := rfl

/-- Lines that are not separators join the document being read, each ended by a line feed. -/
theorem foldl_documentStep_lines {L : List (List Char)}
    (h : ∀ l ∈ L, Text.trimEndWhite (String.ofList l) ≠ "---") (acc : List String) (cur : String) :
    (L.map String.ofList).foldl documentStep (acc, cur) =
      (acc, cur ++ String.ofList (Text.terminated L)) := by
  induction L generalizing cur with
  | nil => simp
  | cons l L ih =>
    have hl : (Text.trimEndWhite (String.ofList l) == "---") = false :=
      beq_eq_false_iff_ne.2 (h l List.mem_cons_self)
    rw [List.map_cons, List.foldl_cons, documentStep, if_neg (by simp [hl]),
      ih fun l' hl' => h l' (List.mem_cons_of_mem _ hl')]
    simp only [Prod.mk.injEq, true_and, ← String.toList_inj, String.toList_append,
      String.toList_ofList, Text.terminated_cons, List.append_assoc]
    rfl

/-- A separable document followed by a separator is read as that one document. -/
theorem Separable.foldl_documentStep {doc : String} (h : Separable doc) (acc : List String) :
    (Text.lines doc ++ ["---"]).foldl documentStep (acc, "") = (doc :: acc, "") := by
  obtain ⟨L, rfl, hne, hL⟩ := h.terminated
  have hlines := Text.lines_terminated hne (fun l hl => (hL l hl).1) (fun l hl => (hL l hl).2)
  have hsep : ∀ l ∈ L, Text.trimEndWhite (String.ofList l) ≠ "---" := fun l hl =>
    h.noSeparatorLine _ (hlines ▸ List.mem_map_of_mem hl)
  rw [List.foldl_append, hlines, foldl_documentStep_lines hsep, String.empty_append]
  simp [documentStep, trimEndWhite_separator, Text.trimWhite_isEmpty_eq_false h.notBlank]

/-- Separable documents, each followed by a separator, are read as those documents. -/
theorem foldl_documentStep_documents {docs : List String} (h : ∀ d ∈ docs, Separable d)
    (acc : List String) :
    (docs.flatMap fun d => Text.lines d ++ ["---"]).foldl documentStep (acc, "") =
      (docs.reverse ++ acc, "") := by
  induction docs generalizing acc with
  | nil => rfl
  | cons d docs ih =>
    rw [List.flatMap_cons, List.foldl_append, (h d List.mem_cons_self).foldl_documentStep,
      ih (fun d' hd' => h d' (List.mem_cons_of_mem _ hd'))]
    simp

/-- Separable documents joined by separator lines form a text of lines: those of each document,
with a separator line between two documents. -/
theorem intercalate_terminated {docs : List String} (hne : docs ≠ [])
    (h : ∀ d ∈ docs, Separable d) :
    ∃ LL, ("---\n".intercalate docs).toList = Text.terminated LL ∧ LL ≠ [] ∧
      (∀ l ∈ LL, '\n' ∉ l ∧ l.getLast? ≠ some '\r') ∧
      LL.map String.ofList ++ ["---"] = docs.flatMap fun d => Text.lines d ++ ["---"] := by
  induction docs with
  | nil => exact absurd rfl hne
  | cons d docs ih =>
    obtain ⟨L, rfl, hLne, hL⟩ := (h d List.mem_cons_self).terminated
    have hlines := Text.lines_terminated hLne (fun l hl => (hL l hl).1) (fun l hl => (hL l hl).2)
    cases docs with
    | nil => exact ⟨L, by simp, hLne, hL, by simp [hlines]⟩
    | cons d' docs =>
      obtain ⟨LL, hLL, -, hLLok, hmap⟩ :=
        ih (List.cons_ne_nil _ _) fun d'' hd'' => h d'' (List.mem_cons_of_mem _ hd'')
      refine ⟨L ++ ['-', '-', '-'] :: LL, ?_, by simp, ?_, ?_⟩
      · rw [String.intercalate_cons_cons, String.toList_append, String.toList_append, hLL,
          String.toList_ofList, Text.terminated_append, Text.terminated_cons, toList_separator]
        simp
      · intro l hl
        rcases List.mem_append.1 hl with hl | hl
        · exact hL l hl
        · rcases List.mem_cons.1 hl with rfl | hl
          · exact ⟨by decide, by decide⟩
          · exact hLLok l hl
      · rw [List.flatMap_cons, ← hmap, hlines]
        simp

/-- Separable documents joined by separator lines are split back into exactly those documents,
in order. -/
theorem manifestDocuments_intercalate {docs : List String} (h : ∀ d ∈ docs, Separable d) :
    manifestDocuments ("---\n".intercalate docs) = docs := by
  cases docs with
  | nil => rfl
  | cons d docs =>
    obtain ⟨LL, hLL, hne, hok, hmap⟩ := intercalate_terminated (List.cons_ne_nil d docs) h
    have hlines : Text.lines ("---\n".intercalate (d :: docs)) = LL.map String.ofList := by
      rw [← (String.ofList_toList : String.ofList ("---\n".intercalate (d :: docs)).toList = _), hLL]
      exact Text.lines_terminated hne (fun l hl => (hok l hl).1) (fun l hl => (hok l hl).2)
    rw [manifestDocuments_eq, hlines, hmap, foldl_documentStep_documents h]
    simp

end Cluster

end Shipyard
