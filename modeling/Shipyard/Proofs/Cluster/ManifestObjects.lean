import Shipyard.Proofs.Cluster.ManifestSplit
import Shipyard.Proofs.Yaml.WrittenLines
/-!
# The documents of a synthesized manifest reach the decoder whole

Every object of a manifest is a mapping whose members may stand at the top of a document and
whose last text holds no line feed: the namespace name, a fixed word, or a number of mebibytes.
Its document is then `Separable` (`separable_writeDocument`), whatever the user-given texts
inside it are, so the splitter hands the decoder exactly the five written documents, in order
(`parseManifest_synthesize`).
-/
namespace Shipyard.Cluster

/-! ## Names hold no line feed -/

/-- Lowering a capital letter never gives a line feed. -/
theorem toLower_ne_newline {c : Char} (h : c.isUpper = true) : c.toLower ≠ '\n' := by
  unfold Char.toLower
  intro he
  split at he
  · -- a capital moves up by 32, past every control character
    have := congrArg Char.val he
    grind
  · subst he
    exact absurd h (by decide)

theorem labelChars_ne_newline (c : Char) : ∀ d ∈ labelChars c, d ≠ '\n' := by
  unfold labelChars
  split
  · rename_i h
    intro d hd
    rw [List.mem_singleton] at hd
    subst hd
    rintro rfl
    exact absurd h (by decide)
  · split
    · rename_i h
      intro d hd
      rw [List.mem_singleton] at hd
      subst hd
      exact toLower_ne_newline h
    · split
      · simp
      · split <;> simp

theorem collapseDashes_subset (cs : List Char) : collapseDashes cs ⊆ cs := by
  fun_induction collapseDashes cs with
  | case1 => exact List.Subset.refl _
  | case2 rest ih => exact List.Subset.trans ih (List.subset_cons_self _ _)
  | case3 c rest _ ih => exact List.cons_subset_cons _ ih

theorem trimDashes_subset (cs : List Char) : trimDashes cs ⊆ cs := fun _ hc =>
  (List.dropWhile_suffix _).subset
    (List.mem_reverse.1 ((List.dropWhile_suffix _).subset (List.mem_reverse.1 hc)))

theorem newline_not_mem_labelOf (s : String) : '\n' ∉ labelOf s := fun h => by
  obtain ⟨c, -, hc⟩ := List.mem_flatMap.1 (collapseDashes_subset _ (trimDashes_subset _ h))
  exact labelChars_ne_newline c _ hc rfl

theorem newline_not_mem_namespaceName (workspace key : String) :
    '\n' ∉ (namespaceName workspace key).toList := by
  have hw : '\n' ∉ (dropDashes ((labelOf workspace).take
      (maxNameLength - ((labelOf key).length + 1))).reverse).reverse := fun h =>
    newline_not_mem_labelOf workspace (List.mem_of_mem_take
      (List.mem_reverse.1 ((List.dropWhile_suffix _).subset (List.mem_reverse.1 h))))
  unfold namespaceName
  dsimp only
  split
  · rw [String.toList_ofList]
    exact newline_not_mem_labelOf key
  · rw [String.toList_ofList]
    exact hw
  · rw [String.toList_ofList, List.mem_append, List.mem_cons, not_or, not_or]
    exact ⟨hw, by decide, newline_not_mem_labelOf key⟩

theorem newline_not_mem_natText (n : Nat) : '\n' ∉ (Decimal.natText n).toList := fun h => by
  rw [Decimal.natText, String.toList_ofList] at h
  exact absurd (Nat.isDigit_of_mem_toDigits (by decide) (by decide) h) (by decide)

/-! ## Written documents are separable -/

theorem toList_dashes : "---".toList = ['-', '-', '-'] := by decide

/-- A line that reads as a separator once the white space at its end is trimmed starts with a
dash. -/
theorem head_of_trimEndWhite_separator {s : String} (h : Text.trimEndWhite s = "---") :
    s.toList.head? = some '-' := by
  obtain ⟨pre, hpre⟩ := List.dropWhile_suffix Text.isWhite (l := s.toList.reverse)
  have hcore : s.toList.reverse.dropWhile Text.isWhite = ['-', '-', '-'] := by
    have := congrArg String.toList h
    rw [Text.trimEndWhite, String.toList_ofList, toList_dashes, List.reverse_eq_iff] at this
    exact this
  have hs : s.toList = ['-', '-', '-'] ++ pre.reverse := by
    rw [← List.reverse_reverse s.toList, ← hpre, hcore, List.reverse_append]
    rfl
  rw [hs]
  rfl

theorem mem_terminated {L : List (List Char)} {l : List Char} {c : Char} (hl : l ∈ L)
    (hc : c ∈ l) : c ∈ Text.terminated L :=
  List.mem_flatten.2 ⟨l ++ ['\n'], List.mem_map_of_mem hl, List.mem_append_left _ hc⟩

/-- A line starting with a dash puts a dash right after a line feed, or at the very start. -/
theorem dash_infix_of_mem {L : List (List Char)} {l : List Char} (hl : l ∈ L)
    (hd : l.head? = some '-') : ['\n', '-'] <:+: '\n' :: Text.terminated L := by
  induction L with
  | nil => exact absurd hl List.not_mem_nil
  | cons l₀ L ih =>
    rw [Text.terminated_cons]
    rcases List.mem_cons.1 hl with rfl | hl
    · obtain ⟨r, rfl⟩ : ∃ r, l = '-' :: r := by
        cases l with
        | nil => cases hd
        | cons c r =>
          cases hd
          exact ⟨r, rfl⟩
      exact ⟨[], r ++ '\n' :: Text.terminated L, by simp⟩
    · exact (ih hl).trans ⟨'\n' :: l₀, [], by simp⟩

/-- A text with no carriage return, no line starting with a dash, a `:` somewhere and a line feed
at its end is separable. -/
theorem separable_of_lines {doc : String} (hr : '\r' ∉ doc.toList)
    (hd : Yaml.NoDashLine doc.toList) (hc : ':' ∈ doc.toList)
    (hl : doc.toList.getLast? = some '\n') : Separable doc where
  endsWithLineFeed := hl
  noCarriageReturn := fun h => hr (h.subset List.mem_cons_self)
  notBlank := ⟨':', hc, by decide⟩
  noSeparatorLine := by
    obtain ⟨L, hL, hne, hnl⟩ := Text.exists_terminated hl
    have hcr : ∀ l ∈ L, l.getLast? ≠ some '\r' := fun l hlL hlast => by
      obtain ⟨l', rfl⟩ := List.getLast?_eq_some_iff.1 hlast
      exact hr (hL ▸ mem_terminated hlL (List.mem_append_right _ List.mem_cons_self))
    have hdoc : doc = String.ofList (Text.terminated L) := by rw [← hL, String.ofList_toList]
    intro line hline hsep
    rw [hdoc, Text.lines_terminated hne hnl hcr] at hline
    obtain ⟨l, hlL, rfl⟩ := List.mem_map.1 hline
    have hdash := head_of_trimEndWhite_separator hsep
    rw [String.toList_ofList] at hdash
    exact hd (hL ▸ dash_infix_of_mem hlL hdash)

/-- The document of a mapping whose members may all stand at the top and whose last text holds
no line feed is separable. -/
theorem separable_writeDocument {kvs : List (String × Json)} (hne : kvs ≠ [])
    (htop : ∀ kv ∈ kvs, Yaml.Pen.TopMember kv) (hend : Yaml.entriesEndOnLine kvs = true) :
    Separable (Yaml.writeDocument (.obj kvs)) :=
  let ⟨hr, hd, hc, hl⟩ := Yaml.writeDocument_lines hne htop hend
  separable_of_lines hr hd hc hl

/-! ## The objects of a manifest -/

/-- Every object of a manifest is written as a separable document: the members at its top are
fixed words with a mapping or a text as value, and each ends on a name without line feeds, a
fixed word or a number of mebibytes. -/
theorem objects_separable (m : ManifestInput) (s : Settings) :
    ∀ j ∈ m.objects s, Separable (Yaml.writeDocument j) := by
  have hns := newline_not_mem_namespaceName m.workspaceName m.space.key
  simp only [ManifestInput.objects, List.forall_mem_cons, List.not_mem_nil, IsEmpty.forall_iff,
    forall_const, and_true]
  refine ⟨?_, ?_, ?_, ?_, ?_⟩ <;> apply separable_writeDocument <;>
    simp [Yaml.Pen.TopMember, objectHead, Yaml.entriesEndOnLine, Yaml.endsOnLine,
      Yaml.itemsEndOnLine, Yaml.entriesEndOnLine_append, ManifestInput.metadata,
      ManifestInput.targetNamespace, ManifestInput.container, ManifestInput.resources, hns,
      newline_not_mem_natText]

/-- A member of the metadata of an object, as text. -/
def objectMeta? (o : Json) (k : String) : Option String :=
  (o.field? "metadata").bind (·.fieldStr? k)

/-- The service that the first path of the first rule of an ingress routes to. -/
def backendService? (ingress : Json) : Option String := do
  let rules ← (← ingress.field? "spec").field? "rules"
  let rule ← (← rules.arr?).head?
  let paths ← (← rule.field? "http").field? "paths"
  let path ← (← paths.arr?).head?
  let service ← (← path.field? "backend").field? "service"
  service.fieldStr? "name"

/-- The manifest of any input is read as its five written documents, in order: separable
documents come back whole from their join, and the documents of the objects are separable. The
objects are the namespace, named from the workspace and the space key, the secret of the
repository, the deployment and the service named after the service, and the ingress routing to
that service; all but the namespace are in the namespace. -/
theorem parseManifest_synthesize :
    (∀ docs : List String, (∀ d ∈ docs, Separable d) →
      manifestDocuments ("---\n".intercalate docs) = docs) ∧
    ∀ (m : ManifestInput) (s : Settings),
      parseManifest (synthesize m s) = ((m.objects s).map Yaml.writeDocument).mapM readObject ∧
      (m.objects s).map (·.fieldStr? "kind") =
        [some "Namespace", some "Secret", some "Deployment", some "Service", some "Ingress"] ∧
      (m.objects s).map (objectMeta? · "name") =
        [some (namespaceName m.workspaceName m.space.key), some (secretObjectName m.repoId),
          some m.space.service.name, some m.space.service.name, some "ingress"] ∧
      (m.objects s).tail.map (objectMeta? · "namespace") =
        List.replicate 4 (some (namespaceName m.workspaceName m.space.key)) ∧
      backendService? (m.ingressObject s) = some m.space.service.name := by
  refine ⟨fun docs h => manifestDocuments_intercalate h, fun m s => ⟨?_, ?_, ?_, ?_, ?_⟩⟩
  · have hsep : ∀ d ∈ (m.objects s).map Yaml.writeDocument, Separable d := fun d hd => by
      obtain ⟨j, hj, rfl⟩ := List.mem_map.1 hd
      exact objects_separable m s j hj
    rw [parseManifest, synthesize, manifestDocuments_intercalate hsep]
  · simp [ManifestInput.objects, Json.fieldStr?, Json.field?, Json.str?, objectHead,
      ManifestInput.namespaceObject, ManifestInput.secretObject, ManifestInput.deploymentObject,
      ManifestInput.serviceObject, ManifestInput.ingressObject]
  · simp [objectMeta?, ManifestInput.objects, Json.fieldStr?, Json.field?, Json.str?, objectHead,
      ManifestInput.namespaceObject, ManifestInput.secretObject, ManifestInput.deploymentObject,
      ManifestInput.serviceObject, ManifestInput.ingressObject, ManifestInput.metadata,
      ManifestInput.targetNamespace, ManifestInput.secretName, ManifestInput.service]
  · simp [objectMeta?, ManifestInput.objects, Json.fieldStr?, Json.field?, Json.str?, objectHead,
      ManifestInput.secretObject, ManifestInput.deploymentObject, ManifestInput.serviceObject,
      ManifestInput.ingressObject, ManifestInput.metadata, ManifestInput.targetNamespace,
      List.replicate]
  · simp [backendService?, Json.fieldStr?, Json.field?, Json.str?, Json.arr?, objectHead,
      ManifestInput.ingressObject, ManifestInput.service]

/-- Two one-line documents joined by a separator line split back into the two. -/
theorem two_documents_split_back :
    (∀ d ∈ ["a: 1\n", "b: 2\n"], Separable d) ∧
      manifestDocuments ("---\n".intercalate ["a: 1\n", "b: 2\n"]) = ["a: 1\n", "b: 2\n"] := by
  have h : ∀ d ∈ ["a: 1\n", "b: 2\n"], Separable d := by
    intro d hd
    simp only [List.mem_cons, List.not_mem_nil, or_false] at hd
    rcases hd with rfl | rfl <;>
      exact separable_of_lines (by decide) (by unfold Yaml.NoDashLine; decide) (by decide)
        (by decide)
  exact ⟨h, parseManifest_synthesize.1 _ h⟩

end Shipyard.Cluster
