import Shipyard.Proofs.Cluster.ManifestObjects
import Shipyard.Space.Validate
/-!
# The figures of a space in its manifest

A manifest's deployment runs a count of replicas of one container: the image at its full path,
listening on the service's port, with the service's compute as both requests and limits, each a
decimal number followed by its unit. Its service sends port 80 on to the same port. `figures?`
reads these back from the objects as the cluster reads them: counts and ports as integers,
quantities as digits and a unit.

Every figure read back is the space's own, except the replica count (`figures_objects`). Counts
and ports are written as signed 32-bit numbers, as a two's-complement cast of the 32-bit word
gives them. The check of a space bounds the port to 1–65535, where the cast changes nothing, but
puts no bound on the replicas, so a count from 2^31 on reads back 2^32 lower
(`objects_keep_figures_iff`).
-/
namespace Shipyard.Cluster

/-! ## Reading figures back -/

/-- A resource quantity: decimal digits followed by `unit`. -/
def quantity? (unit : String) (j : Json) : Option Nat := do
  let cs := (← j.str?).toList
  if unit.toList.isSuffixOf cs then Decimal.natOf? (cs.take (cs.length - unit.length)) else none

/-- The compute of a replica: millicores of CPU, mebibytes of memory and gibibytes of ephemeral
storage. -/
structure Compute where
  cpuMillis : Nat
  memoryMiB : Nat
  diskGiB : Nat
  deriving DecidableEq, Repr

/-- A compute read from resource quantities. -/
def compute? (j : Json) : Option Compute := do
  return ⟨← quantity? "m" (← j.field? "cpu"), ← quantity? "Mi" (← j.field? "memory"),
    ← quantity? "Gi" (← j.field? "ephemeral-storage")⟩

/-- The item of an array of one item. -/
def only? : Json → Option Json
  | .arr [x] => some x
  | _ => none

/-- The figures a manifest gives its service. -/
structure Figures where
  replicas : Int
  image : String
  containerPort : Int
  targetPort : Int
  requests : Compute
  limits : Compute
  deriving DecidableEq, Repr

/-- The object of a kind. -/
def objectOfKind? (objects : List Json) (kind : String) : Option Json :=
  objects.find? (·.fieldStr? "kind" == some kind)

/-- The member at a path of member names. -/
def member? (j : Json) : List String → Option Json
  | [] => some j
  | k :: ks => (j.field? k).bind (member? · ks)

/-- The figures of a manifest's objects: the replica count, the only container and its only
port and compute, of the deployment, and the target of the only port of the service. -/
def figures? (objects : List Json) : Option Figures := do
  let deployment ← objectOfKind? objects "Deployment"
  let service ← objectOfKind? objects "Service"
  let container ← only? (← member? deployment ["spec", "template", "spec", "containers"])
  let port ← only? (← member? container ["ports"])
  let target ← only? (← member? service ["spec", "ports"])
  return { replicas := ← (← member? deployment ["spec", "replicas"]).int?
           image := ← (← member? container ["image"]).str?
           containerPort := ← (← member? port ["containerPort"]).int?
           targetPort := ← (← member? target ["targetPort"]).int?
           requests := ← compute? (← member? container ["resources", "requests"])
           limits := ← compute? (← member? container ["resources", "limits"]) }

/-- The figures a service asks for, run from an image. -/
def Figures.ofService (svc : Service) (image : Image) : Figures :=
  let c : Compute := ⟨svc.compute.cpuMillis.toNat, svc.compute.memoryMiB.toNat,
    svc.compute.diskGiB.toNat⟩
  { replicas := svc.replicas.toNat, image := image.fullPath, containerPort := svc.httpPort.toNat,
    targetPort := svc.httpPort.toNat, requests := c, limits := c }

/-! ## Numbers as they are written -/

/-- Decimal digits read back as the number they were written from. -/
theorem natOf?_natText (n : Nat) : Decimal.natOf? (Decimal.natText n).toList = some n := by
  rw [Decimal.natText, String.toList_ofList, Decimal.natOf?]
  have hdigits : (Nat.toDigits 10 n).all (fun c => '0' ≤ c && c ≤ '9') = true := by
    rw [List.all_eq_true]
    intro c hc
    have h := Nat.isDigit_of_mem_toDigits (by decide) (by decide) hc
    simp only [Char.isDigit, Bool.and_eq_true, decide_eq_true_eq] at h
    simpa [Char.le_def] using h
  have hne : (Nat.toDigits 10 n).isEmpty = false := List.isEmpty_eq_false_iff.2 Nat.toDigits_ne_nil
  rw [hne, hdigits]
  -- the reader's fold is the library's `ofDigitChars` with the product turned round
  have hfold : (Nat.toDigits 10 n).foldl (fun acc c => acc * 10 + (c.toNat - 48)) 0 =
      Nat.ofDigitChars 10 (Nat.toDigits 10 n) 0 := by
    rw [Nat.ofDigitChars]
    congr 1
    funext acc c
    rw [Nat.mul_comm]
    rfl
  rw [hfold, Nat.ofDigitChars_ten_toDigits]
  rfl

theorem quantity?_natText (n : Nat) (unit : String) :
    quantity? unit (.str (Decimal.natText n ++ unit)) = some n := by
  have hsuffix : unit.toList.isSuffixOf ((Decimal.natText n).toList ++ unit.toList) = true :=
    List.isSuffixOf_iff_suffix.2 (List.suffix_append _ _)
  have hlen : ((Decimal.natText n).toList ++ unit.toList).length - unit.length =
      (Decimal.natText n).toList.length := by
    simp only [List.length_append, String.length_toList]
    omega
  simp only [quantity?, Json.str?, Option.bind_eq_bind, Option.bind_some, String.toList_append]
  rw [if_pos hsuffix, hlen, List.take_left, natOf?_natText]

/-- The two's-complement reading of a 32-bit word. -/
theorem toInt_toInt32 (w : UInt32) :
    w.toInt32.toInt = if w.toNat < 2147483648 then (w.toNat : Int) else (w.toNat : Int) - 4294967296 := by
  rw [Int32.toInt, UInt32.toInt32, BitVec.toInt_eq_toNat_cond]
  show (if 2 * w.toNat < 4294967296 then (w.toNat : Int) else (w.toNat : Int) - 4294967296) = _
  by_cases h : w.toNat < 2147483648
  · rw [if_pos (by omega), if_pos h]
  · rw [if_neg (by omega), if_neg h]

/-- A count or port is written as the word cast to a signed 32-bit number. -/
theorem signed32_eq (w : UInt32) : signed32 w = .ofInt w.toInt32.toInt := by
  rw [toInt_toInt32, signed32]
  rfl

/-- The cast keeps a word exactly when it is below 2^31. -/
theorem toInt_toInt32_eq_iff (w : UInt32) :
    w.toInt32.toInt = w.toNat ↔ w.toNat < 2147483648 := by
  rw [toInt_toInt32]
  split
  · exact ⟨fun _ => ‹_›, fun _ => rfl⟩
  · constructor
    · intro h
      omega
    · intro h
      omega

/-- The port of a checked space is at most 65535, where the cast keeps it. -/
theorem toInt_toInt32_httpPort {sp sp' : Space} (hv : sp.validate = .ok sp') :
    sp.service.httpPort.toInt32.toInt = sp.service.httpPort.toNat := by
  rw [toInt_toInt32_eq_iff]
  unfold Space.validate at hv
  dsimp only at hv
  split at hv
  · cases hv
  · split at hv
    · cases hv
    · split at hv
      · cases hv
      · split at hv
        · cases hv
        · omega

/-! ## The figures of a manifest -/

theorem compute?_resources (m : ManifestInput) :
    compute? m.resources = some ⟨m.service.compute.cpuMillis.toNat,
      m.service.compute.memoryMiB.toNat, m.service.compute.diskGiB.toNat⟩ := by
  simp [compute?, ManifestInput.resources, Json.field?, quantity?_natText]

theorem objectOfKind?_deployment (m : ManifestInput) (s : Settings) :
    objectOfKind? (m.objects s) "Deployment" = some m.deploymentObject := rfl

theorem objectOfKind?_service (m : ManifestInput) (s : Settings) :
    objectOfKind? (m.objects s) "Service" = some m.serviceObject := rfl

theorem member?_deployment_replicas (m : ManifestInput) :
    member? m.deploymentObject ["spec", "replicas"] = some (signed32 m.service.replicas) := rfl

theorem member?_deployment_containers (m : ManifestInput) :
    member? m.deploymentObject ["spec", "template", "spec", "containers"] =
      some (.arr [m.container]) := rfl

theorem member?_service_ports (m : ManifestInput) :
    member? m.serviceObject ["spec", "ports"] =
      some (.arr [.obj [("name", .str "http"), ("port", servicePort), ("protocol", .str "TCP"),
        ("targetPort", signed32 m.service.httpPort)]]) := rfl

/-- The container's members after its variables, which stand first when there are any. -/
theorem member?_container (m : ManifestInput) :
    member? m.container ["image"] = some (.str m.image.fullPath) ∧
      member? m.container ["ports"] = some (.arr [.obj [("containerPort", signed32 m.service.httpPort),
        ("name", .str "http"), ("protocol", .str "TCP")]]) ∧
      member? m.container ["resources", "requests"] = some m.resources ∧
      member? m.container ["resources", "limits"] = some m.resources := by
  unfold ManifestInput.container
  dsimp only
  split <;> exact ⟨rfl, rfl, rfl, rfl⟩

/-- Read back from the objects of a manifest, the replica count is the service's count cast to a
signed 32-bit number, and every other figure is the service's own: the image at its full path,
the port of the container and the target of the service, and the compute as requests and limits. -/
theorem figures_objects (m : ManifestInput) (s : Settings) {sp : Space}
    (hv : m.space.validate = .ok sp) :
    figures? (m.objects s) =
      some { Figures.ofService m.space.service m.image with
             replicas := m.space.service.replicas.toInt32.toInt } := by
  obtain ⟨himage, hports, hrequests, hlimits⟩ := member?_container m
  have hport := toInt_toInt32_httpPort hv
  -- the rest of the reading runs by definition once the binds of `Option` are unfolded
  simp only [figures?, objectOfKind?_deployment, objectOfKind?_service, bind, Option.bind,
    member?_deployment_containers, member?_service_ports, member?_deployment_replicas, himage,
    hports, hrequests, hlimits, compute?_resources, signed32_eq, only?, ManifestInput.service,
    hport]
  rfl

/-- For a checked space, the figures read back from the manifest are the service's own, but for
the replica count cast to a signed 32-bit number; so they are all the service's own exactly when
the count is below 2^31. -/
theorem objects_keep_figures_iff (m : ManifestInput) (s : Settings) {sp : Space}
    (hv : m.space.validate = .ok sp) :
    figures? (m.objects s) =
        some { Figures.ofService m.space.service m.image with
               replicas := m.space.service.replicas.toInt32.toInt } ∧
      (figures? (m.objects s) = some (Figures.ofService m.space.service m.image) ↔
        m.space.service.replicas.toNat < 2147483648) := by
  refine ⟨figures_objects m s hv, ?_⟩
  rw [figures_objects m s hv, Option.some.injEq, ← toInt_toInt32_eq_iff]
  constructor
  · intro h
    exact congrArg Figures.replicas h
  · intro h
    rw [h]
    rfl

/-- A checked space of 2^31 replicas: its manifest asks for -2^31. -/
theorem wide_space_replicas_wrap :
    let m : ManifestInput :=
      { deploymentId := "d-1", repoId := "r1", workspaceName := "alice",
        space := { key := "k1",
                   service := { name := "web", httpPort := 8080, replicas := 2147483648,
                                dockerfilePath := "Dockerfile", dockerContext := ".",
                                compute := ⟨1000, 2048, 20⟩ } },
        image := ⟨"registry.test", "r1", "t1"⟩, secretKeys := [] }
    m.space.validate = .ok m.space ∧
      (figures? (m.objects {})).map Figures.replicas = some (-2147483648) ∧
      figures? (m.objects {}) ≠ some (Figures.ofService m.space.service m.image) := by
  intro m
  have hv : m.space.validate = .ok m.space := by decide
  have h := objects_keep_figures_iff m {} hv
  refine ⟨hv, by rw [h.1]; rfl, fun he => absurd (h.2.1 he) (by decide)⟩

end Shipyard.Cluster
