import Converge.Proofs.Built
import Converge.Proofs.Convergence

/-!
# Versions of a deployment

A replacement writes the version that follows the live one, and the next pass reads it
back from the cluster. Over any number of passes the version goes up by one at each
replacement until it has reached the greatest version, where it stays.
-/

namespace Converge

/-- The version a live deployment is at; zero if it has none. -/
def versionOf (live : Json) : Int :=
  ((live.at? ["status", "latestVersion"]).bind Json.asInt64?).getD 0

theorem nextVersion_eq (live : Json) : nextVersion live = min (versionOf live + 1) maxInt64 := rfl

theorem fitsSigned_iff {n : Int} :
    fitsSigned 64 n = true ↔ -(maxInt64 + 1) ≤ n ∧ n ≤ maxInt64 := by
  have bits : (twoTo (64 - 1) : Int) = maxInt64 + 1 := rfl
  rw [fitsSigned, bits, Bool.and_eq_true, decide_eq_true_eq, decide_eq_true_eq, Int.lt_add_one_iff]

theorem Json.fits_of_asInt64? {v : Json} {n : Int} (h : v.asInt64? = some n) :
    fitsSigned 64 n = true := by
  cases v with
  | int k =>
    rw [Json.asInt64?] at h
    split at h
    · next fits => cases h; exact fits
    · cases h
  | _ => cases h

theorem fits_versionOf (live : Json) : fitsSigned 64 (versionOf live) = true := by
  rw [versionOf]
  cases read : (live.at? ["status", "latestVersion"]).bind Json.asInt64? with
  | none => rfl
  | some n =>
    obtain ⟨v, -, number⟩ := Option.bind_eq_some_iff.mp read
    exact Json.fits_of_asInt64? number

theorem fits_raised (live : Json) (n : Nat) :
    fitsSigned 64 (min (versionOf live + n) maxInt64) = true := by
  have bounds := fitsSigned_iff.mp (fits_versionOf live)
  have some : 0 ≤ maxInt64 := by decide
  exact fitsSigned_iff.mpr (by omega)

def replacements (rounds : List Options) : Nat := rounds.countP (·.replace)

namespace Descriptor

/-- The fields of a manifest, and a version after them. -/
def versioned (d : Descriptor) (version : Int) : Json :=
  .obj (d.head ++ d.body.entries ++ [("status", .obj [("latestVersion", .int version)])])

variable {d : Descriptor}

/-- What a replacement sends is the manifest with the version that follows the live one. -/
theorem prepareReplace_manifest (deployment : d.kind = .deploymentConfig) (keeps : d.KeepsHead)
    (fresh : "status" ∉ d.body.keys) (live : Json) :
    (d.kind.prepareReplace d live).manifest = d.versioned (nextVersion live) := by
  have keeps' : (d.kind.prepareReplace d live).KeepsHead := keeps.prepareReplace d.kind live
  rw [manifest_eq keeps']
  obtain ⟨body, sent, entries⟩ := Kind.prepareReplace_eq fresh d.kind live
  rw [sent, versioned, List.append_assoc]
  rw [deployment] at entries
  exact congrArg (fun rest => Json.obj (d.head ++ rest)) entries

/-- The version that was written is the one that is read. -/
theorem versionOf_versioned (fresh : "status" ∉ d.body.keys) {version : Int}
    (fits : fitsSigned 64 version = true) : versionOf (d.versioned version) = version := by
  have earlier : Entries.get? "status" (d.head ++ d.body.entries) = none := by
    refine Entries.get?_eq_none_iff.mpr ?_
    rw [List.map_append, List.mem_append, not_or]
    exact ⟨by simp [head], fresh⟩
  have status : (d.versioned version).field? "status" =
      some (.obj [("latestVersion", .int version)]) := by
    rw [versioned, Json.field?, Entries.get?_append, earlier]
    rfl
  rw [versionOf, Json.at?, status]
  simp [Json.at?, Json.field?, Entries.get?, Json.asInt64?, fits]

/-- What is filed after passes over a live deployment. -/
def rolledOut (d : Descriptor) (rounds : List Options) (live : Json) : Json :=
  if replacements rounds = 0 then live
  else d.versioned (min (versionOf live + replacements rounds) maxInt64)

theorem versionOf_rolledOut (fresh : "status" ∉ d.body.keys) (rounds : List Options)
    (live : Json) :
    versionOf (d.rolledOut rounds live) = min (versionOf live + replacements rounds) maxInt64 := by
  rw [rolledOut]
  split
  · next none =>
    have bounds := fitsSigned_iff.mp (fits_versionOf live)
    omega
  · exact versionOf_versioned fresh (fits_raised live _)

/-- The passes after the first go on from what it has filed. -/
theorem rolledOut_cons (fresh : "status" ∉ d.body.keys) (options : Options)
    (rest : List Options) (live : Json) :
    d.rolledOut (options :: rest) live =
      d.rolledOut rest (if options.replace then d.versioned (nextVersion live) else live) := by
  cases replace : options.replace with
  | false =>
    have same : replacements (options :: rest) = replacements rest := by
      simp [replacements, replace]
    rw [rolledOut, same]
    rfl
  | true =>
    have more : replacements (options :: rest) = replacements rest + 1 := by
      simp [replacements, replace]
    have written : versionOf (d.versioned (nextVersion live)) = nextVersion live :=
      versionOf_versioned fresh (fits_raised live 1)
    rw [rolledOut, more, if_neg (Nat.succ_ne_zero _), if_pos rfl, rolledOut, written,
      nextVersion_eq]
    split
    · next none => rw [none]; rfl
    · congr 1
      omega

end Descriptor

/-! ## Passes on a cluster in memory -/

def passes (desired : Desired) : List Options → Attempt (List Outcome)
  | [] => pure []
  | options :: rest => do
    let outcome ← reconcile options desired
    let others ← passes desired rest
    return outcome :: others

/-- A pass that is carried out, and never deletes what is there. -/
def Options.InPlace (options : Options) : Prop :=
  options.dryRun = false ∧ options.recreate = false

instance (options : Options) : Decidable options.InPlace :=
  inferInstanceAs (Decidable (_ ∧ _))

namespace Memory

def afterPasses (m : Memory) (desired : Desired) (rounds : List Options) : Memory :=
  ((passes desired rounds).run.run client m).2

theorem run_passes {desired : Desired} (keeps : desired.KeepsHead) (rounds : List Options)
    (m : Memory) : ∃ outcomes, (passes desired rounds).run.run client m =
      (.ok outcomes, rounds.foldl (fun m options => m.settle options desired) m) := by
  induction rounds generalizing m with
  | nil => exact ⟨[], rfl⟩
  | cons options rest ih =>
    obtain ⟨others, ran⟩ := ih (m.settle options desired)
    refine ⟨m.outcome options desired :: others, ?_⟩
    rw [passes, Attempt.run_bind_ok (run_reconcile keeps options), Attempt.run_bind_ok ran]
    rfl

theorem afterPasses_eq {desired : Desired} (keeps : desired.KeepsHead) (rounds : List Options)
    (m : Memory) : m.afterPasses desired rounds =
      rounds.foldl (fun m options => m.settle options desired) m := by
  obtain ⟨outcomes, ran⟩ := run_passes keeps rounds m
  rw [afterPasses, ran]

variable {d : Descriptor}

/-- A pass over a live deployment puts the next version in its place, or leaves it. -/
theorem find?_settle (deployment : d.kind = .deploymentConfig) (keeps : d.KeepsHead)
    (fresh : "status" ∉ d.body.keys) {options : Options} (inPlace : options.InPlace)
    {m : Memory} {live : Json} (there : m.find? d.kind d.ns d.name = some live) :
    (m.settle options (.present d)).find? d.kind d.ns d.name =
      some (if options.replace then d.versioned (nextVersion live) else live) := by
  have head : (Desired.present d).KeepsHead := keeps
  have filed : (m.settle options (.present d)).find? d.kind d.ns d.name =
      (Desired.present d).settled options (m.find? d.kind d.ns d.name) :=
    (get?_settle m inPlace.1 head _).trans (if_pos rfl)
  rw [filed, there, Desired.settled, Desired.change, inPlace.2, if_neg Bool.false_ne_true]
  cases options.replace with
  | false => rfl
  | true => exact congrArg some (Descriptor.prepareReplace_manifest deployment keeps fresh live)

theorem find?_afterPasses (deployment : d.kind = .deploymentConfig) (keeps : d.KeepsHead)
    (fresh : "status" ∉ d.body.keys) {rounds : List Options}
    (inPlace : ∀ options ∈ rounds, options.InPlace) {m : Memory} {live : Json}
    (there : m.find? d.kind d.ns d.name = some live) :
    (m.afterPasses (.present d) rounds).find? d.kind d.ns d.name =
      some (d.rolledOut rounds live) := by
  have head : (Desired.present d).KeepsHead := keeps
  rw [afterPasses_eq head]
  induction rounds generalizing m live with
  | nil => exact there
  | cons options rest ih =>
    obtain ⟨first, others⟩ := List.forall_mem_cons.mp inPlace
    have next := find?_settle deployment keeps fresh first there
    rw [Descriptor.rolledOut_cons fresh]
    exact ih others next

end Memory

/-- Passes over a live deployment, `k` of which replace it, bring it to the manifest at a version
`k` past the one it was at, or at the greatest version. No pass lowers the version, and below the
greatest version each replacement raises it. -/
theorem passes_raise_version {d : Descriptor} (deployment : d.kind = .deploymentConfig)
    (keeps : d.KeepsHead) (fresh : "status" ∉ d.body.keys) {m : Memory} {live : Json}
    (there : m.find? d.kind d.ns d.name = some live) {rounds : List Options}
    (inPlace : ∀ options ∈ rounds, options.InPlace) :
    (∃ outcomes, (passes (.present d) rounds).run.run Memory.client m =
      (.ok outcomes, m.afterPasses (.present d) rounds)) ∧
    (0 < replacements rounds → ∃ fields, d.manifest = .obj fields ∧
      (m.afterPasses (.present d) rounds).find? d.kind d.ns d.name =
        some (.obj (fields ++ [("status", .obj [("latestVersion",
          .int (min (versionOf live + replacements rounds) maxInt64))])]))) ∧
    ∀ first options, first ++ [options] <+: rounds → ∃ v w,
      (m.afterPasses (.present d) first).find? d.kind d.ns d.name = some v ∧
      (m.afterPasses (.present d) (first ++ [options])).find? d.kind d.ns d.name = some w ∧
      versionOf v ≤ versionOf w ∧
      (options.replace = true → versionOf v < maxInt64 → versionOf v < versionOf w) := by
  refine ⟨?_, ?_, ?_⟩
  · have head : (Desired.present d).KeepsHead := keeps
    obtain ⟨outcomes, ran⟩ := Memory.run_passes head rounds m
    rw [← Memory.afterPasses_eq head] at ran
    exact ⟨outcomes, ran⟩
  · intro replaced
    refine ⟨_, Descriptor.manifest_eq keeps, ?_⟩
    rw [Memory.find?_afterPasses deployment keeps fresh inPlace there, Descriptor.rolledOut,
      if_neg (Nat.ne_of_gt replaced)]
    rfl
  · intro first options before
    have later : ∀ o ∈ first ++ [options], o.InPlace := fun o inside =>
      inPlace o (before.subset inside)
    have earlier : ∀ o ∈ first, o.InPlace := fun o inside =>
      later o (List.mem_append_left _ inside)
    refine ⟨_, _, Memory.find?_afterPasses deployment keeps fresh earlier there,
      Memory.find?_afterPasses deployment keeps fresh later there, ?_⟩
    rw [Descriptor.versionOf_rolledOut fresh, Descriptor.versionOf_rolledOut fresh]
    have count : replacements (first ++ [options]) =
        replacements first + if options.replace then 1 else 0 := by
      rw [replacements, List.countP_append, List.countP_singleton]
      rfl
    rw [count]
    refine ⟨by omega, ?_⟩
    intro replace below
    rw [if_pos replace]
    omega

namespace Batch

/-- The deployment, live one version before the greatest. -/
def lateWeb : Json := web.versioned (maxInt64 - 1)

def lateCluster : Memory := .ofContents ["shop"] [lateWeb]

def rounds : List Options := [⟨true, false, false⟩, ⟨false, false, false⟩, ⟨true, false, false⟩]

end Batch

theorem late_version_stays :
    Batch.web.kind = .deploymentConfig ∧ Batch.web.KeepsHead ∧
    "status" ∉ Batch.web.body.keys ∧
    Batch.lateCluster.find? .deploymentConfig "shop" "web" = some Batch.lateWeb ∧
    (∀ options ∈ Batch.rounds, options.InPlace) ∧ 0 < replacements Batch.rounds ∧
    ∃ fields, Batch.web.manifest = .obj fields ∧
      (Batch.lateCluster.afterPasses (.present Batch.web) Batch.rounds).find?
        .deploymentConfig "shop" "web" =
        some (.obj (fields ++ [("status", .obj [("latestVersion", .int maxInt64)])])) := by
  have keeps : Batch.web.KeepsHead := by decide
  have fresh : "status" ∉ Batch.web.body.keys := by decide
  have inPlace : ∀ options ∈ Batch.rounds, options.InPlace := by decide
  have replaced : 0 < replacements Batch.rounds := by decide
  have live : Batch.lateCluster.find? Batch.web.kind Batch.web.ns Batch.web.name =
      some Batch.lateWeb := rfl
  obtain ⟨-, final, -⟩ := passes_raise_version rfl keeps fresh live inPlace
  obtain ⟨fields, manifest, filed⟩ := final replaced
  exact ⟨rfl, keeps, fresh, live, inPlace, replaced, fields, manifest, filed⟩

end Converge
