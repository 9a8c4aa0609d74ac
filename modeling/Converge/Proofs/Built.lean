import Converge.Proofs.Build
import Converge.Proofs.Nesting

/-!
# What a descriptor is built of

A descriptor that is built has the labels and annotations of the resource, and a body of one or
two fields. Its values are made of texts and integers, apart from the fields of containers, the
volumes and the expressions, which are passed on as they are. So a property that nests holds of a
body if it holds of integers and of what is passed on.
-/

namespace Converge

section Parts

variable {P : Json → Prop} (builds : Json.Builds P)

include builds

theorem Container.toJson_builds {c : Container} (passed : ∀ e ∈ c.extra.entries, P e.2) :
    P c.toJson := by
  have named : ∀ e ∈ [("name", Json.str c.name), ("image", .str c.image)], P e.2 := by
    simp [builds.str]
  have base := Table.forall_insertAll (Table.forall_ofList named) passed
  have env : P (.arr (envList c.env)) := by
    refine builds.arr _ fun v inside => ?_
    obtain ⟨e, _, rfl⟩ := List.mem_map.mp inside
    exact builds.obj _ (by simp) (by simp [builds.str])
  have ports : P (.arr (containerPorts c.ports)) := by
    refine builds.arr _ fun v inside => ?_
    obtain ⟨n, _, rfl⟩ := List.mem_map.mp inside
    exact builds.obj _ (by simp) (by simp [builds.int])
  rw [Container.toJson]
  refine builds.ofTable ?_
  split
  · split
    · exact base
    · exact Table.forall_insert base env "env"
  · refine Table.forall_insert ?_ ports "ports"
    split
    · exact base
    · exact Table.forall_insert base env "env"

theorem Deployment.spec_builds {d : Deployment} {containers : List Json}
    (each : ∀ v ∈ containers, P v) (volumes : ∀ v ∈ d.volumes.getD [], P v) :
    P (d.spec containers) := by
  have labels : P (.obj (Descriptor.textsField "labels" d.labels)) := by
    refine builds.obj _ ?_ (builds.textsField "labels" d.labels)
    rw [Descriptor.textsField]
    split <;> simp
  have containers := builds.arr containers each
  have strategy : P (.obj [("type", .str d.strategy.name)]) :=
    builds.obj _ (by simp) (by simp [builds.str])
  rw [Deployment.spec]
  refine builds.obj _ (by simp) ?_
  refine List.forall_mem_cons.mpr ⟨?_, by simp [builds.int, strategy]⟩
  refine builds.obj _ (by simp) ?_
  refine List.forall_mem_cons.mpr ⟨labels, List.forall_mem_singleton.mpr ?_⟩
  cases given : d.volumes with
  | none => exact builds.obj _ (by simp) (by simp [containers])
  | some l =>
    rw [given] at volumes
    have volumes := builds.arr l volumes
    exact builds.obj _ (by simp) (by simp [containers, volumes])

theorem VolumeClaim.selector_builds {v : VolumeClaim} (passed : ∀ w ∈ v.matchExpressions, P w) :
    P (.obj v.selector) := by
  have labels := builds.textsField "matchLabels" v.matchLabels
  have expressions := builds.arr _ passed
  refine builds.obj _ ?_ ?_
  · rw [VolumeClaim.selector, Descriptor.textsField]
    split <;> split <;> simp
  · rw [VolumeClaim.selector]
    refine List.forall_mem_append.mpr ⟨labels, ?_⟩
    split <;> simp [expressions]

theorem VolumeClaim.spec_builds {v : VolumeClaim} (passed : ∀ w ∈ v.matchExpressions, P w) :
    P v.spec := by
  have selector := VolumeClaim.selector_builds builds passed
  have modes : P (.arr (v.accessModes.map .str)) := by
    refine builds.arr _ fun w inside => ?_
    obtain ⟨s, _, rfl⟩ := List.mem_map.mp inside
    exact builds.str s
  have requests : P (.obj [("storage", .str v.storage)]) :=
    builds.obj _ (by simp) (by simp [builds.str])
  have resources : P (.obj [("requests", .obj [("storage", .str v.storage)])]) :=
    builds.obj _ (by simp) (by simp [requests])
  rw [VolumeClaim.spec]
  refine builds.obj _ ?_ ?_
  · split <;> split <;> cases v.volumeName <;> simp
  · refine List.forall_mem_append.mpr ⟨List.forall_mem_append.mpr
      ⟨List.forall_mem_append.mpr ⟨?_, List.forall_mem_singleton.mpr resources⟩, ?_⟩, ?_⟩
    · split <;> simp [modes]
    · split <;> simp [selector]
    · cases v.volumeName <;> simp [builds.str]

theorem PortRef.toJson_builds (p : PortRef) : P p.toJson := by
  cases p with
  | number n => exact builds.int n
  | name s => exact builds.str s

theorem Route.spec_builds (r : Route) (port : PortRef) : P (r.spec port) := by
  have target : P (.obj [("kind", .str "Service"), ("name", .str r.serviceName)]) :=
    builds.obj _ (by simp) (by simp [builds.str])
  have port : P (.obj [("targetPort", port.toJson)]) :=
    builds.obj _ (by simp) (by simp [PortRef.toJson_builds builds])
  rw [Route.spec]
  cases r.host with
  | none => exact builds.obj _ (by simp) (by simp [target, port])
  | some host =>
    cases empty : host.isEmpty with
    | true => exact builds.obj _ (by simp [empty]) (by simp [empty, target, port])
    | false => exact builds.obj _ (by simp [empty]) (by simp [empty, builds.str, target, port])

theorem ServicePort.toJson_builds (p : ServicePort) (name : String) : P (p.toJson name) := by
  rw [ServicePort.toJson]
  cases p.targetPort <;> cases p.protocol <;> cases p.nodePort <;>
    exact builds.obj _ (by simp)
      (by simp [builds.str, builds.int, PortRef.toJson_builds builds])

theorem ServicePort.nameFrom_builds (ports : List ServicePort) (count : Nat) :
    ∀ v ∈ ServicePort.nameFrom count ports, P v := by
  induction ports generalizing count with
  | nil => exact fun _ inside => nomatch inside
  | cons p rest ih =>
    rw [ServicePort.nameFrom]
    split <;> exact List.forall_mem_cons.mpr ⟨ServicePort.toJson_builds builds p _, ih _⟩

theorem Service.spec_builds (s : Service) : P s.spec := by
  have selector := builds.ofTexts s.selector
  have ports := builds.arr _ (ServicePort.nameFrom_builds builds s.ports 0)
  rw [Service.spec]
  split <;> exact builds.obj _ (by simp)
    (by simp [builds.str, selector, ServicePort.nameAll, ports])

theorem Secret.data_builds (s : Secret) : P (Json.ofTable (s.data.mapValues Secret.encoded)) := by
  refine builds.ofTable fun e inside => ?_
  obtain ⟨_, _, rfl⟩ := List.mem_map.mp inside
  exact builds.str _

end Parts

namespace Config

variable {c : Config} {ns : String} {d : Descriptor}

/-- The values that go into the body as they are. -/
def passedOn : Config → List Json
  | .deployment d =>
    d.containers.flatMap (fun c => c.extra.entries.map Prod.snd) ++ d.volumes.getD []
  | .volumeClaim v => v.matchExpressions
  | _ => []

def bodyKeys : List String := ["spec", "type", "data"]

theorem body_keys (c : Config) : ∀ key ∈ c.body.map Prod.fst, key ∈ bodyKeys := by
  cases c with
  | route r => cases target : r.targetPort? <;> simp [body, target, bodyKeys]
  | _ => simp [body, bodyKeys]

theorem body_distinct (c : Config) : (c.body.map Prod.fst).Nodup := by
  cases c with
  | route r => cases target : r.targetPort? <;> simp [body, target]
  | _ => simp [body]

theorem build_body (built : c.build ns = .ok d) : d.body.entries = c.body := by
  rw [(build_eq built).2]
  exact Entries.putAll_nil c.body_distinct

/-- What holds of texts, integers and all that is passed on holds of the body. -/
theorem body_builds {P : Json → Prop} (builds : Json.Builds P) (passed : ∀ v ∈ c.passedOn, P v) :
    ∀ e ∈ c.body, P e.2 := by
  cases c with
  | deployment c =>
    refine List.forall_mem_singleton.mpr (Deployment.spec_builds builds (fun v inside => ?_) ?_)
    · obtain ⟨container, listed, rfl⟩ := List.mem_map.mp inside
      refine Container.toJson_builds builds fun e extra => passed e.2 (List.mem_append_left _ ?_)
      exact List.mem_flatMap.mpr ⟨container, listed, List.mem_map.mpr ⟨e, extra, rfl⟩⟩
    · exact fun v inside => passed v (List.mem_append_right _ inside)
  | volumeClaim v => exact List.forall_mem_singleton.mpr (VolumeClaim.spec_builds builds passed)
  | route r =>
    cases target : r.targetPort? with
    | none => simp [body, target]
    | some port => simpa [body, target] using Route.spec_builds builds r port
  | service s => exact List.forall_mem_singleton.mpr (Service.spec_builds builds s)
  | secret s =>
    exact List.forall_mem_cons.mpr
      ⟨builds.str s.type, List.forall_mem_singleton.mpr (Secret.data_builds builds s)⟩

end Config

/-- What a replacement adds to the body. -/
def Kind.rollout (kind : Kind) (live : Json) : List (String × Json) :=
  match kind with
  | .deploymentConfig => [("status", .obj [("latestVersion", .int (nextVersion live))])]
  | _ => []

/-- A replacement differs from what is built by what it adds at the end of the body. -/
theorem Kind.prepareReplace_eq {d : Descriptor} (fresh : "status" ∉ d.body.keys) (kind : Kind)
    (live : Json) : ∃ body, kind.prepareReplace d live = { d with body := body } ∧
      body.entries = d.body.entries ++ kind.rollout live := by
  cases kind with
  | deploymentConfig => exact ⟨_, rfl, Entries.put_of_not_mem fresh⟩
  | _ => exact ⟨d.body, rfl, (List.append_nil _).symm⟩

/-- The descriptor is sent for the resource: it is what is built, or replaces a live object with
that. -/
def Config.IsSent (c : Config) (ns : String) (d : Descriptor) : Prop :=
  ∃ built, c.build ns = .ok built ∧
    (d = built ∨ ∃ live, d = built.kind.prepareReplace built live)

/-- What is sent for a resource comes from it and the namespace, apart from what is added at the
end of the body. -/
structure Config.Sends (c : Config) (ns : String) (added : List (String × Json))
    (d : Descriptor) : Prop where
  kind : d.kind = c.kind
  name : d.name = c.name
  ns : d.ns = ns
  labels : d.labels = c.labels
  annotations : d.annotations = c.annotations
  body : d.body.entries = c.body ++ added
  added : added = [] ∨ ∃ live, added = c.kind.rollout live

theorem Kind.rollout_builds {P : Json → Prop} (builds : Json.Builds P) (kind : Kind) (live : Json) :
    ∀ e ∈ kind.rollout live, P e.2 := by
  cases kind with
  | deploymentConfig =>
    refine List.forall_mem_singleton.mpr (builds.obj _ (by simp) ?_)
    exact List.forall_mem_singleton.mpr (builds.int _)
  | _ => exact fun _ inside => nomatch inside

theorem Kind.rollout_keys (kind : Kind) (live : Json) :
    ∀ key ∈ (kind.rollout live).map Prod.fst, key = "status" := by
  cases kind <;> simp [Kind.rollout]

namespace Config

variable {c : Config} {ns : String} {d : Descriptor}

theorem status_fresh (built : c.build ns = .ok d) : "status" ∉ d.body.keys := by
  intro inside
  rw [Table.keys, build_body built] at inside
  exact absurd (c.body_keys _ inside) (by decide)

theorem sends_build (built : c.build ns = .ok d) : c.Sends ns [] d := by
  have body := build_body built
  rw [(build_eq built).2] at body ⊢
  exact ⟨rfl, rfl, rfl, rfl, rfl, body.trans (List.append_nil _).symm, Or.inl rfl⟩

theorem sends_prepareReplace (built : c.build ns = .ok d) (live : Json) :
    c.Sends ns (c.kind.rollout live) (d.kind.prepareReplace d live) := by
  have parts := sends_build built
  obtain ⟨body, same, entries⟩ := Kind.prepareReplace_eq (status_fresh built) d.kind live
  rw [same]
  rw [parts.kind, parts.body, List.append_nil] at entries
  exact ⟨parts.kind, parts.name, parts.ns, parts.labels, parts.annotations, entries,
    Or.inr ⟨live, rfl⟩⟩

theorem IsSent.sends (sent : c.IsSent ns d) : ∃ added, c.Sends ns added d := by
  obtain ⟨d, built, rfl | ⟨live, rfl⟩⟩ := sent
  · exact ⟨[], sends_build built⟩
  · exact ⟨_, sends_prepareReplace built live⟩

namespace Sends

variable {added : List (String × Json)} (sends : c.Sends ns added d)

include sends

/-- Nothing that is sent takes the place of version, kind or metadata. -/
theorem keepsHead : d.KeepsHead := by
  have apart : ∀ key ∈ Descriptor.headFields, key ∉ bodyKeys := by decide
  intro key head inside
  rw [Table.keys, sends.body, List.map_append, List.mem_append] at inside
  rcases inside with inside | inside
  · exact apart key head (c.body_keys key inside)
  · rcases sends.added with rfl | ⟨live, rfl⟩
    · cases inside
    · rw [Kind.rollout_keys _ live key inside] at head
      exact absurd head (by decide)

/-- What holds of texts, integers and all that is passed on holds of everything in the body. -/
theorem body_builds {P : Json → Prop} (builds : Json.Builds P) (passed : ∀ v ∈ c.passedOn, P v) :
    ∀ e ∈ d.body.entries, P e.2 := by
  rw [sends.body]
  refine List.forall_mem_append.mpr ⟨Config.body_builds builds passed, ?_⟩
  rcases sends.added with rfl | ⟨live, rfl⟩
  · exact fun _ inside => nomatch inside
  · exact Kind.rollout_builds builds c.kind live

end Sends

end Config

end Converge
