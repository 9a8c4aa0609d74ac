import Converge.Proofs.ReportKeys
import Converge.Proofs.SameDocument

/-!
# What a request is for

The path of a request is made of segments between slashes, and no name has a slash. So the
segments can be read off a path, and with the method they tell the operation and its resource:
paths to namespaces are shorter than paths to resources, and paths to resources end with the
collection or with one name more.
-/

namespace Converge

inductive Verb where
  | get
  | create
  | replace
  | delete
  | namespaceExists
  | createNamespace
deriving DecidableEq

def Call.verb : Call → Verb
  | .get .. => .get
  | .create _ => .create
  | .replace _ => .replace
  | .delete .. => .delete
  | .namespaceExists _ => .namespaceExists
  | .createNamespace _ => .createNamespace

/-- Two calls that ask for the same, of whatever resources. -/
inductive Call.Akin : Call → Call → Prop
  | get (kind kind' : Kind) (ns ns' name name' : String) :
      Akin (.get kind ns name) (.get kind' ns' name')
  | create (d d' : Descriptor) : Akin (.create d) (.create d')
  | replace (d d' : Descriptor) : Akin (.replace d) (.replace d')
  | delete (kind kind' : Kind) (ns ns' name name' : String) :
      Akin (.delete kind ns name) (.delete kind' ns' name')
  | namespaceExists (ns ns' : String) : Akin (.namespaceExists ns) (.namespaceExists ns')
  | createNamespace (ns ns' : String) : Akin (.createNamespace ns) (.createNamespace ns')

theorem Call.akin {c c' : Call} (verbs : c.verb = c'.verb) : c.Akin c' := by
  cases c <;> cases c' <;> first | constructor | cases verbs

/-- A descriptor with names, whose body has values without a key given twice and with finite
numbers, as JSON has no others, and leaves the head of the manifest alone. -/
structure Descriptor.Plain (d : Descriptor) : Prop where
  placed : isName d.ns = true
  named : isName d.name = true
  keeps : d.KeepsHead
  finite : ∀ e ∈ d.body.entries, e.2.finite = true
  settled : ∀ e ∈ d.body.entries, e.2.normalize = e.2

/-- All that the call is about has a name, and so has the place of it. -/
def Call.Plain : Call → Prop
  | .get _ ns name | .delete _ ns name => isName ns = true ∧ isName name = true
  | .create d | .replace d => d.Plain
  | .namespaceExists ns | .createNamespace ns => isName ns = true

/-- The same operation on the same resource, with the same manifest up to the order of fields. -/
inductive Call.Same : Call → Call → Prop
  | get (kind : Kind) (ns name : String) : Same (.get kind ns name) (.get kind ns name)
  | create {d d' : Descriptor} (kind : d.kind = d'.kind) (ns : d.ns = d'.ns)
      (name : d.name = d'.name) (manifest : d.manifest.sorted = d'.manifest.sorted) :
      Same (.create d) (.create d')
  | replace {d d' : Descriptor} (kind : d.kind = d'.kind) (ns : d.ns = d'.ns)
      (name : d.name = d'.name) (manifest : d.manifest.sorted = d'.manifest.sorted) :
      Same (.replace d) (.replace d')
  | delete (kind : Kind) (ns name : String) : Same (.delete kind ns name) (.delete kind ns name)
  | namespaceExists (ns : String) : Same (.namespaceExists ns) (.namespaceExists ns)
  | createNamespace (ns : String) : Same (.createNamespace ns) (.createNamespace ns)

/-! ## Fields in any order -/

namespace Json

/-- A field is found under its key whatever the order of fields is. -/
theorem field?_sorted {fields : List (String × Json)} (distinct : (fields.map Prod.fst).Nodup)
    (key : String) :
    (Json.obj fields).sorted.field? key = ((Json.obj fields).field? key).map sorted := by
  have keys : ((sortedFields fields).map Prod.fst).Nodup := by
    rw [sortedFields_eq_map, List.map_map]
    exact distinct
  rw [sorted, field?, field?, ← Entries.get?_of_perm keys (byKey_perm _).symm,
    sortedFields_eq_map, Entries.get?_map]

end Json

namespace Descriptor

variable {d d' : Descriptor}

theorem sorted_metadata_name (d : Descriptor) :
    d.metadata.sorted.field? "name" = some (.str d.name) := by
  have distinct := (Json.normalize_obj_iff.mp (Json.builds_settled.metadata d)).1
  rw [metadata, Json.field?_sorted distinct]
  rfl

/-- Manifests that are the same up to the order of fields are of one name. -/
theorem name_of_sorted (keeps : d.KeepsHead) (keeps' : d'.KeepsHead)
    (same : d.manifest.sorted = d'.manifest.sorted) : d.name = d'.name := by
  have found {d : Descriptor} (keeps : d.KeepsHead) :
      d.manifest.sorted.field? "metadata" = some d.metadata.sorted := by
    have there := manifest_metadata keeps
    rw [manifest_eq keeps] at there ⊢
    rw [Json.field?_sorted (manifest_distinct keeps), there]
    rfl
  have metadata := found keeps
  rw [same, found keeps', Option.some.injEq] at metadata
  have name := sorted_metadata_name d
  rw [← metadata, sorted_metadata_name d', Option.some.injEq, Json.str.injEq] at name
  exact name.symm

theorem written_place (d : Descriptor) :
    d.written.at? ["metadata", "namespace"] = some (.str d.ns) ∧
      d.written.at? ["metadata", "name"] = some (.str d.name) := by
  have metadata : d.written.field? "metadata" = some d.writtenMetadata := rfl
  rw [Json.at?, Json.at?, metadata, writtenMetadata, sortedTextsField, sortedTextsField]
  cases d.labels.isEmpty <;> cases d.annotations.isEmpty <;> exact ⟨rfl, rfl⟩

end Descriptor

/-! ## Texts with slashes -/

namespace Text

theorem joinWith_cons (separator first : String) {rest : List String} (more : rest ≠ []) :
    joinWith separator (first :: rest) = first ++ separator ++ joinWith separator rest := by
  cases rest with
  | nil => exact absurd rfl more
  | cons second rest => rfl

theorem joinWith_concat (separator last : String) {l : List String} (some : l ≠ []) :
    joinWith separator (l ++ [last]) = joinWith separator l ++ separator ++ last := by
  induction l with
  | nil => exact absurd rfl some
  | cons first rest ih =>
    cases rest with
    | nil => rfl
    | cons second rest =>
      rw [List.cons_append, joinWith_cons separator first (by simp), ih (by simp),
        joinWith_cons separator first (by simp)]
      simp only [String.append_assoc]

/-- The parts are found again if none of them has a slash. -/
theorem join_slash_injective {l k : List String} (plain : ∀ s ∈ l, '/' ∉ s.toList)
    (plain' : ∀ s ∈ k, '/' ∉ s.toList) (some : l ≠ []) (some' : k ≠ [])
    (same : joinWith "/" l = joinWith "/" k) : l = k := by
  have cut (first : String) {rest : List String} (more : rest ≠ []) :
      (joinWith "/" (first :: rest)).toList =
        first.toList ++ '/' :: (joinWith "/" rest).toList := by
    rw [joinWith_cons "/" first more]
    simp
  induction l generalizing k with
  | nil => exact absurd rfl some
  | cons first rest ih =>
    cases k with
    | nil => exact absurd rfl some'
    | cons first' rest' =>
      obtain ⟨clear, others⟩ := List.forall_mem_cons.mp plain
      obtain ⟨clear', others'⟩ := List.forall_mem_cons.mp plain'
      have letters := congrArg String.toList same
      by_cases more : rest = []
      · subst more
        by_cases more' : rest' = []
        · subst more'
          exact congrArg (fun s => [s]) same
        · rw [cut first' more'] at letters
          exact absurd (letters ▸ by simp) clear
      · by_cases more' : rest' = []
        · subst more'
          rw [cut first more] at letters
          exact absurd (letters ▸ by simp) clear'
        · rw [cut first more, cut first' more'] at letters
          obtain ⟨head, tail⟩ := Report.parts_of_first clear clear' letters
          rw [String.toList_injective head,
            ih others others' more more' (String.toList_injective tail)]

end Text

/-! ## Segments -/

theorem Kind.plural_injective {a b : Kind} (h : a.plural = b.plural) : a = b := by
  cases a <;> cases b <;> first | rfl | exact absurd h (by decide)

namespace Http

def root (kind : Kind) : List String :=
  (if kind.group = "" then ["", "api"] else ["", "apis", kind.group]) ++
    [kind.version, "namespaces"]

def place (kind : Kind) (ns : String) : List String := root kind ++ [ns, kind.plural]

def segments : Call → List String
  | .get kind ns name | .delete kind ns name => place kind ns ++ [name]
  | .create d => place d.kind d.ns
  | .replace d => place d.kind d.ns ++ [d.name]
  | .namespaceExists ns => ["", "api", "v1", "namespaces", ns]
  | .createNamespace _ => ["", "api", "v1", "namespaces"]

def method : Call → Method
  | .get .. | .namespaceExists _ => .get
  | .create _ | .createNamespace _ => .post
  | .replace _ => .put
  | .delete .. => .delete

def sent : Call → Option Json
  | .get .. | .namespaceExists _ => none
  | .create d | .replace d => some d.written
  | .delete .. => some (.obj [])
  | .createNamespace ns => some (Object.newNamespace ns)

theorem collection_eq (kind : Kind) (ns : String) :
    collection kind ns = Text.joinWith "/" (place kind ns) := by
  cases kind <;> simp [collection, place, root, Text.joinWith, Kind.group, Kind.apiVersion,
    Kind.version, Kind.plural, String.append_assoc] <;> rfl

theorem named_eq (kind : Kind) (ns name : String) :
    collection kind ns ++ "/" ++ name = Text.joinWith "/" (place kind ns ++ [name]) := by
  rw [Text.joinWith_concat "/" name (by simp [place]), collection_eq]

def isSegment (s : String) : Bool := s.toList.all isNameChar

theorem isSegment_of_isName {s : String} (good : isName s = true) : isSegment s = true :=
  List.all_eq_true.mpr fun _ inside => isNameChar_of_mem good inside

theorem place_segments (kind : Kind) {ns : String} (good : isName ns = true) :
    ∀ s ∈ place kind ns, isSegment s = true := by
  have fixed : ∀ s ∈ kind.plural :: root kind, isSegment s = true := by
    cases kind <;> decide +kernel
  obtain ⟨plural, front⟩ := List.forall_mem_cons.mp fixed
  refine List.forall_mem_append.mpr ⟨front, ?_⟩
  simp [plural, isSegment_of_isName good]

theorem segments_plain {c : Call} (plain : c.Plain) : ∀ s ∈ segments c, isSegment s = true := by
  have named (kind : Kind) {ns name : String} (placed : isName ns = true)
      (named : isName name = true) : ∀ s ∈ place kind ns ++ [name], isSegment s = true :=
    List.forall_mem_append.mpr ⟨place_segments kind placed,
      List.forall_mem_singleton.mpr (isSegment_of_isName named)⟩
  have fixed : ∀ s ∈ ["", "api", "v1", "namespaces"], isSegment s = true := by decide +kernel
  cases c with
  | get kind ns name => exact named kind plain.1 plain.2
  | create d => exact place_segments d.kind plain.placed
  | replace d => exact named d.kind plain.placed plain.named
  | delete kind ns name => exact named kind plain.1 plain.2
  | namespaceExists ns =>
    exact List.forall_mem_append.mpr ⟨fixed,
      List.forall_mem_singleton.mpr (isSegment_of_isName plain)⟩
  | createNamespace ns => exact fixed

theorem isPathChar_join {l : List String} (plain : ∀ s ∈ l, isSegment s = true) :
    (Text.joinWith "/" l).toList.all isPathChar = true := by
  have widened {s : String} (segment : isSegment s = true) : s.toList.all isPathChar = true := by
    rw [List.all_eq_true]
    intro c inside
    rw [isPathChar, List.all_eq_true.mp segment c inside, Bool.true_or]
  induction l with
  | nil => rfl
  | cons first rest ih =>
    obtain ⟨segment, others⟩ := List.forall_mem_cons.mp plain
    by_cases more : rest = []
    · rw [more]
      exact widened segment
    · rw [Text.joinWith_cons "/" first more]
      simp [widened segment, ih others, isPathChar]

/-- The request of a call, part by part. -/
theorem request_eq {c : Call} (plain : c.Plain) :
    request c = .ok ⟨method c, Text.joinWith "/" (segments c), "", sent c⟩ := by
  have built : build (method c) (Text.joinWith "/" (segments c)) (sent c) =
      .ok ⟨method c, Text.joinWith "/" (segments c), "", sent c⟩ := by
    rw [build, splitTarget_path (isPathChar_join (segments_plain plain))]
  have named {name : String} (good : isName name = true) (method : Method) (collection : String)
      (body : Option Json) :
      buildNamed method collection name body = build method (collection ++ "/" ++ name) body := by
    have some : ¬name.isEmpty = true := by
      rw [String.isEmpty_iff]
      rintro rfl
      revert good
      decide +kernel
    rw [buildNamed, if_neg some]
  rw [← built]
  cases c with
  | get kind ns name => rw [request, named plain.2, named_eq]; rfl
  | create d =>
    rw [request, Descriptor.document_written plain.keeps plain.settled, collection_eq]
    rfl
  | replace d =>
    rw [request, Descriptor.document_written plain.keeps plain.settled]
    exact (named plain.named _ _ _).trans (by rw [named_eq]; rfl)
  | delete kind ns name => rw [request, named plain.2, named_eq]; rfl
  | namespaceExists ns => rw [request, named plain]; rfl
  | createNamespace ns => rfl

/-! ## What segments tell -/

/-- The operation of a request, by its method and the number of segments of its path. -/
def verbOf : Method → Nat → Verb
  | .get, length => if length < 6 then .namespaceExists else .get
  | .post, length => if length < 6 then .createNamespace else .create
  | .put, _ => .replace
  | .delete, _ => .delete

theorem verbOf_segments (c : Call) : verbOf (method c) (segments c).length = c.verb := by
  have long (kind : Kind) (ns : String) : 6 ≤ (place kind ns).length := by
    cases kind <;> simp [place, root, Kind.group]
  cases c with
  | get kind ns name =>
    have := long kind ns
    simp only [verbOf, method, segments, Call.verb, List.length_append, ite_eq_right_iff]
    omega
  | create d =>
    have := long d.kind d.ns
    simp only [verbOf, method, segments, Call.verb, ite_eq_right_iff]
    omega
  | _ => rfl

theorem place_injective {kind kind' : Kind} {ns ns' : String}
    (same : place kind ns = place kind' ns') : kind = kind' ∧ ns = ns' := by
  have last := (List.append_inj' same rfl).2
  simp only [List.cons.injEq, and_true] at last
  exact ⟨Kind.plural_injective last.2, last.1⟩

theorem named_injective {kind kind' : Kind} {ns ns' name name' : String}
    (same : place kind ns ++ [name] = place kind' ns' ++ [name']) :
    kind = kind' ∧ ns = ns' ∧ name = name' := by
  obtain ⟨places, names⟩ := List.append_inj' same rfl
  obtain ⟨rfl, rfl⟩ := place_injective places
  exact ⟨rfl, rfl, (List.cons.inj names).1⟩

theorem newNamespace_sorted (ns : String) :
    (Object.newNamespace ns).sorted.at? ["metadata", "name"] = some (.str ns) := by
  have metadata : (Object.newNamespace ns).sorted.field? "metadata" =
      some (Json.obj [("name", .str ns)]).sorted := by
    rw [Object.newNamespace, Json.field?_sorted (by simp)]
    rfl
  have name : (Json.obj [("name", .str ns)]).sorted.field? "name" = some (.str ns) := by
    rw [Json.field?_sorted (by simp)]
    rfl
  rw [Json.at?, metadata, Option.bind_some, Json.at?, name]
  rfl

/-- Requests with one method, one path and one body, up to the order of fields, are for the same
operation on the same resource. -/
theorem same_of_request {c c' : Call} (plain : c.Plain) (plain' : c'.Plain)
    (methods : method c = method c')
    (paths : Text.joinWith "/" (segments c) = Text.joinWith "/" (segments c'))
    (bodies : (sent c).map Json.sorted = (sent c').map Json.sorted) : c.Same c' := by
  have clear {c : Call} (plain : c.Plain) : ∀ s ∈ segments c, '/' ∉ s.toList := by
    intro s inside slash
    have char := List.all_eq_true.mp (segments_plain plain s inside) '/' slash
    exact absurd char (by decide)
  have some (c : Call) : segments c ≠ [] := by cases c <;> simp [segments, place]
  have same := Text.join_slash_injective (clear plain) (clear plain') (some c) (some c') paths
  have verbs := verbOf_segments c
  rw [methods, same, verbOf_segments c'] at verbs
  have manifests {d d' : Descriptor} (plain : d.Plain) (plain' : d'.Plain)
      (bodies : (Option.some d.written).map Json.sorted =
        (Option.some d'.written).map Json.sorted) :
      d.name = d'.name ∧ d.manifest.sorted = d'.manifest.sorted := by
    have sorted := Option.some.inj bodies
    rw [Descriptor.written_sorted plain.keeps, Descriptor.written_sorted plain'.keeps] at sorted
    exact ⟨Descriptor.name_of_sorted plain.keeps plain'.keeps sorted, sorted⟩
  cases Call.akin verbs.symm with
  | get =>
    obtain ⟨rfl, rfl, rfl⟩ := named_injective same
    exact .get _ _ _
  | create =>
    obtain ⟨kinds, spaces⟩ := place_injective same
    obtain ⟨names, sorted⟩ := manifests plain plain' bodies
    exact .create kinds spaces names sorted
  | replace =>
    obtain ⟨kinds, spaces, names⟩ := named_injective same
    exact .replace kinds spaces names (manifests plain plain' bodies).2
  | delete =>
    obtain ⟨rfl, rfl, rfl⟩ := named_injective same
    exact .delete _ _ _
  | namespaceExists ns ns' =>
    have names : ns = ns' := by simpa [segments] using same
    rw [names]
    exact .namespaceExists ns'
  | createNamespace ns ns' =>
    have names := newNamespace_sorted ns
    rw [Option.some.inj bodies, newNamespace_sorted ns', Option.some.injEq, Json.str.injEq]
      at names
    rw [names]
    exact .createNamespace ns

end Http

end Converge
