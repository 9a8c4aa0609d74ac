import Converge.Proofs.Metadata
import Converge.Proofs.Twins

/-!
# Requests that can be sent

A call can be sent as a request if its target is one that a request may have and its
manifest can be shown. So can all calls for a resource if its name and its namespace are
names and no field of its body takes the place of the metadata.
-/

namespace Converge

namespace Text.Utf8

theorem byteArray_loop_eq (bytes : ByteArray) (i : Nat) (done : List UInt8) :
    ByteArray.toList.loop bytes i done = done.reverse ++ bytes.data.toList.drop i := by
  fun_induction ByteArray.toList.loop bytes i done with
  | case1 i done inside ih =>
    have bound : i < bytes.data.toList.length := by simpa using inside
    have octet : bytes.get! i = bytes.data.toList[i] := by
      rw [ByteArray.get!, Array.getElem_toList]
      exact getElem!_pos bytes.data i (by simpa using bound)
    rw [ih, List.drop_eq_getElem_cons bound, octet, List.reverse_cons, List.append_assoc]
    rfl
  | case2 i done outside =>
    have bound : bytes.data.toList.length ≤ i := by simpa using outside
    rw [List.drop_eq_nil_of_le bound, List.append_nil]

/-- The octets of a text are those of its characters. -/
theorem encode_eq (s : String) : encode s = s.toList.flatMap String.utf8EncodeChar := by
  have octets : s.toUTF8 = (s.toList.flatMap String.utf8EncodeChar).toByteArray :=
    String.utf8Encode_toList.symm
  rw [encode, octets, ByteArray.toList, byteArray_loop_eq, List.data_toByteArray]
  rfl

end Text.Utf8

namespace Http

def isPathChar (c : Char) : Bool := isNameChar c || c = '/'

theorem code_of_isLower {c : Char} (lower : c.isLower = true) :
    0x61 ≤ c.val.toNat ∧ c.val.toNat ≤ 0x7a := by
  have bounds := Bool.and_eq_true_iff.mp (show (_ && _) = true from lower)
  exact ⟨UInt32.le_iff_toNat_le.mp (of_decide_eq_true bounds.1),
    UInt32.le_iff_toNat_le.mp (of_decide_eq_true bounds.2)⟩

theorem code_of_isDigit {c : Char} (digit : c.isDigit = true) :
    0x30 ≤ c.val.toNat ∧ c.val.toNat ≤ 0x39 := by
  have bounds := Bool.and_eq_true_iff.mp (show (_ && _) = true from digit)
  exact ⟨UInt32.le_iff_toNat_le.mp (of_decide_eq_true bounds.1),
    UInt32.le_iff_toNat_le.mp (of_decide_eq_true bounds.2)⟩

theorem code_of_isPathChar {c : Char} (plain : isPathChar c = true) :
    0x2d ≤ c.val.toNat ∧ c.val.toNat ≤ 0x39 ∨ 0x61 ≤ c.val.toNat ∧ c.val.toNat ≤ 0x7a := by
  simp only [isPathChar, isNameChar, isNameEnd, Bool.or_eq_true, decide_eq_true_eq] at plain
  rcases plain with (((lower | digit) | rfl) | rfl) | rfl
  · exact Or.inr (code_of_isLower lower)
  · have bounds := code_of_isDigit digit
    exact Or.inl ⟨by omega, bounds.2⟩
  · exact Or.inl (by decide)
  · exact Or.inl (by decide)
  · exact Or.inl (by decide)

theorem isPathOctet_of_isPathChar {c : Char} (plain : isPathChar c = true) :
    ∀ b ∈ String.utf8EncodeChar c, isPathOctet b = true := by
  have code := code_of_isPathChar plain
  have short : c.val.toNat ≤ 127 := by omega
  have octet : (UInt8.ofNat c.val.toNat).toNat = c.val.toNat := by
    rw [UInt8.toNat_ofNat']
    exact Nat.mod_eq_of_lt (by omega)
  intro b inside
  simp only [String.utf8EncodeChar, if_pos short, List.mem_singleton] at inside
  subst inside
  simp only [isPathOctet, octet, Bool.or_eq_true, Bool.and_eq_true, decide_eq_true_eq]
  omega

/-- A target made of such characters is a path. -/
theorem splitTarget_path {path : String} (plain : path.toList.all isPathChar = true) :
    splitTarget (path ++ "?") = some (path, "") := by
  rw [List.all_eq_true] at plain
  have other {mark : Char} (unfit : isPathChar mark = false) : ∀ c ∈ path.toList, c ≠ mark := by
    rintro c inside rfl
    rw [plain c inside] at unfit
    cases unfit
  have noFragment : (path.toList ++ ['?']).takeWhile (· ≠ '#') = path.toList ++ ['?'] := by
    rw [List.takeWhile_append_of_pos (by simpa using other (by decide))]
    rfl
  have before : (path.toList ++ ['?']).takeWhile (· ≠ '?') = path.toList := by
    rw [List.takeWhile_append_of_pos (by simpa using other (by decide))]
    exact List.append_nil _
  have behind : (path.toList ++ ['?']).dropWhile (· ≠ '?') = ['?'] := by
    rw [List.dropWhile_append_of_pos (by simpa using other (by decide))]
    rfl
  have octets : (Text.Utf8.encode path).all isPathOctet = true := by
    rw [List.all_eq_true, Text.Utf8.encode_eq]
    intro b inside
    obtain ⟨c, listed, inside⟩ := List.mem_flatMap.mp inside
    exact isPathOctet_of_isPathChar (plain c listed) b inside
  have nothing : (Text.Utf8.encode (String.ofList (['?'].drop 1))).all isQueryOctet = true := by
    decide +kernel
  have whole : (path ++ "?").toList = path.toList ++ ['?'] := String.toList_append
  simp only [splitTarget, whole, noFragment, before, behind, String.ofList_toList, octets,
    nothing, Bool.and_self, if_true]
  rfl

theorem build_path {path : String} (plain : path.toList.all isPathChar = true) (method : Method)
    (body : Option Json) : ∃ r, build method path body = .ok r := by
  rw [build, splitTarget_path plain]
  exact ⟨_, rfl⟩

def Sendable (c : Call) : Prop := ∃ r, request c = .ok r

section Named

variable {ns name : String}

theorem isPathChar_of_isName (good : isName name = true) : name.toList.all isPathChar = true := by
  rw [isName, Bool.and_eq_true, Bool.and_eq_true] at good
  rw [List.all_eq_true] at good ⊢
  intro c inside
  rw [isPathChar, good.1.2 c inside, Bool.true_or]

theorem collection_path (kind : Kind) (good : isName ns = true) :
    (collection kind ns).toList.all isPathChar = true := by
  have named := isPathChar_of_isName good
  have front : (((if kind.group = "" then "/api/" else "/apis/") ++ kind.apiVersion ++
      "/namespaces/" : String).toList.all isPathChar) = true := by
    cases kind <;> decide +kernel
  have back : (("/" ++ kind.plural : String).toList.all isPathChar) = true := by
    cases kind <;> decide +kernel
  have parts : (collection kind ns).toList =
      ((if kind.group = "" then "/api/" else "/apis/") ++ kind.apiVersion ++
        "/namespaces/" : String).toList ++ ns.toList ++ ("/" ++ kind.plural : String).toList := by
    simp [collection]
  rw [parts, List.all_append, List.all_append, front, named, back]
  rfl

theorem buildNamed_path {collection : String} (plain : collection.toList.all isPathChar = true)
    (good : isName name = true) (method : Method) (body : Option Json) :
    ∃ r, buildNamed method collection name body = .ok r := by
  have named : name.isEmpty = false := by
    rw [← Bool.not_eq_true, String.isEmpty_iff]
    rintro rfl
    revert good
    decide +kernel
  have slash : "/".toList.all isPathChar = true := by decide
  rw [buildNamed, if_neg (by simp [named])]
  refine build_path ?_ method body
  rw [String.toList_append, String.toList_append, List.all_append, List.all_append, plain, slash,
    isPathChar_of_isName good]
  rfl

theorem namespaceExists_sendable (good : isName ns = true) : Sendable (.namespaceExists ns) :=
  buildNamed_path (by decide +kernel) good .get none

theorem createNamespace_sendable (ns : String) : Sendable (.createNamespace ns) :=
  build_path (by decide +kernel) .post (some (Object.newNamespace ns))

end Named

end Http

/-! ## Manifests -/

namespace Descriptor

/-- A manifest with the metadata of its descriptor can be shown. -/
theorem document_ok {d : Descriptor} (free : "metadata" ∉ d.body.keys) :
    ∃ w, Http.document d = .ok w := by
  have found : d.manifest.field? "metadata" = some d.metadata :=
    (Table.get?_insertAll_of_not_mem free).trans rfl
  obtain ⟨w, converted⟩ := Object.convert_ok (Table.distinct _) found d.metadata_written
  exact ⟨w, by rw [Http.document, manifest, Json.ofTable, converted]; rfl⟩

theorem prepareReplace_free {d : Descriptor} (free : "metadata" ∉ d.body.keys) (kind : Kind)
    (live : Json) : "metadata" ∉ (kind.prepareReplace d live).body.keys := by
  cases kind with
  | deploymentConfig =>
    intro inside
    rcases Table.mem_keys_insert.mp inside with same | inside
    · exact absurd same (by decide)
    · exact free inside
  | _ => exact free

end Descriptor

namespace Http

variable {d : Descriptor}

theorem create_sendable (placed : isName d.ns = true) (free : "metadata" ∉ d.body.keys) :
    Sendable (.create d) := by
  obtain ⟨w, shown⟩ := Descriptor.document_ok free
  simp only [Sendable, request, shown, bind, Except.bind]
  exact build_path (collection_path d.kind placed) .post (some w)

theorem replace_sendable (placed : isName d.ns = true) (named : isName d.name = true)
    (free : "metadata" ∉ d.body.keys) : Sendable (.replace d) := by
  obtain ⟨w, shown⟩ := Descriptor.document_ok free
  simp only [Sendable, request, shown, bind, Except.bind]
  exact buildNamed_path (collection_path d.kind placed) named .put (some w)

/-- All calls for a resource with a name in a namespace with a name can be sent, unless a
field of its body takes the place of the metadata. -/
theorem sendable_of_isName (options : Options) {desired : Desired}
    (placed : isName desired.ns = true) (named : isName desired.name = true)
    (free : ∀ d, desired = .present d → "metadata" ∉ d.body.keys) :
    desired.AllCalls Sendable options := by
  have collected (kind : Kind) := collection_path kind placed
  refine ⟨buildNamed_path (collected desired.kind) named .get none, fun _ live => ?_⟩
  have asked := desired.asked live options
  generalize desired.change live options = change at asked
  cases asked with
  | create d => simpa [Change.calls] using create_sendable placed (free d rfl)
  | recreate d v recreate =>
    have deleted : Sendable (.delete d.kind d.ns d.name) :=
      buildNamed_path (collected d.kind) named .delete (some (.obj []))
    simpa [Change.calls] using ⟨deleted, create_sendable placed (free d rfl)⟩
  | replace d v overwrite replace =>
    have prepared : Sendable (.replace (d.kind.prepareReplace d v)) :=
      replace_sendable ((d.kind.prepareReplace_ns d v).symm ▸ placed)
        ((d.kind.prepareReplace_name d v).symm ▸ named)
        (Descriptor.prepareReplace_free (free d rfl) d.kind v)
    simpa [Change.calls] using prepared
  | keep d v overwrite keep => simp [Change.calls]
  | delete kind ns name v =>
    have deleted : Sendable (.delete kind ns name) :=
      buildNamed_path (collected kind) named .delete (some (.obj []))
    simpa [Change.calls] using deleted
  | gone kind ns name => simp [Change.calls]

end Http

end Converge
