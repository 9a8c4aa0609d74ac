import Converge.Content.Record
import Converge.Resource.Descriptor
import Converge.Resource.Name
import Converge.Text.Base64
import Converge.Text.Find
import Converge.Text.Utf8

/-!
# Secrets

A secret holds entries whose values are sent in base64.
-/

namespace Converge

structure Secret where
  name : String
  labels : Table String String
  data : Table String String
  type : String

namespace Secret

/-- The type of a secret that does not say one. -/
def opaqueType : String := "Opaque"

/-- Entries given as `KEY=VALUE`, cut at the first equals sign. -/
def entriesOf : List String → Except Invalid (List (String × String))
  | [] => .ok []
  | text :: rest =>
    match Text.splitOnce '=' text with
    | none => .error (.literal text)
    | some entry => do return entry :: (← entriesOf rest)

/-- A secret with entries given as `KEY=VALUE`. -/
def ofLiterals (name : String) (literals : List String) : Except Invalid Secret := do
  let entries ← entriesOf literals
  return ⟨name, .empty, Table.ofList entries, opaqueType⟩

/-- A value in base64. -/
def encoded (value : String) : Json :=
  .str (String.ofList (Text.Base64.encode (Text.Utf8.encode value)))

def build (s : Secret) (ns : String) : Except Invalid Descriptor := do
  checkName "Secret" s.name
  match s.data.keys.find? String.isEmpty with
  | some key => throw (.secretKey s.name key)
  | none =>
    let data := Json.ofTable (s.data.mapValues encoded)
    return { Descriptor.bare .secret s.name ns
        (Table.ofList [("type", .str s.type), ("data", data)]) with labels := s.labels }

def nameField : Content.Field String := ⟨["name"], Content.text, none⟩
def labelsField : Content.Field (Option (Table String String)) :=
  ⟨["labels"], Content.optional Content.texts, some none⟩
def dataField : Content.Field (Table String String) := ⟨["data"], Content.texts, some .empty⟩
def typeField : Content.Field String := ⟨["type"], Content.text, some opaqueType⟩

def read (c : Content) : Except Mismatch Secret := do
  let found ← Content.fields .held "struct SecretSpec"
    [nameField.slot, labelsField.slot, dataField.slot, typeField.slot] c
  let name ← nameField.value found
  let labels ← labelsField.value found
  let data ← dataField.value found
  let type ← typeField.value found
  return ⟨name, labels.getD .empty, data, type⟩

end Secret

end Converge
