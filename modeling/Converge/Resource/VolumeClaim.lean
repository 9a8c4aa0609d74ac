import Converge.Content.Record
import Converge.Resource.Descriptor
import Converge.Resource.Name
import Converge.Text.Blank

/-!
# Volume claims

A persistent volume claim asks for storage, and may say which volumes will do.
-/

namespace Converge

structure VolumeClaim where
  name : String
  labels : Table String String
  annotations : Table String String
  accessModes : List String
  storage : String
  matchLabels : Table String String
  matchExpressions : List Json
  volumeName : Option String

namespace VolumeClaim

/-- The storage asked for where none is given. -/
def defaultStorage : String := "1Gi"

/-- What a volume has to match. -/
def selector (v : VolumeClaim) : List (String × Json) :=
  Descriptor.textsField "matchLabels" v.matchLabels ++
    (if v.matchExpressions.isEmpty then [] else [("matchExpressions", .arr v.matchExpressions)])

/-- The manifest's `spec`. -/
def spec (v : VolumeClaim) : Json :=
  let modes := if v.accessModes.isEmpty then []
    else [("accessModes", Json.arr (v.accessModes.map .str))]
  let selector := if v.selector.isEmpty then [] else [("selector", Json.obj v.selector)]
  let volumeName := match v.volumeName with
    | none => []
    | some name => [("volumeName", Json.str name)]
  .obj (modes ++ [("resources", .obj [("requests", .obj [("storage", .str v.storage)])])] ++
    selector ++ volumeName)

def build (v : VolumeClaim) (ns : String) : Except Invalid Descriptor := do
  checkName "PersistentVolumeClaim" v.name
  if Text.isBlank v.storage then throw (.noStorage v.name)
  return { Descriptor.bare .persistentVolumeClaim v.name ns
      (Table.ofList [("spec", v.spec)]) with labels := v.labels, annotations := v.annotations }

def nameField : Content.Field String := ⟨["name"], Content.text, none⟩
def labelsField : Content.Field (Option (Table String String)) :=
  ⟨["labels"], Content.optional Content.texts, some none⟩
def annotationsField : Content.Field (Option (Table String String)) :=
  ⟨["annotations"], Content.optional Content.texts, some none⟩
def accessModesField : Content.Field (Option (List String)) :=
  ⟨["access_modes"], Content.optional (Content.sequence Content.text), some none⟩
def storageField : Content.Field String :=
  ⟨["requested_storage"], Content.text, some defaultStorage⟩
def matchLabelsField : Content.Field (Option (Table String String)) :=
  ⟨["match_labels"], Content.optional Content.texts, some none⟩
def matchExpressionsField : Content.Field (Option (List Json)) :=
  ⟨["match_expressions"], Content.optional (Content.sequence Content.toJson), some none⟩
def volumeNameField : Content.Field (Option String) :=
  ⟨["volume_name"], Content.optional Content.text, some none⟩

def read (c : Content) : Except Mismatch VolumeClaim := do
  let found ← Content.fields .held "struct PersistentVolumeClaimSpec"
    [nameField.slot, labelsField.slot, annotationsField.slot, accessModesField.slot,
      storageField.slot, matchLabelsField.slot, matchExpressionsField.slot,
      volumeNameField.slot] c
  let name ← nameField.value found
  let labels ← labelsField.value found
  let annotations ← annotationsField.value found
  let accessModes ← accessModesField.value found
  let storage ← storageField.value found
  let matchLabels ← matchLabelsField.value found
  let matchExpressions ← matchExpressionsField.value found
  let volumeName ← volumeNameField.value found
  return ⟨name, labels.getD .empty, annotations.getD .empty, accessModes.getD [], storage,
    matchLabels.getD .empty, matchExpressions.getD [], volumeName⟩

end VolumeClaim

end Converge
