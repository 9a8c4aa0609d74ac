import Converge.Yaml.Node

/-!
# Documents of a YAML text

A text is a stream of documents. Each is read before anything behind it is looked at,
so what is wrong with one is told before a fault in the text of a later one.
-/

namespace Converge.Yaml

/-- Read documents one after another. Each takes an event, so the number of events is
fuel enough. -/
def readFrom {α : Type} (read : Node → Except UnreadableFile α) (complete : Bool) :
    (fuel : Nat) → List Event → Except UnreadableFile (List α)
  | 0, _ => .error .text
  | fuel + 1, events =>
    if complete && events.isEmpty then .ok []
    else do
      let (source, rest) := Source.read [] ⟨#[], [], false⟩ events
      let n ← source.node
      let a ← read n
      let more ← readFrom read complete fuel rest
      return a :: more

/-- Read the documents of a text. -/
def readDocuments {α : Type} (read : Node → Except UnreadableFile α) (text : String) :
    Except UnreadableFile (List α) :=
  let (events, complete) := events text
  readFrom read complete (events.length + 2) events

end Converge.Yaml
