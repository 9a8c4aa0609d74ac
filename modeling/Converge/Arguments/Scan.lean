import Converge.Arguments.Basic
import Converge.Text.Find

/-!
# Reading the words of one level

Words are read one after another. An option whose value may still follow, and a
position whose further values may, are pending; whatever comes next settles them first.
Values are looked at only then, so an earlier word is refused before a later one, except
that a word no argument answers to is refused before what is pending.
-/

namespace Converge.Arguments

/-- An argument with the values it has so far. An option without one waits for it. -/
structure Pending where
  argument : Argument
  values : List String

structure State where
  /-- The arguments that are settled, with their values. -/
  settled : List (Argument × List String)
  pending : Option Pending
  /-- Are hyphens at the start of words just hyphens? -/
  plain : Bool
  /-- The positions that are still open. -/
  positions : List Argument

namespace State

def start (level : Level) : State := ⟨[], none, false, level.positions⟩

/-- The values of a settled argument. -/
def values? (s : State) (a : Argument) : Option (List String) :=
  (s.settled.find? fun entry => entry.1 = a).map Prod.snd

/-- Is there an option that waits for its value? -/
def awaits (s : State) : Bool :=
  match s.pending with
  | some p => p.values.isEmpty
  | none => false

/-- Settle an argument. -/
def record (s : State) (a : Argument) (values : List String) : Except Refusal State :=
  if a.takesValue && values.isEmpty then .error .invalidValue
  else
    let earlier := s.values? a
    if earlier.isSome && !a.repeats then .error .conflict
    else if !values.all a.accepts then .error .invalidValue
    else
      let others := s.settled.filter fun entry => entry.1 ≠ a
      .ok { s with settled := others ++ [(a, earlier.getD [] ++ values)] }

/-- Settle what is pending. -/
def settle (s : State) : Except Refusal State :=
  match s.pending with
  | none => .ok s
  | some p => { s with pending := none }.record p.argument p.values

/-- An argument that is complete with the values. -/
def take (s : State) (a : Argument) (values : List String) : Except Refusal State := do
  let s ← s.settle
  s.record a values

/-- An argument that may have further values. -/
def await (s : State) (a : Argument) (values : List String) : Except Refusal State := do
  let s ← s.settle
  return { s with pending := some ⟨a, values⟩ }

/-- A switch. Asking for help or for the version ends the reading. -/
def switch (level : Level) (s : State) (a : Argument) (isBrief : Bool) : Except Refusal State := do
  let s ← s.settle
  match a with
  | .help => throw (.help level.command isBrief)
  | .version => throw .version
  | _ => s.record a []

/-- An option that takes a value, with the value that is written in the same word if
there is one. -/
def option (s : State) (a : Argument) : Option String → Except Refusal State
  | none => s.await a []
  | some value => s.take a [value]

/-- The letters of a word with one hyphen. The rest of the word after an option that
takes a value is its value. -/
def letters (level : Level) (s : State) : List Char → Except Refusal State
  | [] => .ok s
  | letter :: rest =>
    match level.short? letter with
    | none => .error .unknownArgument
    | some a =>
      if a.takesValue then
        match rest with
        | [] => s.option a none
        | '=' :: value => s.option a (some (String.ofList value))
        | value => s.option a (some (String.ofList value))
      else do
        let s ← s.switch level a true
        letters level s rest

/-- An option named by a word, with the value behind an equals sign if there is one. -/
def word (level : Level) (s : State) (name : List Char) (attached : Option String) :
    Except Refusal State :=
  match level.long? (String.ofList name) with
  | none => .error .unknownArgument
  | some a =>
    if a.takesValue then s.option a attached
    else if attached.isSome then .error .unwantedValue
    else s.switch level a false

/-- Why a word is refused when no position is open. -/
def surplus (level : Level) (s : State) (word : String) : Refusal :=
  if level.commands.isEmpty || (s.plain && level.commands.contains word) then .unknownArgument
  else .unknownCommand

/-- A word at the next open position. -/
def place (level : Level) (s : State) (word : String) : Except Refusal State :=
  match s.positions with
  | [] => .error (s.surplus level word)
  | a :: later =>
    if a.repeats then
      match s.pending with
      | some ⟨b, values⟩ =>
        if b = a then .ok { s with pending := some ⟨a, values ++ [word]⟩ } else s.await a [word]
      | none => s.await a [word]
    else do
      let s ← s.await a [word]
      return { s with positions := later }

/-- The value that an option waits for, or a word at a position. -/
def value (level : Level) (s : State) (word : String) : Except Refusal State :=
  match s.pending with
  | some ⟨a, []⟩ => .ok { s with pending := some ⟨a, [word]⟩ }
  | _ => s.place level word

/-- Read a word. -/
def step (level : Level) (s : State) (word : String) : Except Refusal State :=
  if s.plain then s.place level word
  else
    match word.toList with
    | ['-', '-'] => .ok { s with plain := true }
    | '-' :: '-' :: rest =>
      match Text.cutAt '=' rest with
      | none => s.word level rest none
      | some (name, value) => s.word level name (some (String.ofList value))
    | '-' :: letter :: rest => s.letters level (letter :: rest)
    | _ => s.value level word

/-- Read words to their end. -/
def readAll (level : Level) (s : State) : List String → Except Refusal State
  | [] => s.settle
  | word :: rest => do
    let s ← s.step level word
    readAll level s rest

/-- Does the word begin a command? -/
def beginsCommand (level : Level) (s : State) (word : String) : Bool :=
  !s.plain && !s.awaits && level.commands.contains word

/-- Read words up to the first that begins a command; that one and the words after it
are left. -/
def readToCommand (level : Level) (s : State) : List String →
    Except Refusal (State × List String)
  | [] => .ok (s, [])
  | word :: rest =>
    if s.beginsCommand level word then .ok (s, word :: rest)
    else do
      let s ← s.step level word
      readToCommand level s rest

end State

end Converge.Arguments
