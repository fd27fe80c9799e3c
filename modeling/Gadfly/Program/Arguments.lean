/-
  Gadfly.Program.Arguments

  The words of a command line.

  A `Switch` has a long name, given after two dashes, and perhaps a letter, given after one;
  several letters may share a dash. Some switches take a value: the rest of the word, after an
  equals sign for a long name, or the next word. A value in a word of its own does not start with
  a dash, unless it is nothing but a dash (`Shape`). Two dashes alone end the switches.

  `scan` turns the words into `Item`s and stops at the first word that fits nowhere, and
  `Given.ofItems?` collects them.

  Main definitions: `Switch`, `Item`, `scan`, `Given`, `Given.ofItems?`.
-/

namespace Gadfly.Program

/-! ## Switches -/

/-- A switch of a command line. -/
structure Switch where
  name : String
  letter : Option Char
  takesValue : Bool
  /-- Whether it may be given more than once. -/
  repeats : Bool
  deriving Repr, DecidableEq

/-- A part of a command line that has been understood. -/
inductive Item where
  /-- A switch without a value. -/
  | flag (name : String)
  /-- A switch with its value. -/
  | value (name text : String)
  /-- A plain word, with the words after it. -/
  | word (text : String) (rest : List String)
  /-- A plain word after the end of the switches. -/
  | operand (text : String)
  /-- Something that fits nowhere. -/
  | fault
  deriving Repr, DecidableEq

/-! ## Single words -/

/-- What one word says: some items, and perhaps a switch whose value has yet to come. -/
structure Reading where
  items : List Item
  awaiting : Option String
  deriving Repr, DecidableEq

/-- A word that fits nowhere. -/
def Reading.bad : Reading := ⟨[.fault], none⟩

/-- Letters that share a dash. -/
def readLetters (switches : List Switch) : List Char → Reading
  | [] => ⟨[], none⟩
  | c :: rest =>
    match switches.find? (·.letter = some c) with
    | none => .bad
    | some switch =>
      if switch.takesValue then
        match rest with
        | [] => ⟨[], some switch.name⟩
        | '=' :: text => ⟨[.value switch.name (String.ofList text)], none⟩
        | text => ⟨[.value switch.name (String.ofList text)], none⟩
      else
        let reading := readLetters switches rest
        ⟨.flag switch.name :: reading.items, reading.awaiting⟩

/-- A long name, perhaps with a value after an equals sign. -/
def readLong (switches : List Switch) (body : List Char) : Reading :=
  let name := String.ofList (body.takeWhile (· ≠ '='))
  match switches.find? (·.name = name), body.dropWhile (· ≠ '=') with
  | none, _ => .bad
  | some switch, [] =>
    if switch.takesValue then ⟨[], some name⟩ else ⟨[.flag name], none⟩
  | some switch, _ :: text =>
    if switch.takesValue then ⟨[.value name (String.ofList text)], none⟩ else .bad

/-- What a word looks like. -/
inductive Shape where
  /-- Two dashes alone. -/
  | ending
  /-- What follows two dashes. -/
  | long (body : List Char)
  /-- What follows one dash. -/
  | letters (body : List Char)
  | plain
  deriving Repr, DecidableEq

/-- What a word looks like. A dash alone is a plain word. -/
def Shape.of (word : String) : Shape :=
  match word.toList with
  | ['-', '-'] => .ending
  | '-' :: '-' :: body => .long body
  | ['-'] => .plain
  | '-' :: body => .letters body
  | _ => .plain

/-! ## Whole lines -/

/-- The items of a command line; `awaiting` is a switch that needs the next word as its value. -/
def scanFrom (switches : List Switch) : (awaiting : Option String) → List String → List Item
  | none, [] => []
  | some _, [] => [.fault]
  | some name, word :: rest =>
    if Shape.of word = .plain then .value name word :: scanFrom switches none rest else [.fault]
  | none, word :: rest =>
    match Shape.of word with
    | .ending => rest.map .operand
    | .plain => .word word rest :: scanFrom switches none rest
    | .letters body =>
      let reading := readLetters switches body
      reading.items ++ scanFrom switches reading.awaiting rest
    | .long body =>
      let reading := readLong switches body
      reading.items ++ scanFrom switches reading.awaiting rest

/-- The items of a command line. -/
def scan (switches : List Switch) (words : List String) : List Item :=
  scanFrom switches none words

/-! ## What was given -/

/-- What a command line gives: switches with their values, and plain words. -/
structure Given where
  /-- In order; a switch without a value has the empty one. -/
  switches : List (String × String)
  words : List String
  deriving Repr, DecidableEq

namespace Given

/-- The values of a switch, in order. -/
def values (given : Given) (name : String) : List String :=
  (given.switches.filter (·.1 = name)).map (·.2)

/-- The value of a switch. -/
def value? (given : Given) (name : String) : Option String :=
  (given.values name).head?

/-- What items give, unless one of them fits nowhere. -/
def collect? : List Item → Option Given
  | [] => some ⟨[], []⟩
  | .fault :: _ => none
  | .flag name :: rest => do
    let given ← collect? rest
    return { given with switches := (name, "") :: given.switches }
  | .value name text :: rest => do
    let given ← collect? rest
    return { given with switches := (name, text) :: given.switches }
  | .word text _ :: rest | .operand text :: rest => do
    let given ← collect? rest
    return { given with words := text :: given.words }

/-- What items give, if no switch is given too often. -/
def ofItems? (switches : List Switch) (items : List Item) : Option Given := do
  let given ← collect? items
  if switches.all fun switch => switch.repeats || (given.values switch.name).length ≤ 1 then
    return given
  else none

end Given

end Gadfly.Program
