import QueryFoundry.Sandbox.Utility

/-!
# Printing files one after the other

Lines may be numbered, empty lines be left out, and characters that cannot be seen be made visible.
-/

namespace QueryFoundry.Sandbox.Concatenation

open Text (Octets)

/-- How files are printed. -/
structure Style where
  numbers : Bool := false
  /-- Whether only lines that are not empty are numbered. -/
  skipsEmpty : Bool := false
  squeezes : Bool := false
  showsEnds : Bool := false
  showsTabs : Bool := false
  showsControls : Bool := false
deriving DecidableEq, Repr

/-- Where the printing is in a line: inside it, or behind a number of line ends more than one. -/
inductive Place where
  | inside
  | start (emptyLines : Nat)
deriving DecidableEq, Repr

/-- The state of the printing. -/
structure State where
  place : Place := .start 0
  lineNumber : Nat := 0
  /-- Whether a carriage return was read that the end of the line may follow. -/
  hasReturn : Bool := false

/-- The number in front of a line. -/
def lineNumberText (number : Nat) : List Char :=
  let digits := Nat.toDigits 10 number
  List.replicate (6 - digits.length) ' ' ++ digits ++ ['\t']

/-- A character of seven bits that cannot be seen. -/
def visibleControl (code : Nat) : List Char :=
  if code < 32 then ['^', Char.ofNat (code + 64)]
  else if code == 127 then ['^', '?']
  else [Char.ofNat code]

/-- How a character is shown that ends no line. -/
def shown (style : Style) (character : Char) : List Char :=
  if character == '\t' then if style.showsTabs then ['^', 'I'] else ['\t']
  else if !style.showsControls then [character]
  else if character.toNat < 128 then visibleControl character.toNat
  else ['M', '-'] ++ visibleControl (character.toNat - 128)

/-- Count a line. -/
def State.countLine (state : State) : State × List Char :=
  let number := state.lineNumber + 1
  ({ state with lineNumber := number }, lineNumberText number)

/-- What is printed for the end of a line. -/
def lineEnd (style : Style) (state : State) : State × List Char :=
  let ending := (if style.showsEnds then (if state.hasReturn then ['^', 'M', '$'] else ['$'])
    else []) ++ ['\n']
  let cleared := { state with hasReturn := false }
  match state.place with
  | .inside => ({ cleared with place := .start 0 }, ending)
  | .start emptyLines =>
      let next := { cleared with place := .start (min 2 (emptyLines + 1)) }
      if style.squeezes && 1 ≤ emptyLines then (next, [])
      else if style.numbers && !style.skipsEmpty then
        let (counted, text) := next.countLine
        (counted, text ++ ending)
      else (next, ending)

/-- What is printed for a character. -/
def step (style : Style) (state : State) (character : Char) : State × List Char :=
  if character == '\n' then lineEnd style state
  else
    let kept := if state.hasReturn then ['\r'] else []
    let (counted, number) :=
      if style.numbers && state.place != .inside then state.countLine else (state, [])
    let mayEnd := character == '\r' && style.showsEnds && !style.showsControls
    ({ counted with place := .inside, hasReturn := mayEnd },
      kept ++ number ++ if mayEnd then [] else shown style character)

/-- What is printed for some characters. -/
def render (style : Style) (state : State) (characters : List Char) : State × List Char :=
  let (last, pieces) := characters.foldl
    (fun (state, pieces) character =>
      let (next, piece) := step style state character
      (next, piece :: pieces))
    (state, [])
  (last, pieces.reverse.flatten)

/-- Print what is left of a descriptor, piece by piece. -/
def copy (style : Style) (descriptor : Nat) : Nat → State →
    Program (State × Option (Bool × IoError))
  | 0, state => pure (state, none)
  | fuel + 1, state => do
      match ← Program.ask (.read descriptor Program.chunk) with
      | .octets data =>
          if data.isEmpty then return (state, none)
          else
            let (next, text) := render style state data.toList
            match ← Program.tryWrite 1 (String.ofList text) with
            | .ok () => copy style descriptor fuel next
            | .error error => return (next, some (true, error))
      | .failed error => return (state, some (false, error))
      | _ => return (state, none)

/-- Print files; the flag tells whether all could be read. -/
def copyAll (style : Style) : List Octets → State → Bool → Program UInt8
  | [], state, succeeded => do
      if state.hasReturn then Program.print "\r"
      return if succeeded then 0 else 1
  | path :: rest, state, succeeded => do
      let missing (error : IoError) : Program Unit :=
        Utility.complain "cat"
          (Quotation.forShellIfNeeded true path ++ ": " ++ Utility.errorText error)
      let opened ← if path == "-" then pure (.number 0) else Program.ask (.openFile path .read)
      match opened with
      | .number descriptor =>
          let (next, problem) ← copy style descriptor Program.readLimit state
          if descriptor != 0 then
            let _ ← Program.ask (.close descriptor)
          match problem with
          | none => copyAll style rest next succeeded
          | some (false, error) =>
              missing error
              copyAll style rest next false
          | some (true, error) =>
              Utility.complain "cat" ("write error: " ++ Utility.errorText error)
              return 1
      | .failed error =>
          missing error
          copyAll style rest state false
      | _ => copyAll style rest state succeeded

/-- The options. -/
def optionTable : OptionTable where
  letters := ["A", "b", "e", "E", "n", "s", "t", "T", "u", "v"].map fun name =>
    (name.toList.headD 'A', name, .never)
  words := [("number-nonblank", "b", .never), ("number", "n", .never),
    ("squeeze-blank", "s", .never), ("show-nonprinting", "v", .never), ("show-ends", "E", .never),
    ("show-tabs", "T", .never), ("show-all", "A", .never)]

/-- Print files or the input. -/
def program : Utility :=
  Utility.withOptions "cat" optionTable 1 fun read _ => do
    let has (names : List Octets) : Bool := names.any read.has
    let style : Style := {
      numbers := has ["n", "b"]
      skipsEmpty := read.has "b"
      squeezes := read.has "s"
      showsEnds := has ["A", "e", "E"]
      showsTabs := has ["A", "t", "T"]
      showsControls := has ["A", "e", "t", "v"] }
    copyAll style (if read.operands.isEmpty then ["-"] else read.operands) {} true

end QueryFoundry.Sandbox.Concatenation
