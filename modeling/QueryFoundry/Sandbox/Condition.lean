import QueryFoundry.Sandbox.Task

/-!
# Conditions on texts, numbers and files

The conditions that a command can be asked to test, given as its arguments.
-/

namespace QueryFoundry.Sandbox.Condition

open Text (Octets)

/-- The whole number that a text denotes, with a sign and blanks around it or not; it has at most 64
bits. -/
def numberOf? (text : Octets) : Option Int :=
  let isBlank (character : Char) : Bool :=
    character == ' ' || (9 ≤ character.toNat && character.toNat ≤ 13)
  let trimmed := text.toList.dropWhile isBlank
  let (negative, body) := match trimmed with
    | '-' :: rest => (true, rest)
    | '+' :: rest => (false, rest)
    | _ => (false, trimmed)
  let (digits, behind) := body.span Char.isDigit
  let number : Int := digits.foldl (fun value digit => value * 10 + (digit.toNat - 48 : Nat)) 0
  let signed := if negative then -number else number
  if digits.isEmpty || !(behind.all isBlank) || signed < -9223372036854775808 ||
      9223372036854775807 < signed then none
  else some signed

/-- What an operator does. -/
inductive Role where
  | unary
  | binary
  | negation
  | both
  | either
  | opening
  | closing
deriving DecidableEq, Repr

/-- The operators. -/
def roleOf? (word : Octets) : Option Role :=
  if ["-r", "-w", "-x", "-e", "-f", "-d", "-c", "-b", "-p", "-u", "-g", "-k", "-s", "-t", "-z",
      "-n", "-h", "-O", "-G", "-L", "-S"].contains word then some .unary
  else if ["=", "!=", "<", ">", "-eq", "-ne", "-ge", "-gt", "-le", "-lt", "-nt", "-ot",
      "-ef"].contains word then some .binary
  else [("!", Role.negation), ("-a", .both), ("-o", .either), ("(", .opening),
    (")", .closing)].lookup word

/-- A test of the arguments from a place on, which may be malformed. -/
abbrev Test (α : Type) := ExceptT Octets (StateT Nat Program) α

/-- Give up with a message about an operator. -/
def fail {α : Type} (operator message : Octets) : Test α :=
  throw (if operator.isEmpty then message else operator ++ ": " ++ message)

/-- Do something with the machine. -/
def lift {α : Type} (program : Program α) : Test α :=
  ExceptT.lift (StateT.lift program)

/-- The number that an argument must be. -/
def number (text : Octets) : Test Int :=
  match numberOf? text with
  | some value => return value
  | none => throw ("Illegal number: " ++ text)

/-- What the argument at a place does; it does nothing if it is an operand. An operator on one
argument is an operand where none follows that it could apply to. -/
def roleAt (arguments : Array Octets) (place : Nat) : Option Role := do
  let role ← roleOf? (← arguments[place]?)
  let isOperand := match arguments[place + 1]?, arguments[place + 2]? with
    | none, _ => true
    | some _, none => false
    | some next, some _ => roleOf? next == some .binary
  if role == .unary && isOperand then none
  else if role == .opening && arguments.size ≤ place + 1 then none
  else some role

/-- Test a condition on one argument. -/
def unary (operator operand : Octets) : Test Bool := do
  match operator with
  | "-n" => return !operand.isEmpty
  | "-z" => return operand.isEmpty
  | "-t" =>
      let _ ← number operand
      return false
  | _ =>
      match ← lift (Program.status? operand), operator with
      | none, _ => return false
      | some entry, "-f" => return entry.isFile
      | some entry, "-d" => return entry.isDirectory
      | some (.file _ executable), "-x" => return executable
      | some entry, "-x" => return entry.isDirectory
      | some (.file content _), "-s" => return !content.isEmpty
      | some entry, "-s" => return entry.isDirectory
      | some (.device (.descriptor _)), "-p" => return true
      | some (.device kind), "-c" => return !(kind matches .descriptor _)
      | some _, _ => return ["-e", "-r", "-w", "-O", "-G"].contains operator

/-- Compare two numbers. -/
def compare (operator : Octets) (left right : Int) : Bool :=
  match operator with
  | "-eq" => left == right
  | "-ne" => left != right
  | "-lt" => left < right
  | "-le" => left ≤ right
  | "-gt" => right < left
  | _ => right ≤ left

/-- Test a condition on two arguments. -/
def binary (left operator right : Octets) : Test Bool := do
  let files (relation : Location × Nat → Location × Nat → Bool) : Test Bool := do
    match ← lift (Program.inspect? left), ← lift (Program.inspect? right) with
    | some (_, first), some (_, second) => return relation first second
    | _, _ => return false
  match operator with
  | "=" => return left == right
  | "!=" => return left != right
  | "<" => return left < right
  | ">" => return right < left
  | "-nt" => files fun first second => second.2 < first.2
  | "-ot" => files fun first second => first.2 < second.2
  | "-ef" => files fun first second => first.1 == second.1
  | _ => return compare operator (← number left) (← number right)

/-- Go on to the next argument. -/
def step : Test Unit := modify (· + 1)

mutual

/-- Alternatives with a mark between them. -/
def anyOf (arguments : Array Octets) : Nat → Option Role → Test Bool
  | 0, _ => fail "" "argument expected"
  | fuel + 1, role => do
      let first ← allOf arguments fuel role
      if roleAt arguments ((← get) + 1) == some .either then
        step
        step
        let second ← anyOf arguments fuel (roleAt arguments (← get))
        return first || second
      else return first

/-- Conditions that must all hold, with a mark between them. -/
def allOf (arguments : Array Octets) : Nat → Option Role → Test Bool
  | 0, _ => fail "" "argument expected"
  | fuel + 1, role => do
      let first ← negation arguments fuel role
      if roleAt arguments ((← get) + 1) == some .both then
        step
        step
        let second ← allOf arguments fuel (roleAt arguments (← get))
        return first && second
      else return first

/-- A condition, perhaps negated. -/
def negation (arguments : Array Octets) : Nat → Option Role → Test Bool
  | 0, _ => fail "" "argument expected"
  | fuel + 1, role => do
      if role == some .negation then
        let next := (← get) + 1
        if next < arguments.size then
          step
          return !(← negation arguments fuel (roleAt arguments next))
        else return true
      else primary arguments fuel role

/-- A condition that starts with its operator, one in parentheses, or a text. -/
def primary (arguments : Array Octets) : Nat → Option Role → Test Bool
  | 0, _ => fail "" "argument expected"
  | fuel + 1, role => do
      let place ← get
      match arguments[place]? with
      | none => return false
      | some word =>
          if role == some .opening then
            step
            if roleAt arguments (← get) == some .closing then return false
            else
              let value ← anyOf arguments fuel (roleAt arguments (← get))
              step
              if roleAt arguments (← get) != some .closing then
                fail "" "closing paren expected"
              return value
          else if role == some .unary then
            step
            match arguments[place + 1]? with
            | none => fail word "argument expected"
            | some operand => unary word operand
          else
            match roleAt arguments (place + 1), arguments[place + 1]?, arguments[place + 2]? with
            | some .binary, some operator, some right =>
                step
                step
                binary word operator right
            | some .binary, some operator, none => fail operator "argument expected"
            | _, _, _ => return !word.isEmpty

end

/-- Test what some arguments say from a place on, where three of them with an operator in the middle
are always a condition on two. -/
def whole (arguments : Array Octets) (isComparison : Bool) : Test Bool := do
  let fuel := 4 * arguments.size + 8
  let value ← anyOf arguments fuel (if isComparison then none else roleAt arguments 0)
  let place ← get
  match arguments[place]?, arguments[place + 1]? with
  | some word, some _ => fail word "unexpected operator"
  | _, _ => return value

/-- Test the condition that some arguments state, with negations in front of few of them taken
first. -/
def evaluateFrom : Nat → List Octets → Program (Except Octets Bool)
  | 0, _ => return .ok false
  | fuel + 1, arguments => do
      let test (arguments : List Octets) (isComparison : Bool) : Program (Except Octets Bool) := do
        let (result, _) ← (whole arguments.toArray isComparison).run.run 0
        return result
      let bracketed (count : Nat) : Bool :=
        arguments.length == count && arguments.head? == some "(" && arguments.getLast? == some ")"
      match arguments with
      | [] => return .ok false
      | [_, operator, _] =>
          if roleOf? operator == some .binary then test arguments true
          else if bracketed 3 then test ((arguments.drop 1).dropLast) false
          else if arguments.head? == some "!" then
            return (← evaluateFrom fuel (arguments.drop 1)).map not
          else test arguments false
      | [first, _, _, _] =>
          if bracketed 4 then test ((arguments.drop 1).dropLast) false
          else if first == "!" then return (← evaluateFrom fuel (arguments.drop 1)).map not
          else test arguments false
      | _ => test arguments false

/-- Test the condition that some arguments state. No arguments state nothing that holds. -/
def evaluate (arguments : List Octets) : Program (Except Octets Bool) :=
  evaluateFrom (arguments.length + 1) arguments

end QueryFoundry.Sandbox.Condition
