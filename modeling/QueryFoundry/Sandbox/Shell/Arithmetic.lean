import QueryFoundry.Sandbox.Shell.Syntax

/-!
# Arithmetic of the shell

Expressions over signed numbers of 64 bits and variables. An assignment inside of an expression
changes the variables. What a condition passes over is read without being carried out.
-/

namespace QueryFoundry.Sandbox.Shell.Arithmetic

open Text (Octets)

/-- What an expression is made of. -/
inductive Lexeme where
  | number (value : Int)
  | identifier (name : Octets)
  | operator (text : Octets)
  | endOfText
  /-- A character that no expression has. -/
  | foreign
deriving DecidableEq, Repr

/-- What is left of an expression, and the values that variables were given. -/
structure Work where
  rest : List Char
  /-- The lexeme that comes next. -/
  next : Lexeme := .endOfText
  /-- The value of a variable outside of the expression. -/
  outer : Octets → Octets
  assigned : List (Octets × Int) := []

/-- Why an expression has no value. -/
inductive Problem where
  | malformed (message : Octets)
  /-- The value of a variable that is not a number. -/
  | illegalNumber (value : Octets)
  /-- The quotient of two numbers does not fit. -/
  | tooGreat

/-- How the problem with an expression is told. -/
def Problem.message (expression : Octets) : Problem → Octets
  | .malformed message => "arithmetic expression: " ++ message ++ ": \"" ++ expression ++ "\""
  | .illegalNumber value => "Illegal number: " ++ value
  | .tooGreat => ""

/-- An evaluation that may fail. -/
abbrev Evaluation (α : Type) := StateT Work (Except Problem) α

/-- The signed number of 64 bits that a number becomes. -/
def wrap (value : Int) : Int := Int.bmod value UInt64.size

/-- The greatest number. -/
def greatest : Int := 9223372036854775807

/-- The number of 64 bits that is nearest to a number, and whether it is another one. -/
def clamp (value : Int) : Int × Bool :=
  if greatest < value then (greatest, true)
  else if value < -greatest - 1 then (-greatest - 1, true)
  else (value, false)

/-- The truth of a condition as a number. -/
def truth (condition : Bool) : Int := if condition then 1 else 0

/-- The operators, the longer ones first. -/
def operators : List Octets :=
  ["<<=", ">>=", "||", "&&", "==", "!=", "<=", ">=", "<<", ">>", "+=", "-=", "*=", "/=", "%=",
    "&=", "^=", "|=", "|", "^", "&", "<", ">", "+", "-", "*", "/", "%", "=", "!", "~", "(", ")",
    "?", ":"]

/-- The operators of assignments. -/
def assignments : List Octets :=
  ["=", "<<=", ">>=", "+=", "-=", "*=", "/=", "%=", "&=", "^=", "|="]

/-- How loosely an operator between two numbers binds, if it is one. -/
def looseness? (operator : Octets) : Option Nat :=
  [("*", 0), ("/", 0), ("%", 0), ("+", 1), ("-", 1), ("<<", 2), (">>", 2), ("<", 3), ("<=", 3),
    (">", 3), (">=", 3), ("==", 4), ("!=", 4), ("&", 5), ("^", 6), ("|", 7)].lookup operator

/-- A blank. -/
def isBlank (character : Char) : Bool :=
  character == ' ' || (9 ≤ character.toNat && character.toNat ≤ 13)

/-- The number in front of a text, which starts with a digit, and what follows it. A zero in front
makes it an octal number, or a hexadecimal one together with a letter. -/
def readNumber (text : List Char) : Nat × List Char :=
  let isHex (digits : List Char) : Bool := (digits.head?.bind Text.hexValue?).isSome
  let (base, body) : Nat × List Char := match text with
    | '0' :: 'x' :: rest | '0' :: 'X' :: rest => if isHex rest then (16, rest) else (8, text)
    | '0' :: _ => (8, text)
    | _ => (10, text)
  let (digits, behind) := body.span fun character => (Text.hexValue? character).any (· < base)
  (digits.foldl (fun value digit => value * base + (Text.hexValue? digit).getD 0) 0, behind)

/-- The number that the value of a variable is, with a sign and blanks around it or not; no text at
all is zero. A number that is too great is none. -/
def numberOf? (value : List Char) : Option Int :=
  let trimmed := value.dropWhile isBlank
  let (negative, digits) := match trimmed with
    | '-' :: rest => (true, rest)
    | '+' :: rest => (false, rest)
    | _ => (false, trimmed)
  if trimmed.isEmpty then some 0
  else if !(digits.head?.any Char.isDigit) then none
  else
    let (number, behind) := readNumber digits
    let signed : Int := if negative then -number else number
    if behind.all isBlank && !(clamp signed).2 then some signed else none

/-- Read the next lexeme. -/
def advance : Evaluation Unit := do
  let work ← get
  let rest := work.rest.dropWhile fun character =>
    character == ' ' || character == '\t' || character == '\n'
  match rest with
  | [] => set { work with rest, next := .endOfText }
  | character :: others =>
      if character.isDigit then
        let (number, behind) := readNumber rest
        set { work with rest := behind, next := .number (clamp number).1 }
      else if startsName character then
        let name := rest.takeWhile continuesName
        set { work with
          rest := rest.drop name.length, next := .identifier (String.ofList name) }
      else
        match operators.find? fun operator => operator.toList.isPrefixOf rest with
        | some operator =>
            set { work with rest := rest.drop operator.length, next := .operator operator }
        | none => set { work with rest := others, next := .foreign }

/-- The lexeme that comes next, which is passed over. -/
def take : Evaluation Lexeme := do
  let lexeme := (← get).next
  advance
  return lexeme

/-- Whether an operator comes next. -/
def sees (operator : Octets) : Evaluation Bool := do
  return (← get).next == .operator operator

/-- Give up with a message. -/
def fail {α : Type} (message : Octets) : Evaluation α :=
  throw (.malformed message)

/-- The value of a variable. -/
def valueOf (name : Octets) : Evaluation Int := do
  let work ← get
  match work.assigned.lookup name with
  | some value => return value
  | none =>
      let text := work.outer name
      match numberOf? text.toList with
      | some value => return value
      | none => throw (.illegalNumber text)

/-- Give a variable a value. -/
def assign (name : Octets) (value : Int) : Evaluation Unit :=
  modify fun work => { work with
    assigned := (name, value) :: work.assigned.filter (·.1 != name) }

/-- What an operator makes of two numbers. -/
def apply (operator : Octets) (left right : Int) : Evaluation Int :=
  let unsigned (value : Int) : Nat := (value % UInt64.size).toNat
  let shift : Nat := unsigned right % 64
  match operator with
  | "|" => return wrap (unsigned left ||| unsigned right)
  | "^" => return wrap (unsigned left ^^^ unsigned right)
  | "&" => return wrap (unsigned left &&& unsigned right)
  | "==" => return truth (left == right)
  | "!=" => return truth (left != right)
  | "<" => return truth (left < right)
  | "<=" => return truth (left ≤ right)
  | ">" => return truth (right < left)
  | ">=" => return truth (right ≤ left)
  | "<<" => return wrap (left * Int.pow 2 shift)
  | ">>" => return Int.fdiv left (Int.pow 2 shift)
  | "+" => return wrap (left + right)
  | "-" => return wrap (left - right)
  | "*" => return wrap (left * right)
  | "/" | "%" =>
      if right == 0 then fail "division by zero"
      else if right == -1 && left == -greatest - 1 then throw .tooGreat
      else return if operator == "/" then Int.tdiv left right else Int.tmod left right
  | _ => return right

mutual

/-- An expression, perhaps an assignment. With `idle` nothing is carried out. -/
def expression : Nat → Bool → Evaluation Int
  | 0, _ => fail "expecting primary"
  | fuel + 1, idle => do
      let first ← take
      match first, (← get).next with
      | .identifier name, .operator operator =>
          if assignments.contains operator then
            advance
            let right ← expression fuel idle
            if idle then return right
            else
              let value ← if operator == "=" then pure right
                else apply (String.ofList operator.toList.dropLast) (← valueOf name) right
              assign name value
              return value
          else choice fuel idle first
      | _, _ => choice fuel idle first

/-- A choice between two expressions, or a condition alone, from its first lexeme on. -/
def choice : Nat → Bool → Lexeme → Evaluation Int
  | 0, _, _ => fail "expecting primary"
  | fuel + 1, idle, first => do
      let condition ← disjunction fuel idle first
      if ← sees "?" then
        advance
        let left ← expression fuel (idle || condition == 0)
        if !(← sees ":") then fail "expecting ':'"
        advance
        let right ← choice fuel (idle || condition != 0) (← take)
        return if condition != 0 then left else right
      else return condition

/-- Conditions of which one must hold. -/
def disjunction : Nat → Bool → Lexeme → Evaluation Int
  | 0, _, _ => fail "expecting primary"
  | fuel + 1, idle, first => do
      let left ← conjunction fuel idle first
      if ← sees "||" then
        advance
        let right ← disjunction fuel (idle || left != 0) (← take)
        return truth (left != 0 || right != 0)
      else return left

/-- Conditions that must all hold. -/
def conjunction : Nat → Bool → Lexeme → Evaluation Int
  | 0, _, _ => fail "expecting primary"
  | fuel + 1, idle, first => do
      let left ← binary fuel idle 8 (← primary fuel idle first)
      if ← sees "&&" then
        advance
        let right ← conjunction fuel (idle || left == 0) (← take)
        return truth (left != 0 && right != 0)
      else return left

/-- Apply the operators that bind more strongly than some looseness to a number on their left. -/
def binary : Nat → Bool → Nat → Int → Evaluation Int
  | 0, _, _, left => pure left
  | fuel + 1, idle, bound, left => do
      match (← get).next with
      | .operator operator =>
          match looseness? operator with
          | some looseness =>
              if bound ≤ looseness then return left
              else
                advance
                let right ← binary fuel idle looseness (← primary fuel idle (← take))
                binary fuel idle bound (← if idle then pure right else apply operator left right)
          | none => return left
      | _ => return left

/-- A number, a variable or an expression between parentheses, with signs. -/
def primary : Nat → Bool → Lexeme → Evaluation Int
  | 0, _, _ => fail "expecting primary"
  | fuel + 1, idle, first => do
      match first with
      | .number value => return value
      | .identifier name => if idle then return 0 else valueOf name
      | .operator "(" =>
          let value ← expression fuel idle
          if ← sees ")" then
            advance
            return value
          else fail "expecting ')'"
      | .operator "+" => primary fuel idle (← take)
      | .operator "-" => return wrap (-(← primary fuel idle (← take)))
      | .operator "!" => return truth ((← primary fuel idle (← take)) == 0)
      | .operator "~" => return -(← primary fuel idle (← take)) - 1
      | _ => fail "expecting primary"

end

/-- The value of an expression and the values that variables were given. -/
def evaluate (outer : Octets → Octets) (text : Octets) :
    Except Problem (Int × List (Octets × Int)) :=
  let whole : Evaluation Int := do
    advance
    let value ← expression (4 * text.length + 8) false
    if (← get).next == .endOfText then return value else fail "expecting EOF"
  (whole { rest := text.toList, outer }).map fun (value, work) => (value, work.assigned.reverse)

end QueryFoundry.Sandbox.Shell.Arithmetic
