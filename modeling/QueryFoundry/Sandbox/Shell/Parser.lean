import QueryFoundry.Sandbox.Shell.Source

/-!
# Reading shell scripts

A script is read one complete line of commands at a time, so that the commands in front of a mistake
still run. Words are read level by level: quotes, braces and parentheses change how the characters
inside of them are understood.
-/

namespace QueryFoundry.Sandbox.Shell

open Text (Octets)
open QueryFoundry.Sandbox.Shell.Parser

/-- How the characters of a word are understood. -/
inductive Quoting where
  | plain
  | single
  | double
  | arithmetic
deriving DecidableEq, Repr

/-- Where the reader of a word is. -/
structure Level where
  quoting : Quoting := .plain
  /-- Whether a brace ends what is read. -/
  inBraces : Bool := false
  /-- Whether the braces stand between quotes, which therefore do not end inside of them. -/
  keepsQuotes : Bool := false
  /-- Whether a quote is open inside of the braces. -/
  innerQuotes : Bool := false
  /-- The number of open parentheses. -/
  parentheses : Nat := 0
  /-- The text of the script that is read, if it is one that ends with a mark of its own. -/
  here : Option HereRequest := none

/-- Whether a backslash takes the meaning of few characters only. -/
def Level.isDouble (level : Level) : Bool :=
  level.quoting == .double || level.quoting == .arithmetic

/-- Whether what is read is quoted. -/
def Level.isQuoted (level : Level) : Bool :=
  match level.quoting with
  | .plain | .arithmetic => false
  | .single => level.here.isNone || !level.inBraces
  | .double => true

/-- Add a character to the parts of a word, of which the last one comes first. -/
def addCharacter (quoted : Bool) (character : Char) : List Piece → List Piece
  | .text flag content :: rest =>
      if flag == quoted then .text flag (content.push character) :: rest
      else .text quoted (String.singleton character) :: .text flag content :: rest
  | read => .text quoted (String.singleton character) :: read

/-- Add a quotation mark. Between marks that hold nothing but all arguments of the shell none is
kept: without arguments nothing is left of the word. -/
def addMark (level : Level) (read : List Piece) : List Piece :=
  if level.here.isSome then read
  else
    match read with
    | .parameter true "@" .plain :: .mark :: rest => .parameter true "@" .plain :: rest
    | _ => .mark :: read

/-- Read the next character of a level. Only between single quotes lines are not joined. -/
def nextIn (level : Level) : Parser (Option Char) :=
  if level.quoting == .single then next? else nextJoined?

/-- Pass over tabs. -/
def skipTabs : Nat → Option Char → Parser (Option Char)
  | 0, character => pure character
  | fuel + 1, character => do
      if character == some '\t' then skipTabs fuel (← next?) else return character

/-- Whether a text comes next, from a character that has been read, and then the end of the line.
If not, the characters behind the first one are put back. -/
def matchLine : List Char → Option Char → List (Option Char) → Parser Bool
  | [], character, read => do
      if character == none || character == some '\n' then return true
      else
        (character :: read).dropLast.forM putBack
        return false
  | expected :: rest, character, read => do
      if character == some expected then matchLine rest (← next?) (character :: read)
      else
        (character :: read).dropLast.forM putBack
        return false

/-- At the start of a line, the character that it starts with; there is none if the line is the mark
that ends the text. -/
def lineStart (level : Level) (character : Option Char) : Parser (Option Char) := do
  match level.here with
  | none => return character
  | some request =>
      let first ← if request.stripTabs then skipTabs stepLimit character else pure character
      if ← matchLine request.delimiter.toList first [] then
        countLine
        return none
      else return first

/-- The names of the parameters that are single characters. -/
def isSpecialParameter (character : Char) : Bool :=
  ['@', '*', '#', '?', '-', '$', '!'].contains character || character.isDigit

/-- A character that ends a word. -/
def endsWord (character : Char) : Bool :=
  ['<', '>', '(', ')', ';', '&', '|', ' ', '\t'].contains character

/-- What is left of a script between backquotes: the backslashes in front of some characters are
dropped. -/
def takeBackquoted (level : Level) : Nat → List Char → Parser (List Char)
  | 0, _ => fail "EOF in backquote substitution"
  | fuel + 1, read => do
      match ← nextJoined? with
      | none => fail "EOF in backquote substitution"
      | some '`' => return read.reverse
      | some '\\' =>
          match ← next? with
          | none => fail "EOF in backquote substitution"
          | some character =>
              if ['\\', '`', '$'].contains character || (level.isDouble && character == '"') then
                takeBackquoted level fuel (character :: read)
              else takeBackquoted level fuel (character :: '\\' :: read)
      | some '\n' =>
          countLine
          takeBackquoted level fuel ('\n' :: read)
      | some character => takeBackquoted level fuel (character :: read)

/-- What is done with a parameter in braces, and whether a word follows. -/
inductive BracedUse where
  | plain
  | length
  | replace (colon : Bool) (kind : Char)
  | trim (atEnd longest : Bool)
  | unknown
deriving DecidableEq

/-- The use of a parameter, once the word that belongs to it has been read. -/
def BracedUse.withWord (word : Word) : BracedUse → ParameterUse
  | plain => .plain
  | length => .length
  | replace colon kind => .replace colon kind word
  | trim atEnd longest => .trim atEnd longest word
  | unknown => .unknown

/-- What is done with a parameter whose name has been read together with the character behind it. -/
def readUse (behind : Option Char) : Parser BracedUse := do
  let replacement (colon : Bool) (character : Option Char) : BracedUse :=
    match character with
    | some kind => if ['-', '+', '?', '='].contains kind then .replace colon kind else .unknown
    | none => .unknown
  match behind with
  | some '\x7d' => return .plain
  | some ':' => return replacement true (← nextJoined?)
  | some '%' | some '#' =>
      let next ← nextJoined?
      if next != behind then putBack next
      return .trim (behind == some '%') (next == behind)
  | other => return replacement false other

/-- Whether a character belongs to names or numbers. -/
def inName (character : Option Char) : Bool :=
  character.any continuesName

/-- The name of a parameter that starts with a letter, or the digits of one. -/
def takeName (first : Option Char) (manyDigits : Bool) : Parser (Octets × Option Char) := do
  match first with
  | some character =>
      if startsName character then
        let (name, behind) ← takeJoined continuesName stepLimit first []
        return (String.ofList name, behind)
      else if manyDigits then
        let (name, behind) ← takeJoined Char.isDigit stepLimit first []
        return (String.ofList name, behind)
      else return (String.singleton character, ← nextJoined?)
  | none => return ("", none)

/-- The name of a parameter behind an opening brace, and what is done with it. -/
def bracedStart : Parser (Octets × BracedUse) := do
  let first ← nextJoined?
  let goesOn (name : Octets) (behind : Option Char) : Parser (Octets × BracedUse) := do
    return (name, ← readUse behind)
  let isUnknown (behind : Option Char) : Parser (Octets × BracedUse) := do
    putBack behind
    return ("", .unknown)
  if inName first then
    let (name, behind) ← takeName first true
    goesOn name behind
  else if first == some '\x7d' then isUnknown first
  else
    let second ← nextJoined?
    if first == some '#' then
      if inName second then
        let (name, behind) ← takeName second false
        putBack behind
        return (name, if behind == some '\x7d' then .length else .unknown)
      else
        let third ← nextJoined?
        if second != some '\x7d' && third == some '\x7d' then
          putBack third
          if second.any isSpecialParameter then
            return (String.ofList second.toList, .length)
          else return ("", .unknown)
        else
          putBack third
          goesOn "#" second
    else if first.any isSpecialParameter then goesOn (String.ofList first.toList) second
    else isUnknown second

/-- Complete a redirection whose first character has been read. -/
def redirectionToken (descriptor : Option Nat) (first : Char) : Parser Token := do
  let standard := descriptor.getD (if first == '>' then 1 else 0)
  let plain (kind : RedirectionKind) : RedirectionStart := .plain standard kind
  let next ← nextJoined?
  let start ← match first, next with
    | '>', some '>' => pure (plain .append)
    | '>', some '|' => pure (plain .overwrite)
    | _, some '&' => pure (plain .duplicate)
    | '>', other =>
        putBack other
        pure (plain .output)
    | _, some '>' => pure (plain .readWrite)
    | _, some '<' =>
        let third ← nextJoined?
        if third == some '-' then pure (.here standard true)
        else
          putBack third
          pure (.here standard false)
    | _, other =>
        putBack other
        pure (plain .input)
  modify fun reading => { reading with redirection := start }
  found .redirection

/-- The descriptor that a word in front of a redirection is, if it is one. -/
def descriptorOf? : Word → Option (Option Nat)
  | [] => some none
  | [.text false content] =>
      match content.toList with
      | [digit] => if digit.isDigit then some (some (digit.toNat - '0'.toNat)) else none
      | _ => none
  | _ => none

/-- Whether a word has quotes. -/
def hasQuotes (word : Word) : Bool :=
  word.any fun
    | .mark | .text true _ => true
    | _ => false

/-- The text of a word without its quotes. -/
def unquoted (word : Word) : Octets :=
  String.join (word.map fun
    | .text _ content => content
    | _ => "")

/-- The text that an alias stands for, unless it is being read. -/
def aliasText? (name : Octets) : Parser (Option Octets) := do
  let reading ← get
  let source := reading.source
  if source.finished.contains name || source.replacements.any (·.name == name) then return none
  else return reading.aliases.lookup name

/-- Read the text of an alias in its place, in front of the characters that were put back. -/
def replaceAlias (name text : Octets) : Parser Unit :=
  if text.isEmpty then pure ()
  else
    let characters := text.toList
    let endsWithBlank := characters.getLast?.any fun last => last == ' ' || last == '\t'
    let replacement : Replacement := ⟨characters, name, endsWithBlank⟩
    modifySource fun source =>
      match source.replacements with
      | [] => { source with
          replacements := [replacement], rest := source.returned ++ source.rest, returned := [] }
      | outer :: others => { source with
          replacements :=
            replacement :: { outer with rest := source.returned ++ outer.rest } :: others
          returned := [] }

/-- The words of a command before they are sorted out. -/
structure Parts where
  assignments : List (Octets × Word) := []
  words : List Word := []
  redirections : List Redirection := []

/-- Put two commands one after the other, if there are two. -/
def joinCommands (left : Option Command) (right : Command) : Command :=
  match left with
  | none => right
  | some first => .sequence first right

/-- A command that is not waited for. -/
def inBackground : Command → Command
  | .pipeline _ stages => .pipeline true stages
  | .redirected line body redirections => .subshell line true body redirections
  | command => .subshell 0 true (some command) []

mutual

/-- The parts of a word from a character on, and the character that ends it. -/
def pieces : Nat → Level → Option Char → List Piece → Parser (Word × Option Char)
  | 0, _, character, read => pure (read.reverse, character)
  | fuel + 1, level, character, read => do
      let more (level : Level) (read : List Piece) : Parser (Word × Option Char) := do
        pieces fuel level (← nextIn level) read
      let literal (character : Char) : Parser (Word × Option Char) :=
        more level (addCharacter level.isQuoted character read)
      match character with
      | none =>
          if level.quoting == .arithmetic then fail "Missing '))'"
          if level.quoting != .plain && level.here.isNone then
            fail "Unterminated quoted string"
          if level.inBraces then fail "Missing '\x7d'"
          return (read.reverse, none)
      | some '\n' =>
          if level.quoting == .plain && !level.inBraces then return (read.reverse, character)
          else
            countLine
            let next ← nextIn level
            pieces fuel level (← lineStart level next) (addCharacter level.isQuoted '\n' read)
      | some character =>
          match level.quoting, character with
          | .single, '\'' =>
              if level.here.isSome && !level.inBraces then literal character
              else more { level with quoting := .plain } (addMark level read)
          | .single, _ => literal character
          | _, '\\' =>
              match ← next? with
              | none => more level (addCharacter true '\\' read)
              | some next =>
                  let isTaken := ['\\', '`', '$'].contains next ||
                    (next == '"' && !(level.here.isSome && !level.inBraces)) ||
                    (next == '\x7d' && level.inBraces)
                  let kept := if level.isDouble && !isTaken then addCharacter true '\\' read
                    else read
                  more level (addCharacter true next kept)
          | .plain, '\'' => more { level with quoting := .single } (addMark level read)
          | .plain, '"' =>
              more { level with
                quoting := .double
                innerQuotes := if level.inBraces then !level.innerQuotes else level.innerQuotes }
                (addMark level read)
          | .double, '"' =>
              if level.here.isSome && !level.inBraces then literal character
              else
                more { level with
                  quoting := if level.keepsQuotes then .double else .plain
                  innerQuotes :=
                    if level.inBraces then !level.innerQuotes else level.innerQuotes }
                  (addMark level read)
          | _, '$' =>
              let piece ← dollar fuel level
              match piece with
              | .text _ content => more level (content.toList.foldl
                  (fun read character => addCharacter level.isQuoted character read) read)
              | _ => more level (piece :: read)
          | _, '`' =>
              if (← get).attention.delimiter then literal character
              else
                let body ← backquoted fuel level
                more level (.substitution level.isQuoted body :: read)
          | _, '\x7d' =>
              if level.inBraces && !level.innerQuotes then return (read.reverse, some character)
              else literal character
          | .arithmetic, '(' =>
              more { level with parentheses := level.parentheses + 1 }
                (addCharacter false character read)
          | .arithmetic, ')' =>
              if 0 < level.parentheses then
                more { level with parentheses := level.parentheses - 1 }
                  (addCharacter false character read)
              else
                match ← nextJoined? with
                | some ')' => return (read.reverse, some character)
                | other =>
                    putBack other
                    literal character
          | .plain, _ =>
              if endsWord character && !level.inBraces then return (read.reverse, some character)
              else literal character
          | _, _ => literal character

/-- What follows a dollar sign. -/
def dollar : Nat → Level → Parser Piece
  | 0, _ => pure (.text false "$")
  | fuel + 1, level => do
      let alone (next : Option Char) : Parser Piece := do
        putBack next
        return .text false "$"
      let quoted := level.isQuoted
      let next ← nextJoined?
      if (← get).attention.delimiter then alone next
      else
        match next with
        | some '(' =>
            match ← nextJoined? with
            | some '(' =>
                let inner : Level := { quoting := .arithmetic, here := level.here }
                let (expression, _) ← pieces fuel inner (← nextJoined?) []
                return .arithmetic quoted expression
            | other =>
                putBack other
                return .substitution quoted (← substitution fuel)
        | some '\x7b' =>
            let (name, use) ← bracedStart
            if use == .plain then return .parameter quoted name .plain
            else
              let quoting := match use, level.quoting with
                | .trim .., _ => .plain
                | _, .arithmetic => .double
                | _, other => other
              let inner : Level :=
                { quoting, inBraces := true, keepsQuotes := quoting == .double, here := level.here }
              let (word, _) ← pieces fuel inner (← nextIn inner) []
              return .parameter quoted name (use.withWord word)
        | some character =>
            if startsName character || isSpecialParameter character then
              if continuesName character then
                let (name, behind) ← takeName next false
                putBack behind
                return .parameter quoted name .plain
              else return .parameter quoted (String.singleton character) .plain
            else alone next
        | none => alone next

/-- A command whose output is put into a word, behind the opening parenthesis. -/
def substitution : Nat → Parser (Option Command)
  | 0 => fail "end of file unexpected"
  | fuel + 1 => do
      let outer := (← get).requests
      modify fun reading => { reading with requests := [] }
      let body ← commandList fuel false true none
      let token ← readToken fuel
      if token != .closeParenthesis then unexpectedFor .closeParenthesis
      let source := (← get).source
      modifySource fun _ => { rest := [] }
      hereDocuments fuel
      modify fun reading => { reading with requests := outer, source }
      return body

/-- A command between backquotes, behind the first one. It is a script of its own. -/
def backquoted : Nat → Level → Parser (Option Command)
  | 0, _ => fail "EOF in backquote substitution"
  | fuel + 1, level => do
      let script ← takeBackquoted level fuel []
      let outer ← get
      set { outer with source := { rest := script }, requests := [] }
      let body ← commandList fuel false true none
      hereDocuments fuel
      modify fun reading => { reading with
        source := outer.source, requests := outer.requests, isReturned := false
        attention := outer.attention }
      return body

/-- Read the texts that start behind the current line. -/
def hereDocuments : Nat → Parser Unit
  | 0 => pure ()
  | fuel + 1 => do
      let requests := (← get).requests
      modify fun reading => { reading with requests := [] }
      requests.forM fun request => do
        let level : Level :=
          { quoting := if request.literal then .single else .double, here := some request }
        let first ← nextIn level
        let (word, _) ← pieces fuel level (← lineStart level first) []
        modify fun reading => { reading with
          documents := (request.document, word) :: reading.documents }

/-- Read a token, without regard to words with a meaning of their own. -/
def plainToken : Nat → Parser Token
  | 0 => found .endOfFile
  | fuel + 1 => do
      if (← get).isReturned then
        modify fun reading => { reading with isReturned := false }
        return (← get).lastToken
      else
        let either (character : Char) (double single : Token) : Parser Token := do
          match ← nextJoined? with
          | some next =>
              if next == character then found double
              else
                putBack (some next)
                found single
          | none => found single
        let first ← nextJoined?
        match first with
        | none => found .endOfFile
        | some ' ' | some '\t' => plainToken fuel
        | some '#' =>
            skipComment stepLimit
            plainToken fuel
        | some '\n' =>
            countLine
            found .newline
        | some '&' => either '&' .andIf .ampersand
        | some '|' => either '|' .orIf .bar
        | some ';' => either ';' .endOfClause .semicolon
        | some '(' => found .openParenthesis
        | some ')' => found .closeParenthesis
        | some _ =>
            let (word, behind) ← pieces fuel {} first []
            match behind, descriptorOf? word with
            | some '<', some descriptor => redirectionToken descriptor '<'
            | some '>', some descriptor => redirectionToken descriptor '>'
            | _, _ =>
                putBack behind
                modify fun reading => { reading with word, isQuoted := hasQuotes word }
                found .word

/-- Pass over line ends behind a token. -/
def skipLineEnds : Nat → Token → Parser Token
  | 0, token => pure token
  | fuel + 1, token => do
      if token == .newline then
        hereDocuments fuel
        attend {}
        skipLineEnds fuel (← plainToken fuel)
      else return token

/-- Read a token. -/
def readToken : Nat → Parser Token
  | 0 => found .endOfFile
  | fuel + 1 => do
      let wanted := (← get).attention
      let first ← plainToken fuel
      let token ← if wanted.lineEnds then skipLineEnds fuel first else pure first
      let reading ← get
      let reserved := wanted.reserved || reading.attention.reserved
      let aliases := wanted.aliases || reading.attention.aliases
      attend {}
      match token, reading.word.bare? with
      | .word, some word =>
          if reserved && reservedWords.contains word then found (.reserved word)
          else if aliases then
            match ← aliasText? word with
            | some text =>
                replaceAlias word text
                attend { wanted with reserved, aliases }
                readToken fuel
            | none => return token
          else return token
      | _, _ => return token

/-- The commands of a list. With `oneLine` it ends with the line; with `mayEnd` it may end at once.
-/
def commandList : Nat → Bool → Bool → Option Command → Parser (Option Command)
  | 0, _, _, left => pure left
  | fuel + 1, oneLine, mayEnd, left => do
      attend { lineEnds := !oneLine, reserved := true, aliases := true }
      let atEnd : Parser (Option Command) := do
        hereDocuments fuel
        modify fun reading => { reading with isReturned := true, lastToken := .endOfFile }
        return left
      let first ← readToken fuel
      if first == .newline then
        hereDocuments fuel
        return left
      else if first == .endOfFile then atEnd
      else
        returnToken
        if mayEnd && !oneLine && first.endsList then return left
        else
          let command ← connected fuel
          let token ← readToken fuel
          let command := if token == .ampersand then inBackground command else command
          let joined := joinCommands left command
          match token with
          | .endOfFile =>
              hereDocuments fuel
              modify fun reading => { reading with isReturned := true, lastToken := .endOfFile }
              return some joined
          | .newline =>
              returnToken
              commandList fuel oneLine true (some joined)
          | .ampersand | .semicolon => commandList fuel oneLine true (some joined)
          | _ =>
              if oneLine then unexpected
              returnToken
              return some joined

/-- Pipelines joined by what one does when the other succeeds or fails. -/
def connected : Nat → Parser Command
  | 0 => unexpected
  | fuel + 1 => do connectedTail fuel (← pipeline fuel)

/-- What follows the first pipeline of some that are joined. -/
def connectedTail : Nat → Command → Parser Command
  | 0, left => pure left
  | fuel + 1, left => do
      let token ← readToken fuel
      if token == .andIf || token == .orIf then
        attend { lineEnds := true, reserved := true, aliases := true }
        connectedTail fuel (.connected (token == .andIf) left (← pipeline fuel))
      else
        returnToken
        return left

/-- A pipeline. -/
def pipeline : Nat → Parser Command
  | 0 => unexpected
  | fuel + 1 => do
      let isNegated := (← readToken fuel) == .reserved "!"
      if isNegated then attend { reserved := true, aliases := true } else returnToken
      let first ← command fuel
      let stages ← pipelineTail fuel [first]
      let whole := match stages with
        | [only] => only
        | _ => .pipeline false stages
      return if isNegated then .negation whole else whole

/-- The stages of a pipeline behind those that have been read, of which the last one comes first. -/
def pipelineTail : Nat → List Command → Parser (List Command)
  | 0, stages => pure stages.reverse
  | fuel + 1, stages => do
      if (← readToken fuel) == .bar then
        attend { lineEnds := true, reserved := true, aliases := true }
        pipelineTail fuel ((← command fuel) :: stages)
      else
        returnToken
        return stages.reverse

/-- A word that must come next. -/
def expect : Nat → Token → Parser Unit
  | 0, token => unexpectedFor token
  | fuel + 1, token => do
      if (← readToken fuel) != token then unexpectedFor token

/-- What follows the first word of a conditional, behind its condition. -/
def branchTail : Nat → Parser Command
  | 0 => unexpected
  | fuel + 1 => do
      let condition ← commandList fuel false false none
      expect fuel (.reserved "then")
      let body ← commandList fuel false false none
      let token ← readToken fuel
      if token == .reserved "elif" then
        return .branch condition body (some (← branchTail fuel))
      else if token == .reserved "else" then
        return .branch condition body (← commandList fuel false false none)
      else
        returnToken
        return .branch condition body none

/-- The words of a loop over words, of which the last one comes first. -/
def loopWords : Nat → List Word → Parser (List Word)
  | 0, words => pure words.reverse
  | fuel + 1, words => do
      match ← readToken fuel with
      | .word => loopWords fuel ((← get).word :: words)
      | .newline | .semicolon => return words.reverse
      | _ => unexpected

/-- The patterns of a clause, from the word that was read last. -/
def patterns : Nat → List Word → Parser (List Word)
  | 0, words => pure words.reverse
  | fuel + 1, words => do
      let words := (← get).word :: words
      if (← readToken fuel) == .bar then
        let _ ← readToken fuel
        patterns fuel words
      else if (← get).lastToken == .closeParenthesis then return words.reverse
      else unexpectedFor .closeParenthesis

/-- The clauses of a choice, of which the last one comes first. -/
def choiceClauses : Nat → List (List Word × Option Command) →
    Parser (List (List Word × Option Command))
  | 0, clauses => pure clauses.reverse
  | fuel + 1, clauses => do
      attend { lineEnds := true, reserved := true }
      let token ← readToken fuel
      if token == .reserved "esac" then return clauses.reverse
      else
        if token == .openParenthesis then
          let _ ← readToken fuel
        let alternatives ← patterns fuel []
        let body ← commandList fuel false true none
        let clauses := (alternatives, body) :: clauses
        attend { lineEnds := true, reserved := true }
        match ← readToken fuel with
        | .reserved "esac" => return clauses.reverse
        | .endOfClause => choiceClauses fuel clauses
        | _ => unexpectedFor .endOfClause

/-- A command. -/
def command : Nat → Parser Command
  | 0 => unexpected
  | fuel + 1 => do
      let line := (← get).source.line
      match ← readToken fuel with
      | .word | .redirection =>
          returnToken
          simpleCommand fuel (← get).source.line {}
      | .reserved "if" =>
          let body ← branchTail fuel
          expect fuel (.reserved "fi")
          withRedirections fuel line (some body)
      | .reserved "while" => loop fuel line false
      | .reserved "until" => loop fuel line true
      | .reserved "for" =>
          let token ← readToken fuel
          let reading ← get
          match token, reading.word.bare? with
          | .word, some name =>
              if !isName name then fail "Bad for loop variable"
              attend { lineEnds := true, reserved := true, aliases := true }
              let words ←
                if (← readToken fuel) == .reserved "in" then loopWords fuel []
                else
                  if (← get).lastToken != .semicolon then returnToken
                  pure [[Piece.parameter true "@" .plain]]
              attend { lineEnds := true, reserved := true, aliases := true }
              expect fuel (.reserved "do")
              let body ← commandList fuel false false none
              expect fuel (.reserved "done")
              withRedirections fuel line (some (.each line name words body))
          | _, _ => fail "Bad for loop variable"
      | .reserved "case" =>
          expect fuel .word
          let subject := (← get).word
          attend { lineEnds := true, reserved := true, aliases := true }
          expect fuel (.reserved "in")
          let clauses ← choiceClauses fuel []
          withRedirections fuel line (some (.choose line subject clauses))
      | .openParenthesis =>
          let body ← commandList fuel false false none
          expect fuel .closeParenthesis
          match ← redirections fuel [] with
          | [] => return .subshell line false body []
          | targets => return .subshell line false body targets
      | .reserved "\x7b" =>
          let body ← commandList fuel false false none
          expect fuel (.reserved "\x7d")
          withRedirections fuel line body
      | _ => unexpected

/-- A loop behind its first word. -/
def loop : Nat → Nat → Bool → Parser Command
  | 0, _, _ => unexpected
  | fuel + 1, line, untilSuccess => do
      let condition ← commandList fuel false false none
      expect fuel (.reserved "do")
      let body ← commandList fuel false false none
      expect fuel (.reserved "done")
      withRedirections fuel line (some (.loop untilSuccess condition body))

/-- A compound command with the redirections that follow it. -/
def withRedirections : Nat → Nat → Option Command → Parser Command
  | 0, _, _ => unexpected
  | fuel + 1, line, body => do
      match ← redirections fuel [] with
      | [] => return body.getD (.redirected line none [])
      | targets => return .redirected line body targets

/-- The redirections that follow a compound command, of which the last one comes first. -/
def redirections : Nat → List Redirection → Parser (List Redirection)
  | 0, targets => pure targets.reverse
  | fuel + 1, targets => do
      attend { reserved := true, aliases := true }
      if (← readToken fuel) == .redirection then
        redirections fuel ((← redirectionTarget fuel) :: targets)
      else
        returnToken
        return targets.reverse

/-- The target of the redirection that was read last. -/
def redirectionTarget : Nat → Parser Redirection
  | 0 => unexpected
  | fuel + 1 => do
      match (← get).redirection with
      | .plain descriptor kind =>
          if (← readToken fuel) != .word then unexpected
          return .mk descriptor kind (← get).word
      | .here descriptor stripTabs =>
          attend { delimiter := true }
          if (← readToken fuel) != .word then unexpected
          let reading ← get
          let request : HereRequest :=
            { document := reading.nextDocument, delimiter := unquoted reading.word, stripTabs
              literal := hasQuotes reading.word }
          set { reading with
            requests := reading.requests ++ [request], nextDocument := reading.nextDocument + 1 }
          return .here descriptor request.document

/-- The parts of a simple command, or the definition of a function. -/
def simpleCommand : Nat → Nat → Parts → Parser Command
  | 0, line, parts =>
      pure (.simple line parts.assignments.reverse parts.words.reverse parts.redirections.reverse)
  | fuel + 1, line, parts => do
      let complete : Parser Command := do
        returnToken
        return .simple line parts.assignments.reverse parts.words.reverse
          parts.redirections.reverse
      attend { aliases := parts.words.isEmpty }
      match ← readToken fuel with
      | .word =>
          let word := (← get).word
          match parts.words, word.assignment? with
          | [], some assignment =>
              simpleCommand fuel line
                { parts with assignments := assignment :: parts.assignments }
          | _, _ => simpleCommand fuel line { parts with words := word :: parts.words }
      | .redirection =>
          let target ← redirectionTarget fuel
          simpleCommand fuel line { parts with redirections := target :: parts.redirections }
      | .openParenthesis =>
          match parts.words, parts.assignments, parts.redirections with
          | [word], [], [] =>
              expect fuel .closeParenthesis
              match word.bare? with
              | some name =>
                  if !isName name || specialBuiltins.contains name then
                    fail "Bad function name"
                  attend { lineEnds := true, reserved := true, aliases := true }
                  return .define name (some (← command fuel))
              | none => fail "Bad function name"
          | _, _, _ => complete
      | _ => complete

end

/-- The word that a text is which stands between double quotes, with quotes in it as they are. -/
def quotedWord? (text : Octets) : Option Word :=
  let level : Level :=
    { quoting := .double
      here := some { document := 0, delimiter := "\x00", stripTabs := false, literal := false } }
  let parser : Parser Word := do return (← pieces stepLimit level (← nextJoined?) []).1
  match parser { source := { rest := text.toList } } with
  | .ok (word, _) => some word
  | .error _ => none

/-- What a line of a script holds. -/
inductive ScriptLine where
  | endOfScript
  | blank
  | command (value : Command)

/-- Read the commands of the next line. -/
def nextLine (reading : Reading) : Except SyntaxError (ScriptLine × Reading) :=
  let fresh := { reading with isReturned := false, attention := {}, requests := [] }
  match commandList stepLimit true false none fresh with
  | .error error => .error error
  | .ok (some command, after) => .ok (.command command, after)
  | .ok (none, after) =>
      .ok (if after.lastToken == .endOfFile then .endOfScript else .blank, after)

end QueryFoundry.Sandbox.Shell
