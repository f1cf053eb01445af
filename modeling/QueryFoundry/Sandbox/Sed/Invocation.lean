import QueryFoundry.Sandbox.Sed.Editor
import QueryFoundry.Sandbox.Sed.Reader
import QueryFoundry.Sandbox.Utility

/-!
# The stream editor as a program

Its options, and where its script comes from.
-/

namespace QueryFoundry.Sandbox.Sed

open Text (Octets)

/-- The options of the stream editor. -/
def optionTable : OptionTable where
  letters := [('b', "binary", .never), ('s', "separate", .never), ('n', "quiet", .never),
    ('r', "extended", .never), ('z', "zero", .never), ('u', "unbuffered", .never),
    ('E', "extended", .never), ('e', "expression", .always), ('f', "file", .always),
    ('l', "length", .always), ('i', "in place", .perhaps), ('V', "ignored", .always)]
  words := [("binary", "binary", .never), ("regexp-extended", "extended", .never),
    ("debug", "debug", .never), ("in-place", "in place", .perhaps),
    ("expression", "expression", .always), ("file", "file", .always),
    ("line-length", "length", .always), ("null-data", "zero", .never),
    ("zero-terminated", "zero", .never), ("quiet", "quiet", .never), ("posix", "strict", .never),
    ("silent", "quiet", .never), ("sandbox", "sandbox", .never), ("separate", "separate", .never),
    ("unbuffered", "unbuffered", .never), ("version", "version", .never), ("help", "help", .never),
    ("follow-symlinks", "links", .never)]

/-- The text that tells how the stream editor is used. -/
def usage : Octets := "Usage: sed [OPTION]... \x7bscript-only-if-no-other-script\x7d [input-file]...

  -n, --quiet, --silent
                 suppress automatic printing of pattern space
      --debug
                 annotate program execution
  -e script, --expression=script
                 add the script to the commands to be executed
  -f script-file, --file=script-file
                 add the contents of script-file to the commands to be executed
  --follow-symlinks
                 follow symlinks when processing in place
  -i[SUFFIX], --in-place[=SUFFIX]
                 edit files in place (makes backup if SUFFIX supplied)
  -l N, --line-length=N
                 specify the desired line-wrap length for the \x60l' command
  --posix
                 disable all GNU extensions.
  -E, -r, --regexp-extended
                 use extended regular expressions in the script
                 (for portability use POSIX -E).
  -s, --separate
                 consider files as separate rather than as a single,
                 continuous long stream.
      --sandbox
                 operate in sandbox mode (disable e/r/w commands).
  -u, --unbuffered
                 load minimal amounts of data from the input files and flush
                 the output buffers more often
  -z, --null-data
                 separate lines by NUL characters
      --help     display this help and exit
      --version  output version information and exit

If no -e, --expression, -f, or --file option is given, then the first
non-option argument is taken as the sed script to interpret.  All
remaining arguments are names of input files; if no input files are
specified, then the standard input is read.
"

/-- What was learnt from the options that were read. -/
structure Request where
  settings : Settings := {}
  reading : Reading := {}
  quiet : Bool := false
  hasScript : Bool := false

/-- The end of the program instead of a result: a message, whether the usage is told, and a code. -/
structure Refusal where
  message : Octets
  tellsUsage : Bool := false
  code : UInt8 := 1
  /-- The files that are created before that. -/
  written : List Octets := []

/-- Read a piece of the script from a file, or tell why that fails. A directory holds nothing. -/
def chunkOfFile (name : Octets) : Program (Except Refusal Chunk) := do
  let content ← if name == "-" then Program.readAll 0 Program.readLimit [] else Program.readFile name
  match content with
  | .ok text =>
      let characters := text.toList
      let ended := if characters.getLast? == some '\n' then characters.dropLast else characters
      return .ok { file := some name, text := ended }
  | .error .isADirectory => return .ok { file := some name, text := [] }
  | .error error =>
      return .error { message := "couldn't open file " ++ name ++ ": " ++ Utility.errorText error
                      code := 4 }

/-- The refusal of a script. -/
def refusalOf (problem : Problem) : Refusal :=
  { message := problem.message, code := problem.code, written := problem.written }

/-- Let a piece be part of the script. -/
def Request.addChunk (request : Request) (chunk : Chunk) : Except Refusal Request :=
  match request.reading.add chunk with
  | .ok reading => .ok { request with reading, hasScript := true }
  | .error problem => .error (refusalOf problem)

/-- Let an option take effect. -/
def Request.apply (request : Request) (name : Octets) (argument : Option Octets) :
    Program (Except Refusal Request) := do
  let settings := request.settings
  let set (settings : Settings) : Except Refusal Request := .ok { request with settings }
  match name with
  | "expression" => return request.addChunk { text := (argument.getD "").toList }
  | "file" =>
      match ← chunkOfFile (argument.getD "") with
      | .ok chunk => return request.addChunk chunk
      | .error refusal => return .error refusal
  | "extended" =>
      return .ok { request with reading := { request.reading with extended := true } }
  | "sandbox" =>
      return .ok { request with reading := { request.reading with sandboxed := true } }
  | "quiet" => return .ok { request with quiet := true }
  | "separate" => return set { settings with separate := true }
  | "in place" => return set { settings with separate := true, inPlace := some (argument.getD "") }
  | "zero" => return set { settings with zeroEnded := true }
  | "strict" => return set { settings with strict := true }
  | "unbuffered" => return set { settings with unbuffered := true }
  | "length" =>
      let digits := (argument.getD "").toList.takeWhile Char.isDigit
      return set { settings with lineLength := (String.ofList digits).toNat?.getD 0 }
  | _ => return .ok request

/-- Let options take effect one after the other. One that asks for information ends the program. -/
def Request.applyAll : Request → List (Octets × Option Octets) → Program (Except Refusal Request)
  | request, [] => pure (.ok request)
  | request, (name, argument) :: rest => do
      match name with
      | "help" =>
          Program.print usage
          Program.exit 0
      | "version" =>
          Program.print "sed (GNU sed) 4.9\n"
          Program.exit 0
      | _ =>
          match ← request.apply name argument with
          | .ok changed => changed.applyAll rest
          | .error refusal => return .error refusal

/-- What the arguments ask for, and the files that are edited. -/
def requestOf (arguments : List Octets) (environment : Environment) :
    Program (Except Refusal (Request × List Octets)) := do
  let read := optionTable.read arguments
  let start : Request := { settings := { environment } }
  match ← start.applyAll read.options with
  | .error refusal => return .error refusal
  | .ok request =>
      match read.problem, request.hasScript, read.operands with
      | some problem, _, _ =>
          return .error { message := problem.message, tellsUsage := true
                          written := request.reading.written }
      | none, true, files => return .ok (request, files)
      | none, false, [] => return .error { message := "", tellsUsage := true }
      | none, false, script :: files =>
          return (request.addChunk { text := script.toList }).map fun changed => (changed, files)

/-- Create files; the result tells why that fails. -/
def createAll : List Octets → Program (Option Octets)
  | [] => pure none
  | path :: rest => do
      match ← Program.writeFile path "" with
      | .ok () => createAll rest
      | .error error =>
          return some ("couldn't open file " ++ path ++ ": " ++ Utility.errorText error)

/-- Edit files or the input line by line. -/
def program : Utility := fun arguments environment => do
  let refuse (refusal : Refusal) : Program UInt8 := do
    match ← createAll refusal.written with
    | some message =>
        Utility.complain "sed" message
        return 4
    | none =>
        if !refusal.message.isEmpty then Utility.complain "sed" refusal.message
        if refusal.tellsUsage then Program.complain usage
        return refusal.code
  match ← requestOf arguments environment with
  | .error refusal => refuse refusal
  | .ok (request, files) =>
      match request.reading.finish with
      | .error problem => refuse (refusalOf problem)
      | .ok script =>
          edit request.settings { script with quiet := script.quiet || request.quiet }
            (if files.isEmpty then ["-"] else files)

end QueryFoundry.Sandbox.Sed
