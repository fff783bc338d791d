import FieldQuery.Check

/-!
# The command line

The arguments of the program name a command.  `check` takes a query and options: a long
one as `--input text` or `--input=text`, a short one also as `-itext`, and several short
ones in one argument.  No option may be given twice, and none is read behind `--`.  Help
that is asked for is given at once, whatever may be wrong further on.
-/

namespace FieldQuery

/-- What there is help about. -/
inductive Topic where
  /-- The program. -/
  | program
  /-- The command that checks a query. -/
  | check
  /-- The command that gives help. -/
  | help
  deriving DecidableEq, Repr

/-- What the program is to do. -/
inductive Command where
  /-- Check a query, and set the output out on several lines if that is wanted. -/
  | check (check : Check) (pretty : Bool)
  /-- Give help. -/
  | help (topic : Topic)
  /-- Give the version. -/
  | version

namespace CommandLine

/-! ## Options -/

/-- The options that stand for themselves. -/
inductive Switch where
  /-- Set the output out on several lines. -/
  | pretty
  /-- Look at the syntax only. -/
  | syntaxOnly
  /-- Take a field without a value for an error. -/
  | strict
  /-- Tell which part of the query decided. -/
  | trace
  deriving DecidableEq, Repr

/-- The options that take a text. -/
inductive Setting where
  /-- The document. -/
  | input
  /-- The parameters. -/
  | params
  deriving DecidableEq, Repr

/-- The options of a check. -/
inductive Choice where
  /-- An option that stands for itself. -/
  | switch (s : Switch)
  /-- An option that takes a text. -/
  | setting (s : Setting)
  /-- Help. -/
  | help
  deriving DecidableEq, Repr

/-- The option with a long name. -/
def longOption? : String → Option Choice
  | "input" => some (.setting .input)
  | "params" => some (.setting .params)
  | "pretty" => some (.switch .pretty)
  | "syntax-only" => some (.switch .syntaxOnly)
  | "strict" => some (.switch .strict)
  | "trace" => some (.switch .trace)
  | "help" => some .help
  | _ => none

/-- The option with a name of one letter. -/
def shortOption? : Char → Option Choice
  | 'i' => some (.setting .input)
  | 'p' => some (.switch .pretty)
  | 'h' => some .help
  | _ => none

/-! ## Arguments -/

/-- The forms of an argument. -/
inductive Argument where
  /-- `--` -/
  | endOfOptions
  /-- `--name` or `--name=text` -/
  | long (name : String) (text : Option String)
  /-- `-letters` -/
  | short (letters : List Char)
  /-- Anything else, also a lone `-`. -/
  | plain (text : String)
  deriving DecidableEq, Repr

/-- The text behind an equals sign at the beginning of some characters. -/
def behindEqual? : List Char → Option String
  | '=' :: cs => some (String.ofList cs)
  | _ => none

/-- The form of an argument. -/
def Argument.ofText (arg : String) : Argument :=
  match arg.toList with
  | ['-', '-'] => .endOfOptions
  | '-' :: '-' :: cs =>
    let name := cs.takeWhile (· ≠ '=')
    .long (String.ofList name) (behindEqual? (cs.drop name.length))
  | '-' :: c :: cs => .short (c :: cs)
  | _ => .plain arg

/-- What the arguments of a check have said so far. -/
structure Draft where
  /-- The query. -/
  query : Option String
  /-- The document. -/
  input : Option String
  /-- The parameters. -/
  params : Option String
  /-- The options that stand for themselves. -/
  switches : List Switch

namespace Draft

/-- No argument was read. -/
def empty : Draft := ⟨none, none, none, []⟩

/-- Adds an option that stands for itself, unless it was given before. -/
def turnOn? (draft : Draft) (s : Switch) : Option Draft :=
  if s ∈ draft.switches then none else some { draft with switches := s :: draft.switches }

/-- Adds the text of an option, unless it was given before. -/
def assign? (draft : Draft) (s : Setting) (text : String) : Option Draft :=
  match s, draft.input, draft.params with
  | .input, none, _ => some { draft with input := some text }
  | .params, _, none => some { draft with params := some text }
  | _, _, _ => none

/-- Adds the query, unless it was given before. -/
def ask? (draft : Draft) (query : String) : Option Draft :=
  match draft.query with
  | none => some { draft with query := some query }
  | some _ => none

/-- The command, unless the query is missing. -/
def command? (draft : Draft) : Option Command := do
  let query ← draft.query
  let isOn (s : Switch) : Bool := draft.switches.contains s
  let check : Check :=
    { query, input := draft.input, params := draft.params, syntaxOnly := isOn .syntaxOnly,
      strict := isOn .strict, trace := isOn .trace }
  return .check check (isOn .pretty)

end Draft

/-- How to go on behind an argument. -/
inductive Next where
  /-- With the next argument. -/
  | more (draft : Draft)
  /-- With the next argument, which is the text of an option. -/
  | text (s : Setting) (draft : Draft)
  /-- Not at all: help was asked for. -/
  | help

/-- Reads one option, given the text that is joined to it. -/
def readLong (draft : Draft) (name : String) (text : Option String) : Option Next := do
  match ← longOption? name, text with
  | .setting s, some text => return .more (← draft.assign? s text)
  | .setting s, none => return .text s draft
  | .switch s, none => return .more (← draft.turnOn? s)
  | .help, none => return .help
  | _, some _ => none

/-- Reads the short options of one argument.  What is behind one that takes a text is
its text. -/
def readShort (draft : Draft) : List Char → Option Next
  | [] => some (.more draft)
  | c :: cs =>
    match shortOption? c with
    | none => none
    | some .help => some .help
    | some (.switch s) => do readShort (← draft.turnOn? s) cs
    | some (.setting s) => do
      if cs.isEmpty then return .text s draft
      else return .more (← draft.assign? s ((behindEqual? cs).getD (String.ofList cs)))

/-- Reads one argument. -/
def readArgument (draft : Draft) (arg : String) : Option Next :=
  match Argument.ofText arg with
  | .plain text => do return .more (← draft.ask? text)
  | .long name text => readLong draft name text
  | .short letters => readShort draft letters
  | .endOfOptions => some (.more draft)

/-- Reads arguments none of which is an option. -/
def readPlain (draft : Draft) : List String → Option Command
  | [] => draft.command?
  | arg :: rest => do readPlain (← draft.ask? arg) rest

/-- Reads the arguments of a check. -/
def readCheck (draft : Draft) : List String → Option Command
  | [] => draft.command?
  | "--" :: rest => readPlain draft rest
  | arg :: rest =>
    match readArgument draft arg with
    | none => none
    | some .help => some (.help .check)
    | some (.more draft) => readCheck draft rest
    | some (.text s draft) =>
      match rest with
      | [] => none
      | value :: rest =>
        match Argument.ofText value with
        | .plain text => do readCheck (← draft.assign? s text) rest
        | _ => none

/-- The topic that help is asked about. -/
def topic? : List String → Option Topic
  | [] => some .program
  | ["check"] => some .check
  | ["help"] => some .help
  | _ => none

/-- The command that arguments name, or nothing where they name none. -/
def command? : List String → Option Command
  | [] => none
  | "check" :: rest => readCheck .empty rest
  | "help" :: rest => (topic? rest).map .help
  | arg :: _ =>
    match Argument.ofText arg with
    | .long "help" none => some (.help .program)
    | .long "version" none => some .version
    | .short ('h' :: _) => some (.help .program)
    | .short ('V' :: _) => some .version
    | _ => none

end CommandLine

/-! ## Carrying commands out -/

/-- The text of the help on a topic. -/
def Topic.text : Topic → String
  | .program =>
    "EFILTER - A query language for filtering forensic objects\n\n" ++
    "Usage: efilter <COMMAND>\n\n" ++
    "Commands:\n" ++
    "  check  Validate and execute a query\n" ++
    "  help   Print this message or the help of the given subcommand(s)\n\n" ++
    "Options:\n" ++
    "  -h, --help     Print help\n" ++
    "  -V, --version  Print version\n"
  | .check =>
    "Validate and execute a query\n\n" ++
    "Usage: efilter check [OPTIONS] <QUERY>\n\n" ++
    "Arguments:\n" ++
    "  <QUERY>  The query to execute\n\n" ++
    "Options:\n" ++
    "  -i, --input <INPUT>    JSON input (reads from stdin if not provided)\n" ++
    "      --params <PARAMS>  Template parameters as a JSON array (for `\x7b\x7d`) or object " ++
    "(for `\x7bname\x7d`)\n" ++
    "  -p, --pretty           Pretty-print the output\n" ++
    "      --syntax-only      Only validate syntax, don't execute\n" ++
    "      --strict           Treat unresolved fields as errors\n" ++
    "      --trace            Print the branch that decided the result on stderr\n" ++
    "  -h, --help             Print help\n"
  | .help =>
    "Print this message or the help of the given subcommand(s)\n\n" ++
    "Usage: efilter help [COMMAND]...\n\n" ++
    "Arguments:\n" ++
    "  [COMMAND]...  Print help for the subcommand(s)\n"

/-- How a run of the program ends. -/
inductive Outcome where
  /-- The command was carried out, with these texts for the output and beside it. -/
  | done (output aside : String)
  /-- The check failed. -/
  | failed (error : CheckError)
  /-- The arguments name no command. -/
  | misused

namespace Outcome

/-- The exit code. -/
def code : Outcome → Nat
  | .done _ _ => 0
  | .failed _ => 1
  | .misused => 2

/-- What is written to the standard output. -/
def output : Outcome → String
  | .done output _ => output
  | .failed _ | .misused => ""

/-- What is written to the standard error. -/
def aside : Outcome → String
  | .done _ aside => aside
  | .failed e => e.message ++ "\n"
  | .misused => "error: not a command line of efilter\n\nFor more information, try '--help'.\n"

/-- The outcome of a check. -/
def ofFinding (pretty : Bool) : Finding → Outcome
  | .wellFormed => .done "Syntax is valid\n" ""
  | .solved output branch =>
    .done ((if pretty then output.pretty else output.text) ++ "\n")
      ((branch.map fun e => "matched: " ++ e.text ++ "\n").getD "")

end Outcome

namespace Command

/-- Does the command read the standard input?  Then the document comes from there. -/
def readsInput : Command → Bool
  | .check given _ => given.input.isNone && !given.syntaxOnly
  | .help _ | .version => false

/-- The outcome of a command, given the text on the standard input. -/
def run (command : Command) (stdin : String) : Outcome :=
  match command with
  | .version => .done "efilter 0.1.0\n" ""
  | .help topic => .done topic.text ""
  | .check given pretty =>
    let full := if command.readsInput then { given with input := some stdin } else given
    match full.run.1 with
    | .ok finding => .ofFinding pretty finding
    | .error e => .failed e

end Command

/-- The outcome of the program for some arguments and the text on the standard input. -/
def CommandLine.run (args : List String) (stdin : String) : Outcome :=
  match CommandLine.command? args with
  | some command => command.run stdin
  | none => .misused

end FieldQuery
