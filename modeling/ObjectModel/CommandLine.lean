import ObjectModel.Script.Answer

/-!
# Command line

The demonstration as a command. Long options may be shortened as long as they stay unique. An
argument that is no option is reported only after all arguments were read, so a request for help
in front of the end wins over it. Whatever stops the reading leaves the settings as they were. What
may stand behind the short option in one argument was changed once, so there are two dialects.
-/

namespace ObjectModel.CommandLine

inductive Flag where
  | help | noWarnings | allowWriting | verbose
  deriving DecidableEq

namespace Flag

/-- The long options, in the order in which they are listed. -/
def long : List (String × Flag) :=
  [("--help", .help), ("--no-warnings", .noWarnings), ("--allow-writing", .allowWriting),
   ("--verbose", .verbose)]

/-- The name of an option in messages. -/
def label : Flag → String
  | .help => "-h/--help"
  | .noWarnings => "--no-warnings"
  | .allowWriting => "--allow-writing"
  | .verbose => "--verbose"

end Flag

/-- The two ways to read what stands behind the short option in the same argument. -/
inductive Dialect where
  /-- Letters that are no options are an error. An equals sign in front of them is passed over. -/
  | strict
  /-- Letters that are no options are passed over. An equals sign in front of them is an error. -/
  | lenient
  deriving DecidableEq

/-- How an argument is understood before anything is done. -/
inductive Argument where
  /-- An option, with the value that was attached to a long one. -/
  | flag (f : Flag) (value : Option String)
  /-- The short option with the letters behind it, perhaps behind an equals sign. -/
  | letters (hasEquals : Bool) (tail : List Char)
  | unknown (s : String)
  | ambiguous (s : String) (candidates : List String)
  deriving DecidableEq

/-- Split at the first equals sign. -/
def splitValue (cs : List Char) : List Char × Option (List Char) :=
  match cs.dropWhile (fun c => c != '=') with
  | [] => (cs, none)
  | _ :: value => (cs.takeWhile (fun c => c != '='), some value)

def matching (start : List Char) : List (String × Flag) :=
  Flag.long.filter (fun e => start.isPrefixOf e.1.toList)

def flagNamed? (s : List Char) : Option Flag :=
  if s = ['-', 'h'] then some .help
  else (Flag.long.find? (fun e => e.1.toList = s)).map Prod.snd

/-- Understand an argument that starts with two dashes and is not an option as it stands. -/
def readLong (s : String) : Argument :=
  let (name, value) := splitValue s.toList
  match flagNamed? name with
  | some f => .flag f (value.map String.ofList)
  | none =>
    match matching name with
    | [] => .unknown s
    | [e] => .flag e.2 (value.map String.ofList)
    | es => .ambiguous s (es.map Prod.fst)

/-- Understand an argument before the end of the options. -/
def readArgument (s : String) : Argument :=
  match flagNamed? s.toList with
  | some f => .flag f none
  | none =>
    match s.toList with
    | '-' :: '-' :: _ => readLong s
    | '-' :: 'h' :: '=' :: tail => .letters true tail
    | '-' :: 'h' :: tail => .letters false tail
    | _ => .unknown s

/-- Understand all arguments. From two dashes that stand alone on, nothing is an option. -/
def readArguments : List String → List Argument
  | [] => []
  | s :: rest =>
    if s = "--" then (s :: rest).map .unknown
    else readArgument s :: readArguments rest

structure Options where
  noWarnings : Bool
  allowWriting : Bool
  verbose : Bool
  deriving DecidableEq

def Options.none : Options := ⟨false, false, false⟩

def Options.set (o : Options) : Flag → Options
  | .help => o
  | .noWarnings => { o with noWarnings := true }
  | .allowWriting => { o with allowWriting := true }
  | .verbose => { o with verbose := true }

/-- What the arguments ask for. -/
inductive Request where
  | run (o : Options)
  | help
  | usageError (text : String)
  deriving DecidableEq

/-- An option that takes no value was given one. -/
def ignoredValue (f : Flag) (value : String) : Request :=
  .usageError ("argument " ++ f.label ++ ": ignored explicit argument " ++ Text.quoted value)

/-- Letters behind the short option, one after the other. Only `h` is an option. -/
def readLetters : Dialect → List Char → Request
  | _, [] => .help
  | .lenient, 'h' :: '=' :: value => ignoredValue .help (String.ofList value)
  | d, 'h' :: tail => readLetters d tail
  | .strict, tail => ignoredValue .help (String.ofList tail)
  | .lenient, '-' :: tail => ignoredValue .help (String.ofList ('-' :: tail))
  | .lenient, _ => .help

/-- What stands behind the short option. An equals sign has to be followed by something. -/
def shortTail (d : Dialect) (hasEquals : Bool) (tail : List Char) : Request :=
  match hasEquals, tail, d with
  | true, [], _ | true, _, .lenient => ignoredValue .help (String.ofList tail)
  | _, tail, d => readLetters d tail

/-- Do what the arguments say, one after another, until one of them ends the reading. -/
def follow (d : Dialect) (o : Options) (unknown : List String) : List Argument → Request
  | [] =>
    if unknown.isEmpty then .run o
    else .usageError ("unrecognized arguments: " ++ " ".intercalate unknown)
  | .unknown s :: rest => follow d o (unknown ++ [s]) rest
  | .ambiguous s _ :: rest => follow d o (unknown ++ [s]) rest
  | .letters hasEquals tail :: _ => shortTail d hasEquals tail
  | .flag f (some value) :: _ => ignoredValue f value
  | .flag .help none :: _ => .help
  | .flag f none :: rest => follow d (o.set f) unknown rest

/-- An ambiguous option is an error before any argument is followed. -/
def request (d : Dialect) (argv : List String) : Request :=
  let args := readArguments argv
  match args.findSome? (fun
    | .ambiguous s es =>
      some ("ambiguous option: " ++ s ++ " could match " ++ ", ".intercalate es)
    | _ => none) with
  | some text => .usageError text
  | none => follow d .none [] args

def usage : String := "usage: pypie [-h] [--no-warnings] [--allow-writing] [--verbose]\n"

def helpText : String :=
  usage ++
  "\n" ++
  "pypie: classes with polymorphism, inheritance and encapsulation (demo)\n" ++
  "\n" ++
  "options:\n" ++
  "  -h, --help       show this help message and exit\n" ++
  "  --no-warnings    Suppress diagnostic warnings\n" ++
  "  --allow-writing  Allow writing unknown keys onto objects from outside\n" ++
  "  --verbose        Verbose (DEBUG) logging\n"

/-- What a run of the command leaves behind. The code is that of the exit, or the written form of
the fault that ended the run, if it is not one of the object model. -/
structure Outcome where
  code : Script.Form
  stdout : String
  stderr : String
  settings : Settings

open Script

def logLine (r : LogRecord) : String := r.level ++ " " ++ r.source ++ ": " ++ r.text ++ "\n"

/-- The program that the options ask for. -/
def demo (m : Machine) (o : Options) : Prog Unit := do
  ask (.setWarnings (!o.noWarnings))
  ask (.setAllowWriting o.allowWriting)
  m.runDemo (return o.allowWriting)

/-- How a run ends: with nothing, with the message of a fault of the object model, or with the
written form of another fault. -/
def ending (m : Machine) (p : Prog Unit) : Prog Form :=
  tryCatch (do
      p
      return .null)
    (fun f =>
      if f.isCatchable && f.kind.isA .modelError then
        tryCatch (do return .text ((← m.faultMessage? f).getD "")) m.renderFault
      else m.renderFault f)

/-- The lines that the log has on the error output. -/
def loggedText (o : Options) (w : World Workspace) : String :=
  String.join ((w.log.toList.filter (fun r => o.verbose || r.isWarning)).map logLine)

/-- Run the command in a world: what it leaves behind, and the world that comes of it. -/
def executeIn (d : Dialect) (m : Machine) (w : World Workspace) (argv : List String) :
    Outcome × World Workspace :=
  match request d argv with
  | .help => (⟨.int 0, helpText, "", w.settings⟩, w)
  | .usageError text => (⟨.int 2, "", usage ++ "pypie: error: " ++ text ++ "\n", w.settings⟩, w)
  | .run o =>
    let (r, w') := runSession (ending m (demo m o)) w
    let outcome : Outcome := match r with
      | .ok .null => ⟨.int 0, w'.out, loggedText o w', w'.settings⟩
      | .ok (.text message) =>
        ⟨.int 1, w'.out, loggedText o w' ++ "Error: " ++ message ++ "\n", w'.settings⟩
      | r => ⟨.record (fieldsOfOutcome r), w'.out, loggedText o w', w'.settings⟩
    (outcome, w')

/-- What a run of the command in a world leaves behind. -/
def execute (d : Dialect) (m : Machine) (w : World Workspace) (argv : List String) : Outcome :=
  (executeIn d m w argv).1

/-- Run the command from the start, with the built-in greeters or with those of an expression. -/
def executeFresh (greeters : Option Expr) (argv : List String) : Outcome :=
  execute .strict scriptMachine (World.initial { Workspace.initial with greeters }) argv

def renderOutcome (o : Outcome) : Form :=
  .record [("code", o.code), ("stdout", .text o.stdout), ("stderr", .text o.stderr),
    ("settings", .list [.bool o.settings.warnings, .bool o.settings.allowWriting])]

/-- The settings that an environment asks for. -/
def renderEnvironment (bindings : List (String × String)) : Form :=
  let s := Settings.fromEnvironment (fun name => bindings.lookup name)
  .record [("warnings", .bool s.warnings), ("allow_writing", .bool s.allowWriting),
    ("repr", .text s.describe), ("default", .bool (decide (s = .default)))]

end ObjectModel.CommandLine
