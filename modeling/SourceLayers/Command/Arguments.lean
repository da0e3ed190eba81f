/-
The arguments of the command:

* `Setting`: an option that takes a value: it is not given, given without one, or given with one;
* `Options`: what a command line asks for;
* `Flag`: the options by name, and whether they take a value;
* `Argument.read`: an argument by itself: a value, the mark that ends options, or options;
* `Options.parse`: a whole command line. It is refused, or asks for help, or gives options.

An option may be cut short as long as it is the only one that begins that way, its value may follow
after an equals sign, and short options may share one dash. Arguments that look like negative
numbers, or hold a blank, are values. All paths stand together.

An argument that is cut too short is refused before anything else. Otherwise arguments are taken one
after the other: help ends the line where it stands, and so does an option that is used wrongly,
while arguments that fit nowhere are refused at the end.
-/
import SourceLayers.FileTree.Path
import SourceLayers.Text.Integer

namespace SourceLayers

/-- An option that takes a value. The mark that ends options is no value: behind an equals sign it
leaves the option without one. -/
inductive Setting (α : Type) where
  | absent
  | blank
  | given (value : α)
  deriving DecidableEq, Repr

/-- What a command line asks for. -/
structure Options where
  paths : List Path := []
  /-- The suffixes of source files, if any are given; a suffix without a value has none. -/
  suffixes : List (Option String) := []
  /-- The file with the override of the vocabulary. -/
  vocabulary : Setting Path := .absent
  limit : Setting Int := .absent
  /-- Whether to print the regions of a single file. -/
  regions : Bool := false
  sidecarOut : Setting Path := .absent
  reportOut : Setting Path := .absent
  overwriteSidecar : Bool := false
  /-- Whether to print the report in full. -/
  json : Bool := false
  verbose : Bool := false

/-- The options. -/
inductive Flag where
  | help
  | suffix
  | vocabulary
  | limit
  | regions
  | sidecarOut
  | reportOut
  | overwriteSidecar
  | json
  | verbose
  deriving DecidableEq, Repr

namespace Flag

/-- The options with their long names. -/
def longNames : List (String × Flag) :=
  [("--help", .help), ("--suffix", .suffix), ("--vocabulary", .vocabulary), ("--limit", .limit),
    ("--regions", .regions), ("--sidecar-out", .sidecarOut), ("--report-out", .reportOut),
    ("--overwrite-sidecar", .overwriteSidecar), ("--json", .json), ("--verbose", .verbose)]

/-- The long name of an option. -/
def longName (flag : Flag) : String :=
  ((longNames.find? fun entry => entry.2 = flag).map Prod.fst).getD ""

/-- The options with a short name. -/
def ofLetter? : Char → Option Flag
  | 'h' => some .help
  | 'v' => some .verbose
  | _ => none

/-- Whether an option takes a value. -/
def takesValue : Flag → Bool
  | .suffix | .vocabulary | .limit | .sidecarOut | .reportOut => true
  | _ => false

end Flag

/-! ### Single arguments -/

/-- An argument by itself. -/
inductive Argument where
  /-- A path, or the value of the option before it. -/
  | value (text : String)
  /-- Ends the options. -/
  | endOfOptions
  /-- An option, with the value that is attached to it. -/
  | flag (flag : Flag) (attached : Option String)
  /-- Short options that share a dash. -/
  | cluster (flags : List Flag)
  /-- A short option with something attached that is no option. -/
  | misused
  /-- The beginning of several options. -/
  | ambiguous
  /-- No option. -/
  | unknown
  deriving DecidableEq, Repr

namespace Argument

/-- A long option: the name before an equals sign in full, or else the beginning of exactly one. -/
def readLong? (text : List Char) : Option Argument :=
  let name := text.takeWhile (· != '=')
  let attached :=
    match text.drop name.length with
    | [] => none
    | _ :: rest => some (String.ofList rest)
  match Flag.longNames.lookup (String.ofList name) with
  | some found => some (.flag found attached)
  | none =>
    match Flag.longNames.filter fun entry => name.isPrefixOf entry.1.toList with
    | [] => none
    | [(_, found)] => some (.flag found attached)
    | _ => some .ambiguous

/-- Short options behind one dash. An equals sign after the first of them is passed over, but not at
the end. -/
def readShort? (letters : List Char) : Option Argument :=
  match letters with
  | [] => none
  | letter :: more =>
    match Flag.ofLetter? letter with
    | none => none
    | some first =>
      let flags :=
        match more with
        | ['='] => none
        | '=' :: rest => rest.mapM Flag.ofLetter?
        | rest => rest.mapM Flag.ofLetter?
      match flags with
      | some others => some (.cluster (first :: others))
      | none => some .misused

/-- An argument before the end of the options. -/
def read (text : String) : Argument :=
  match text.toList with
  | ['-', '-'] => .endOfOptions
  | '-' :: '-' :: rest => (readLong? ('-' :: '-' :: rest)).getD (fallback text)
  | '-' :: c :: rest => (readShort? (c :: rest)).getD (fallback text)
  | _ => .value text
where
  /-- An argument with a dash that names no option. -/
  fallback (text : String) : Argument :=
    if looksNegative text.toList || text.toList.contains ' ' then .value text else .unknown

end Argument

/-- The arguments of a command line. Behind the end of the options there are only values. -/
def readArguments : List String → List Argument
  | [] => []
  | text :: rest =>
    match Argument.read text with
    | .endOfOptions => .endOfOptions :: rest.map .value
    | other => other :: readArguments rest

/-! ### Command lines -/

/-- Why a command line gives no options. -/
inductive ParseStop where
  | usage
  | help
  deriving DecidableEq, Repr

namespace Options

/-- Sets an option without a value. -/
def setFlag (options : Options) : Flag → Except ParseStop Options
  | .help => .error .help
  | .regions => .ok { options with regions := true }
  | .overwriteSidecar => .ok { options with overwriteSidecar := true }
  | .json => .ok { options with json := true }
  | .verbose => .ok { options with verbose := true }
  | _ => .error .usage

/-- Sets an option with its value. -/
def setValue (options : Options) (flag : Flag) (value : String) : Except ParseStop Options :=
  match flag with
  | .suffix => .ok { options with suffixes := options.suffixes ++ [some value] }
  | .vocabulary => .ok { options with vocabulary := .given (Path.ofString value) }
  | .limit =>
    match parseInteger? value.toList with
    | some n => .ok { options with limit := .given n }
    | none => .error .usage
  | .sidecarOut => .ok { options with sidecarOut := .given (Path.ofString value) }
  | .reportOut => .ok { options with reportOut := .given (Path.ofString value) }
  | _ => .error .usage

/-- Sets an option that takes a value but is left without one. -/
def setBlank (options : Options) (flag : Flag) : Except ParseStop Options :=
  match flag with
  | .suffix => .ok { options with suffixes := options.suffixes ++ [none] }
  | .vocabulary => .ok { options with vocabulary := .blank }
  | .limit => .ok { options with limit := .blank }
  | .sidecarOut => .ok { options with sidecarOut := .blank }
  | .reportOut => .ok { options with reportOut := .blank }
  | _ => .error .usage

/-- Sets an option with what is attached to it. -/
def setAttached (options : Options) (flag : Flag) (attached : String) : Except ParseStop Options :=
  if attached = "--" then options.setBlank flag else options.setValue flag attached

/-- Adds a path to those that stand right before it. -/
def addPath (options : Options) (text : String) : Options :=
  { options with paths := options.paths ++ [Path.ofString text] }

end Options

/-- How far a command line has been read. -/
structure Progress where
  options : Options := {}
  /-- Whether a path may stand here: none has come yet, or the last argument was one. -/
  takesPaths : Bool := true
  /-- Whether an argument was met that fits nowhere. -/
  leftover : Bool := false

namespace Progress

/-- Goes on behind an option. -/
def withOptions (progress : Progress) (options : Options) : Progress :=
  { progress with options, takesPaths := options.paths.isEmpty }

/-- Goes on behind an argument that fits nowhere. -/
def withLeftover (progress : Progress) : Progress :=
  { progress with leftover := true }

/-- Goes on behind one that names no option. -/
def withUnknown (progress : Progress) : Progress :=
  (progress.withOptions progress.options).withLeftover

/-- Goes through the arguments. Paths may come until an option follows on a path. An option that
takes a value has to find it attached or next. -/
def parse (progress : Progress) : List Argument → Except ParseStop Progress
  | [] => .ok progress
  | .value text :: rest =>
    if progress.takesPaths then
      parse { progress with options := progress.options.addPath text } rest
    else parse progress.withLeftover rest
  | .endOfOptions :: rest =>
    if progress.takesPaths then parse progress rest else parse progress.withLeftover rest
  | .cluster flags :: rest => do
    let options ← flags.foldlM Options.setFlag progress.options
    parse (progress.withOptions options) rest
  | .flag found attached :: rest =>
    if found.takesValue then
      match attached, rest with
      | some attached, rest => do
        let options ← progress.options.setAttached found attached
        parse (progress.withOptions options) rest
      | none, .value value :: rest => do
        let options ← progress.options.setValue found value
        parse (progress.withOptions options) rest
      | none, _ => .error .usage
    else
      match attached with
      | some _ => .error .usage
      | none => do
        let options ← progress.options.setFlag found
        parse (progress.withOptions options) rest
  | .unknown :: rest => parse progress.withUnknown rest
  | .misused :: _ => .error .usage
  | .ambiguous :: _ => .error .usage

end Progress

/-- The options of a command line, which must name at least one path and leave nothing over. -/
def Options.parse (arguments : List String) : Except ParseStop Options := do
  let arguments := readArguments arguments
  if arguments.contains .ambiguous then throw .usage
  let progress ← Progress.parse {} arguments
  if progress.leftover || progress.options.paths.isEmpty then throw .usage
  return progress.options

end SourceLayers
