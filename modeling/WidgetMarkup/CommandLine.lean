import WidgetMarkup.Scene.Outline
import WidgetMarkup.Session.Transfer
import WidgetMarkup.Style.Sheet

/-!
# The command line

The command loads one page and prints the outline of what was built, or, on
request, the rules of the page as JSON. The page is named by a file name or
by an address; a configuration file may be named besides. Here this is a
function from the files there are, and from what the network answers, to what
the command reports. The program around it only reads the files and prints.

The configuration is read first. A page that is named by its file fails with
its own error; one named by its address goes through a transfer, which drops
errors, so all that is left to say is that the document was not built.
-/

namespace WidgetMarkup

/-- **What the command is asked to do.** -/
structure Request where
  /-- The page, by file name or by address. -/
  source : String
  /-- The configuration file, if there is one. -/
  config : Option String := none
  /-- Whether the rules are wanted in place of the outline. -/
  rules : Bool := false
deriving DecidableEq, Repr, Inhabited

/-- **What the command reports.** -/
structure Report where
  /-- The exit code. -/
  code : Nat
  /-- What is printed. -/
  output : String
  /-- What is printed as an error. -/
  errors : String
deriving DecidableEq, Repr

/-- **The files there are**: what reading a file by its name leads to. -/
abbrev Files := String → Except FileFault ByteArray

/-- Reads a file as text. -/
def Files.readText (files : Files) (name : String) : Except LoadError String :=
  match files name with
  | .error fault => .error (.file fault)
  | .ok bytes =>
    match String.fromUTF8? bytes with
    | none => .error (.file .notText)
    | some text => .ok text

/-- What stands behind the scheme of an address, if it has that scheme. -/
def afterScheme? (scheme address : String) : Option String :=
  if scheme.toList.isPrefixOf address.toList then
    some (String.ofList (address.toList.drop scheme.toList.length))
  else none

/-- Is the source an address? -/
def isAddress (source : String) : Bool :=
  ["http://", "https://", "file://"].any fun scheme => (afterScheme? scheme source).isSome

/-- **What the network answers**: how the fetch of an address ends that is not
the address of a file. -/
abbrev Network := String → Reply

/-- A network without connections. -/
def Network.unreachable : Network :=
  fun address => .failed (.fetch address "network unreachable")

/-- How the fetch of an address ends. An address of a file leads to the file,
and any other to the network. -/
def Files.fetch (files : Files) (network : Network) (address : String) : Reply :=
  match afterScheme? "file://" address with
  | none => network address
  | some name =>
    match files.readText name with
    | .error error => .failed error
    | .ok text => .page text

namespace Request

/-- Reads the configuration. -/
def settings (r : Request) (files : Files) : Except LoadError Settings :=
  match r.config with
  | none => .ok {}
  | some name =>
    match files.readText name with
    | .error error => .error error
    | .ok text => (Settings.parse text).mapError .settings

/-- Loads the page into a session. -/
def loadSource (r : Request) (files : Files) (network : Network) (s : Session) :
    Except LoadError Session :=
  if isAddress r.source then
    .ok (s.startTransfer r.source (files.fetch network r.source)).waitPending.1
  else
    match files.readText r.source with
    | .error error => .error error
    | .ok text =>
      match s.loadText text with
      | (s, none) => .ok s
      | (_, some error) => .error error

/-- What is printed of a session. -/
def output (r : Request) (s : Session) : String :=
  if r.rules then Style.rulesToJson (.indented 0) s.book.rules ++ "\n"
  else s.scene.outline

/-- The output of the command, or why there is none. -/
def result (r : Request) (files : Files) (network : Network) : Except LoadError String :=
  match r.settings files with
  | .error error => .error error
  | .ok settings =>
    match r.loadSource files network (Session.new settings).subscribe with
    | .error error => .error error
    | .ok s =>
      if s.notified = [] then .error (.fetch r.source "document was not built")
      else .ok (r.output s)

/-- **Runs the command.** -/
def run (r : Request) (files : Files) (network : Network) : Report :=
  match r.result files network with
  | .ok output => ⟨0, output, ""⟩
  | .error error => ⟨1, "", s!"Error: {error.message}\n"⟩

/-- Adds what the arguments say to a request, of which the source may be
missing. Nothing is the answer if an argument has no meaning here. -/
def ofArguments? (source : Option String) (config : Option String) (rules : Bool) :
    List String → Option Request
  | [] => source.map fun source => { source, config, rules }
  | "--rules" :: more => ofArguments? source config true more
  | "--config" :: name :: more | "-c" :: name :: more =>
    ofArguments? source (some name) rules more
  | argument :: more =>
    match source, afterScheme? "--config=" argument with
    | _, some name => ofArguments? source (some name) rules more
    | none, none =>
      if ['-'].isPrefixOf argument.toList then none
      else ofArguments? (some argument) config rules more
    | some _, none => none

end Request

end WidgetMarkup
