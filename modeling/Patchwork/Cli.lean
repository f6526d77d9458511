import Patchwork.Cli.Arguments
import Patchwork.Cli.Console
import Patchwork.Cli.PolicyTable
import Patchwork.Loader
import Patchwork.Patch
import Patchwork.Schema.ObjectSchema
import Patchwork.Semantics
import Patchwork.Settings
import Patchwork.Value.Json
import Patchwork.Yaml.Writer

/-!
# The command line

`Cli.run` gives the outcome of a command line: what it prints, what it writes to a file, and its
exit code.

* `validate` checks the Objects of a file against the schema and the rules on references.
* `patch` applies the references of the Objects of a file.  It prints or writes all patched Objects
  or, if one of them fails, none.
* `policy` shows what the management policies allow; `schema` prints the schema.

A command ends with exit code 2 if its arguments are refused, and with 1 if it fails or finds
fault.
-/

set_option autoImplicit false

namespace Patchwork
namespace Cli

/-- The name of the program. -/
def programName : String := "kubeobject"

/-- The version of the program. -/
def version : String := "0.1.0"

/-- What a command line leads to. -/
structure Outcome where
  exit : Nat := 0
  output : String := ""
  /-- The path and content of a file to write. -/
  written : Option (String × String) := none
  /-- Why the arguments were refused. -/
  usage : Option UsageError := none
  /-- What stopped the command without a report on its output. -/
  stopped : Option Failure := none

/-- What a command finds around it. -/
structure Host where
  files : FileView
  console : Console
  writer : Yaml.Writer

/-- The outcome of a failure behind output: an error is reported, anything else stops. -/
def failed (console : Console) (output : String) (f : Failure) : Outcome :=
  match f.reported? with
  | some e =>
    match console.print ("Error: " ++ e.message) with
    | .ok text => { exit := 1, output := output ++ text }
    | .error e => { exit := 1, output, stopped := some (.kind e) }
  | none => { exit := 1, output, stopped := some f }

/-- The outcome of arguments that were refused. -/
def refused (e : UsageError) : Outcome := { exit := 2, usage := some e }

/-! ## Validation -/

/-- What validation says about documents: its lines, whether it finds fault, and what stopped it. -/
structure Report where
  lines : List String := []
  fault : Bool := false
  stopped : Option KindError := none

/-- A report and, unless it was stopped, what follows it. -/
def Report.andThen (r s : Report) : Report :=
  match r.stopped with
  | some _ => r
  | none => { lines := r.lines ++ s.lines, fault := r.fault || s.fault, stopped := s.stopped }

/-- The report of one line, which must have an encoding. -/
def Report.line (t : Text) : Report :=
  match t.toString? with
  | some s => { lines := [s] }
  | none => { stopped := some .notEncodable }

/-- The report of lines in order. -/
def Report.ofLines : List Text → Report
  | [] => {}
  | t :: rest => (Report.line t).andThen (Report.ofLines rest)

/-- The line of an issue about references. -/
def issueLine (mark : String) (i : SemanticIssue) : Text :=
  "  " ++ mark ++ " [" ++ i.code ++ "] " ++ i.location ++ ": " ++ i.message

/-- The report on the references of a document that fits the schema. -/
def semanticReport (strict : Bool) (r : SemanticReport) : Report :=
  let fault := !r.passed || (strict && !r.warnings.isEmpty)
  (Report.ofLines (r.errors.map (issueLine "x") ++ r.warnings.map (issueLine "!"))).andThen
    { lines := if fault then [] else ["  v Semantic validation passed"], fault }

/-- The line with the name of a document, if its numbers can be written out, it can be followed to
its end, and what is shown of it has an encoding. -/
def nameReport (name : Value) : Report :=
  if name.holds Value.isLongInteger then { stopped := some (.limit .digits) }
  else if name.holds Value.isTooDeep then { stopped := some (.limit .nesting) }
  else match name.abridged.toString? with
    | some s => { lines := [Console.styled s] }
    | none => { stopped := some .notEncodable }

/-- The line of an issue with the schema. -/
def schemaLine (i : SchemaIssue) : Text := "    x " ++ i.message

/-- The report on a document that does not fit the schema. -/
def schemaReport (issues : List SchemaIssue) : Report :=
  (Report.ofLines ("  Schema validation FAILED:" :: issues.map schemaLine)).andThen
    { fault := true }

/-- The report on an Object document. -/
def documentReport (strict : Bool) (entries : List (Value × Value)) : Report :=
  match (Value.field entries "metadata").entriesIfSet with
  | .error e => { stopped := some e }
  | .ok metadata =>
    let name := nameReport (Value.fieldOr metadata "name" (.str "(unnamed)"))
    match ObjectSchema.check (.map entries) with
    | [] =>
      let passed : Report := { lines := ["  v Schema validation passed"] }
      let references : Report :=
        match Semantics.check (.map entries) with
        | .error e => { stopped := some e }
        | .ok r => semanticReport strict r
      (name.andThen passed).andThen references
    | issues => name.andThen (schemaReport issues)

/-- The report on Object documents in order. -/
def fullReport (strict : Bool) (objects : List (List (Value × Value))) : Report :=
  objects.foldl (fun r entries => r.andThen (documentReport strict entries)) {}

/-- Validates the Objects among documents. -/
def validateDocuments (console : Console) (strict : Bool)
    (documents : List (List (Value × Value))) : Outcome :=
  match documents.filter ApiGroup.isObject with
  | [] => { exit := 1, output := console.shown "No Object documents found." }
  | objects =>
    let report := fullReport strict objects
    let output := console.printed report.lines
    match report.stopped with
    | some e => { exit := 1, output, stopped := some (.kind e) }
    | none =>
      if report.fault then { exit := 1, output := output ++ console.shown "\nFAIL" }
      else { output := output ++ console.shown "\nValid!" }

/-- Validates the Objects of a file. -/
def validate (host : Host) (strict : Bool) (file : String) : Outcome :=
  let heading := host.console.shown ("\n" ++ programName ++ " — Validating: " ++ file ++ "\n")
  match Loader.documents host.files file with
  | .error f => failed host.console heading f
  | .ok documents =>
    let outcome := validateDocuments host.console strict documents
    { outcome with output := heading ++ outcome.output }

/-! ## Patching -/

/-- The resolver with the documents of a file added. -/
def addFile (view : FileView) (resolver : Resolver) (file : String) : Except Failure Resolver := do
  let documents ← Loader.documents view file
  (resolver.addAll (documents.map fun entries => .document (.map entries))).mapError .kind

/-- The Objects of a file with their references applied, looked up in that file and the sources. -/
def patchedObjects [Machine] (view : FileView) (file : String) (sources : List String) :
    Except Failure (List Object) := do
  let resolver ← (file :: sources).foldlM (addFile view) .empty
  let objects ← Loader.objects view file
  (objects.mapM (Object.applyReferences resolver)).mapError .error

/-- Prints or writes patched Objects. -/
def delivered (host : Host) (objects : List Object) (output : String) : Outcome :=
  match host.writer.dump (objects.map (·.toValue)) with
  | .error limit => failed host.console "" (.kind (.limit limit))
  | .ok text =>
    if output.isEmpty then { output := text }
    else if !FilePath.isNameable output then failed host.console "" .unnameable
    else match host.files.writeFault? output with
      | some fault => failed host.console "" (.file fault)
      | none =>
        { output := host.console.shown ("Patched " ++ toString objects.length
            ++ " Object(s) written to: " ++ output)
          written := some (output, text) }

/-- Applies the references of the Objects of a file and prints or writes the result. -/
def patch [Machine] (host : Host) (file : String) (sources : List String) (output : String) :
    Outcome :=
  match patchedObjects host.files file sources with
  | .error f => failed host.console "" f
  | .ok objects => delivered host objects output

/-! ## Policies -/

/-- Answers whether a policy allows an action. -/
def decision (console : Console) (policy : String) (action : ObjectAction) : Outcome :=
  let d := PolicyDecision.make (.ofText policy) (some action)
  let reason :=
    if d.policy = .unknown then
      "unknown policy '" ++ policy ++ "' denies " ++ action.text
    else d.reason
  { exit := if d.allowed then 0 else 1
    output := console.shown ((if d.allowed then "ALLOW " else "DENY ") ++ reason) }

/-- Shows what a policy of a name allows, or what all of them do when the name is empty. -/
def policyTable (console : Console) (policy : String) : Outcome :=
  match PolicyDecision.table.filter fun d => policy.isEmpty || d.policy.text = policy with
  | [] =>
    { exit := 1
      output := console.shown
        ("Unknown management policy: " ++ policy ++ " (nothing is allowed)") }
  | decisions => { output := String.join ((PolicyTable.render decisions).map (· ++ "\n")) }

/-- Shows what management policies allow. -/
def policy (console : Console) (name action : Option String) : Outcome :=
  let name := name.getD ""
  match action with
  | none => policyTable console name
  | some text =>
    match ObjectAction.ofText? text with
    | none => refused (.invalidChoice "action" text)
    | some action =>
      if name.isEmpty then policyTable console name else decision console name action

/-! ## Commands -/

/-- What a command line consists of. -/
inductive Command where
  | validate (file : String) (strict : Bool)
  | patch (file : String) (sources : List String) (output : String)
  | policy (name action : Option String)
  | schema
  | version
  | help
  deriving Repr

/-- The option for help, which every command has. -/
def helpOption : OptionSpec := { name := "help" }

/-- The options before the command. -/
def globalOptions : List OptionSpec :=
  [{ name := "verbose", letter := some 'v' }, { name := "version" }, helpOption]

/-- The options of `validate`. -/
def validateOptions : List OptionSpec := [{ name := "strict" }, helpOption]

/-- The options of `patch`. -/
def patchOptions : List OptionSpec :=
  [{ name := "source", letter := some 's', takesValue := true },
    { name := "output", letter := some 'o', takesValue := true }, helpOption]

/-- The options of `policy`. -/
def policyOptions : List OptionSpec :=
  [{ name := "policy", letter := some 'p', takesValue := true },
    { name := "action", letter := some 'a', takesValue := true }, helpOption]

/-- The command that sorted arguments mean, unless they ask for help. -/
def orHelp (a : Arguments) (command : Except UsageError Command) : Except UsageError Command :=
  if a.has "help" then .ok .help else command

/-- Reads the arguments of a named command. -/
def readCommand (name : String) (args : List String) : Except UsageError Command :=
  match name with
  | "validate" => do
    let a ← Arguments.read validateOptions true args
    orHelp a do return .validate (← a.only "OBJECT_FILE") (a.has "strict")
  | "patch" => do
    let a ← Arguments.read patchOptions true args
    orHelp a do
      return .patch (← a.only "OBJECT_FILE") (a.values "source") ((a.value? "output").getD "")
  | "policy" => do
    let a ← Arguments.read policyOptions true args
    orHelp a do
      a.noPositional
      return .policy (a.value? "policy") (a.value? "action")
  | "schema" => do
    let a ← Arguments.read [helpOption] true args
    orHelp a do
      a.noPositional
      return .schema
  | other => .error (.noSuchCommand other)

/-- Reads a command line.  The first wish for help or for the version settles it. -/
def read (args : List String) : Except UsageError Command := do
  let a ← Arguments.read globalOptions false args
  match a.options.find? fun o => o.1 = "help" || o.1 = "version" with
  | some (name, _) => return if name = "help" then .help else .version
  | none =>
    match a.positional with
    | [] => throw .missingCommand
    | name :: rest => readCommand name rest

/-- The text for help. -/
def helpText : String :=
  "Usage: " ++ programName ++ " [-v] COMMAND [ARGS]...\n\n"
    ++ "  validate OBJECT_FILE [--strict]\n"
    ++ "  patch OBJECT_FILE [--source FILE]... [--output FILE]\n"
    ++ "  policy [--policy NAME] [--action Create|Update|Delete]\n"
    ++ "  schema\n"

/-- Runs a command. -/
def execute [Machine] (host : Host) (settings : Settings) : Command → Outcome
  | .validate file strict => validate host (strict || settings.strict) file
  | .patch file sources output => patch host file sources output
  | .policy name action => policy host.console name action
  | .schema => { output := ObjectSchema.document.json ++ "\n" }
  | .version => { output := programName ++ ", version " ++ version ++ "\n" }
  | .help => { output := helpText }

/-- The outcome of a command line. -/
def run [Machine] (host : Host) (settings : Settings) (args : List String) : Outcome :=
  match read args with
  | .error e => refused e
  | .ok command => execute host settings command

end Cli
end Patchwork
