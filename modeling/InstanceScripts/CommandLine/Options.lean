/-!
# Command line options

The arguments are read from left to right.  A fault, or the wish for help or for the
version, counts from the argument on where it shows, so the first of several wins.
-/

namespace InstanceScripts
namespace CommandLine

/-- What the arguments say. -/
structure Options where
  verbosity : Nat
  configDirectory : Option String
  destination : Option String
  scriptType : Option String
  deriving DecidableEq, Repr

/-- Why nothing is run. -/
inductive Stop where
  | help
  | version
  | usage
  deriving DecidableEq, Repr

namespace Options

def none : Options :=
  ⟨0, .none, .none, .none⟩

/-- Options that take a directory. -/
inductive Directory where
  | config
  | destination
  deriving DecidableEq, Repr

/-- Set a directory, which has to have a name and to be given once. -/
def setDirectory (options : Options) (directory : Directory) (value : String) :
    Except Stop Options :=
  match directory with
  | .config =>
      if value.isEmpty ∨ options.configDirectory.isSome then .error .usage
      else .ok { options with configDirectory := some value }
  | .destination =>
      if value.isEmpty ∨ options.destination.isSome then .error .usage
      else .ok { options with destination := some value }

/-- Set the script type, which has to be given once. -/
def setScriptType (options : Options) (value : String) : Except Stop Options :=
  if options.scriptType.isSome then .error .usage
  else .ok { options with scriptType := some value }

def moreVerbose (options : Options) : Options :=
  { options with verbosity := options.verbosity + 1 }

/-- Read letters behind one dash.  A directory may be attached to its letter; if it is
not, it is still to come. -/
def readLetters (options : Options) : List Char → Except Stop (Options × Option Directory)
  | [] => .ok (options, .none)
  | 'v' :: rest => readLetters options.moreVerbose rest
  | 'h' :: _ => .error .help
  | 'V' :: _ => .error .version
  | ['d'] => .ok (options, some .destination)
  | 'd' :: '=' :: value =>
      (options.setDirectory .destination (String.ofList value)).map (·, .none)
  | 'd' :: value => (options.setDirectory .destination (String.ofList value)).map (·, .none)
  | _ => .error .usage

/-- Read a word behind two dashes, with the value behind its equals sign. -/
def readWord (options : Options) (name : String) (value : Option String) :
    Except Stop (Options × Option Directory) :=
  let directory (directory : Directory) : Except Stop (Options × Option Directory) :=
    match value with
    | some value => (options.setDirectory directory value).map (·, .none)
    | .none => .ok (options, some directory)
  if name = "config-dir" then directory .config
  else if name = "dest-dir" then directory .destination
  else if value.isSome then .error .usage
  else if name = "verbose" then .ok (options.moreVerbose, .none)
  else if name = "help" then .error .help
  else if name = "version" then .error .version
  else .error .usage

/-- Split a word at its first equals sign. -/
def splitValue (word : List Char) : String × Option String :=
  let name := String.ofList (word.takeWhile (· ≠ '='))
  match word.dropWhile (· ≠ '=') with
  | [] => (name, .none)
  | _ :: value => (name, some (String.ofList value))

/-- Read arguments behind a lone `--`. -/
def readPlain (options : Options) : List String → Except Stop Options
  | [] => .ok options
  | argument :: rest =>
      match options.setScriptType argument with
      | .error stop => .error stop
      | .ok options => readPlain options rest

/-- Read arguments.  `awaited` is the directory that the next one has to name. -/
def read (options : Options) (awaited : Option Directory) : List String → Except Stop Options
  | [] => if awaited.isSome then .error .usage else .ok options
  | argument :: rest =>
      let dashed (result : Except Stop (Options × Option Directory)) : Except Stop Options :=
        if awaited.isSome then .error .usage
        else
          match result with
          | .error stop => .error stop
          | .ok (options, awaited) => read options awaited rest
      match argument.toList with
      | ['-', '-'] => if awaited.isSome then .error .usage else options.readPlain rest
      | '-' :: '-' :: word =>
          let (name, value) := splitValue word
          dashed (options.readWord name value)
      | '-' :: letter :: letters => dashed (options.readLetters (letter :: letters))
      | _ =>
          let taken :=
            match awaited with
            | some directory => options.setDirectory directory argument
            | .none => options.setScriptType argument
          match taken with
          | .error stop => .error stop
          | .ok options => read options .none rest

end Options

/-- What has to be known before scripts can be retrieved. -/
structure Invocation where
  verbosity : Nat
  configDirectory : String
  destination : String
  scriptType : String
  deriving DecidableEq, Repr

/-- The invocation that arguments describe.  The script type may also come from the
environment; the destination has to be given. -/
def invocation (standardConfig : String) (environmentType : Option String)
    (arguments : List String) : Except Stop Invocation :=
  match Options.none.read none arguments with
  | .error stop => .error stop
  | .ok options =>
      match options.destination, options.scriptType.or environmentType with
      | some destination, some scriptType =>
          .ok ⟨options.verbosity, options.configDirectory.getD standardConfig, destination,
            scriptType⟩
      | _, _ => .error .usage

end CommandLine
end InstanceScripts
