import Lockable.Command.Options

/-!
# Invocations

What a command line asks for. It is understood in **two stages**: first the options for all commands
and the name of the command, then what stands after that name. Between the two the configuration is
loaded, so that a command line that goes wrong only in the second stage has had that effect.
-/

namespace Lockable.Command

/-- The options for all commands. -/
structure General where
  config : Option String := none
  grants : List String := []
  logLevel : Option String := none
  deriving DecidableEq, Repr

/-- The commands by name. -/
inductive CommandName where
  | desk
  | resources
  | allowed
  | dispatch
  | note
  | config
  deriving DecidableEq, Repr

/-- What is to be done. -/
inductive Task where
  /-- Launch the desk. -/
  | desk
  /-- List the resources and the actions allowed on each. -/
  | resources
  /-- Show the action bar for some resources. -/
  | allowed (names : List String)
  /-- Submit an action, if need be without asking whether it is allowed. -/
  | dispatch (action : String) (names : List String) (force : Bool)
  /-- Replace the note of a resource. -/
  | note (name text : String)
  /-- Show the configuration. -/
  | showConfig
  deriving DecidableEq, Repr

/-- What a stage comes to: something, or a request for help, or arguments that make no sense. -/
inductive Understood (α : Type) where
  | as (value : α)
  | help
  | nonsense
  deriving DecidableEq, Repr

/-- The option that asks for help, which every command has. -/
def helpForm : OptionForm := ⟨["--help"], false⟩

/-- The forms of the options for all commands. -/
def generalForms : List OptionForm :=
  [⟨["--config", "-c"], true⟩, ⟨["--grant", "-g"], true⟩, ⟨["--log-level"], true⟩, helpForm]

/-- The command of a name. -/
def CommandName.of? : String → Option CommandName
  | "tui" => some .desk
  | "resources" => some .resources
  | "allowed" => some .allowed
  | "dispatch" => some .dispatch
  | "note" => some .note
  | "config" => some .config
  | _ => none

/-- What some options mean, where no help is asked for. -/
def unlessHelp {α : Type} (found : Option Options) (meaning : Options → Option α) :
    Understood α :=
  match found with
  | none => .nonsense
  | some o =>
    if o.has "--help" then .help
    else match meaning o with
      | some value => .as value
      | none => .nonsense

/-- The first stage: the options for all commands, the command, and what stands after its name. -/
def readGeneral (arguments : List String) :
    Understood (General × CommandName × List String) :=
  unlessHelp (Options.scan generalForms false arguments) fun o =>
    match o.others with
    | [] => none
    | word :: rest => (CommandName.of? word).map fun name =>
      ({ config := o.last? "--config", grants := o.values "--grant"
         logLevel := o.last? "--log-level" }, name, rest)

/-- What stands after the word `config`. -/
def readConfig (arguments : List String) : Understood Task :=
  match unlessHelp (Options.scan [helpForm] false arguments) fun o => some o.others with
  | .as ("show" :: rest) =>
    unlessHelp (Options.scan [helpForm] true rest) fun o =>
      if o.others.isEmpty then some .showConfig else none
  | .as _ => .nonsense
  | .help => .help
  | .nonsense => .nonsense

/-- The second stage: what is to be done. -/
def readTask (name : CommandName) (arguments : List String) : Understood Task :=
  let plain (meaning : List String → Option Task) : Understood Task :=
    unlessHelp (Options.scan [helpForm] true arguments) fun o => meaning o.others
  match name with
  | .desk => plain fun others => if others.isEmpty then some .desk else none
  | .resources => plain fun others => if others.isEmpty then some .resources else none
  | .allowed => plain fun names => if names.isEmpty then none else some (.allowed names)
  | .dispatch =>
    unlessHelp (Options.scan [⟨["--force"], false⟩, helpForm] true arguments) fun o =>
      match o.others with
      | action :: name :: names => some (.dispatch action (name :: names) (o.has "--force"))
      | _ => none
  | .note => plain fun
    | [name, text] => some (.note name text)
    | _ => none
  | .config => readConfig arguments

end Lockable.Command
