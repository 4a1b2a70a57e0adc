/-!
# Options

How options and other arguments are told apart on a command line. An option has long spellings, as
`--config`, and short ones, as `-c`; what it takes stands after it, or after `=` behind a long
spelling, or right behind a short one. `--` ends the options.

* `Options.scan` takes a command line apart. It either finds options **among** the arguments or
  stops at the first argument that is none.
-/

namespace Lockable.Command

/-- An option: its spellings and whether it takes a value. -/
structure OptionForm where
  spellings : List String
  takesValue : Bool
  deriving DecidableEq, Repr

namespace OptionForm

/-- Whether the spelling is a short one, of one character after one dash. -/
def isShort (spelling : String) : Bool := spelling.length = 2 && spelling.toList.drop 1 ≠ ['-']

end OptionForm

/-- What a command line gives: the options with their values, by their first spelling, and the other
arguments. -/
structure Options where
  given : List (String × String) := []
  others : List String := []
  deriving DecidableEq, Repr

namespace Options

/-- Whether an option is given. -/
def has (o : Options) (key : String) : Bool := o.given.any fun g => g.1 = key

/-- The values of an option, in order. -/
def values (o : Options) (key : String) : List String :=
  (o.given.filter fun g => g.1 = key).map (·.2)

/-- The last value of an option. -/
def last? (o : Options) (key : String) : Option String := (o.values key).getLast?

/-- The form with a spelling. -/
def form? (forms : List OptionForm) (short : Bool) (spelling : String) : Option OptionForm :=
  if OptionForm.isShort spelling = short then
    forms.find? fun f => f.spellings.contains spelling
  else none

/-- An option with its value, by its first spelling. -/
def entry (form : OptionForm) (value : String) : String × String :=
  (form.spellings.headD "", value)

/-- What an argument that begins with a dash says: some options, of which the last one may still
need the next argument. -/
inductive Reading where
  | complete (given : List (String × String))
  | needsValue (given : List (String × String)) (form : OptionForm)
  | unknown
  deriving DecidableEq, Repr

/-- Reads short options that stand together. -/
def readShort (forms : List OptionForm) : List Char → Reading
  | [] => .complete []
  | c :: rest =>
    match form? forms true (String.ofList ['-', c]) with
    | none => .unknown
    | some form =>
      if form.takesValue then
        if rest.isEmpty then .needsValue [] form
        else .complete [entry form (String.ofList rest)]
      else match readShort forms rest with
        | .complete given => .complete (entry form "" :: given)
        | .needsValue given last => .needsValue (entry form "" :: given) last
        | .unknown => .unknown

/-- Reads an argument that begins with a dash. -/
def read (forms : List OptionForm) (argument : String) : Reading :=
  let cs := argument.toList
  let spelling := String.ofList (cs.takeWhile (· ≠ '='))
  let attached := cs.dropWhile (· ≠ '=')
  match form? forms false spelling with
  | some form =>
    if form.takesValue then
      if attached.isEmpty then .needsValue [] form
      else .complete [entry form (String.ofList (attached.drop 1))]
    else if attached.isEmpty then .complete [entry form ""]
    else .unknown
  | none =>
    if cs.take 2 = ['-', '-'] then .unknown else readShort forms (cs.drop 1)

/-- Takes a command line apart; nothing if it cannot be understood. -/
def scan (forms : List OptionForm) (among : Bool) : List String → Option Options
  | [] => some {}
  | argument :: rest =>
    if argument = "--" then some { others := rest }
    else if 1 < argument.length && argument.toList.take 1 = ['-'] then
      match read forms argument with
      | .unknown => none
      | .complete given =>
        (scan forms among rest).map fun o => { o with given := given ++ o.given }
      | .needsValue given form => match rest with
        | [] => none
        | value :: rest =>
          (scan forms among rest).map fun o =>
            { o with given := given ++ entry form value :: o.given }
    else if among then
      (scan forms among rest).map fun o => { o with others := argument :: o.others }
    else some { others := argument :: rest }

end Options

end Lockable.Command
