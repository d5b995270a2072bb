namespace DeltaQuery.CommandLine

structure Request where
  settingsPath : Option String := none
  input : Option String := none
  unbounded : Bool := false
  keys : List String := []
  aggregates : List String := []
deriving DecidableEq

inductive Command
  | group (request : Request)
  | version
  | help
deriving DecidableEq

inductive Parameter
  | settings
  | input
  | key
  | aggregate
deriving DecidableEq

inductive Argument
  | parameter (parameter : Parameter) (attached : Option String)
  | unbounded
  | version
  | help
  | ending
  | unknown
deriving DecidableEq

namespace Argument

def ofName (name : String) (attached : Option String) : Argument :=
  match name, attached with
  | "config", value => .parameter .settings value
  | "input", value => .parameter .input value
  | "key", value => .parameter .key value
  | "agg", value => .parameter .aggregate value
  | "unbounded", none => .unbounded
  | "version", none => .version
  | "help", none => .help
  | _, _ => .unknown

def ofLetter (letter : Char) (attached : Option String) : Argument :=
  match letter with
  | 'c' => .parameter .settings attached
  | 'i' => .parameter .input attached
  | 'k' => .parameter .key attached
  | 'a' => .parameter .aggregate attached
  | 'V' => .version
  | 'h' => .help
  | _ => .unknown

def afterEquals : List Char → Option String
  | '=' :: value => some (String.ofList value)
  | _ => none

def afterLetter : List Char → Option String
  | [] => none
  | '=' :: value => some (String.ofList value)
  | value => some (String.ofList value)

def ofChars : List Char → Argument
  | ['-', '-'] => .ending
  | '-' :: '-' :: text =>
    ofName (String.ofList (text.takeWhile (· != '='))) (afterEquals (text.dropWhile (· != '=')))
  | '-' :: letter :: text => ofLetter letter (afterLetter text)
  | _ => .unknown

def ofText (text : String) : Argument := ofChars text.toList

end Argument

def isDashed (text : String) : Bool :=
  match text.toList with
  | '-' :: _ :: _ => true
  | _ => false

namespace Request

def give? (request : Request) (parameter : Parameter) (value : String) : Option Request :=
  match parameter with
  | .settings =>
    if request.settingsPath.isSome || value.isEmpty then none
    else some { request with settingsPath := some value }
  | .input => if request.input.isSome then none else some { request with input := some value }
  | .key => some { request with keys := request.keys ++ [value] }
  | .aggregate => some { request with aggregates := request.aggregates ++ [value] }

-- The path of the input; a dash or nothing stands for the standard one.
def inputPath (request : Request) : Option String := request.input.filter (· != "-")

-- A request that is complete: it has an aggregate, and settings that were not given are at the default path,
-- if there is one.
def complete? (request : Request) (defaultPath : Option String) : Option Request :=
  let settingsPath := request.settingsPath.or defaultPath
  if request.aggregates.isEmpty || settingsPath == some "" then none else some { request with settingsPath }

end Request

namespace Command

-- Arguments are read in order, so asking for the version or for help is the end of it.
def readFrom (defaultPath : Option String) (request : Request) : List String → Option Command
  | [] => (request.complete? defaultPath).map .group
  | text :: rest =>
    match Argument.ofText text, rest with
    | .parameter parameter (some value), rest =>
      match request.give? parameter value with
      | some request => readFrom defaultPath request rest
      | none => none
    | .parameter parameter none, value :: rest =>
      if isDashed value then none
      else
        match request.give? parameter value with
        | some request => readFrom defaultPath request rest
        | none => none
    | .parameter _ none, [] => none
    | .unbounded, rest =>
      if request.unbounded then none else readFrom defaultPath { request with unbounded := true } rest
    | .version, _ => some .version
    | .help, _ => some .help
    | .ending, rest => if rest.isEmpty then (request.complete? defaultPath).map .group else none
    | .unknown, _ => none

def read? (defaultPath : Option String) (arguments : List String) : Option Command :=
  readFrom defaultPath {} arguments

end Command

end DeltaQuery.CommandLine
