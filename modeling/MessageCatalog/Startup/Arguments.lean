/-!
The command line. An option takes its value from the same argument or from the next one, which must
not look like an option itself; asking for help or the version ends reading at once, and so does the
first mistake.
-/

namespace MessageCatalog

structure Arguments where
  config : Option String
  index : Option String
  bind : Option String
deriving DecidableEq

inductive Invocation where
  | run (arguments : Arguments)
  | help
  | version
  | misuse
deriving DecidableEq

namespace Arguments

def none : Arguments := ⟨.none, .none, .none⟩

inductive Flag where
  | config
  | index
  | bind
deriving DecidableEq

inductive Name where
  | flag (flag : Flag)
  | help
  | version
deriving DecidableEq

def ofLongName? (name : List Char) : Option Name :=
  if name == "config".toList then some (.flag .config)
  else if name == "index".toList then some (.flag .index)
  else if name == "bind".toList then some (.flag .bind)
  else if name == "help".toList then some .help
  else if name == "version".toList then some .version
  else Option.none

def ofShortName? (c : Char) : Option Name :=
  if c = 'c' then some (.flag .config)
  else if c = 'i' then some (.flag .index)
  else if c = 'b' then some (.flag .bind)
  else if c = 'h' then some .help
  else if c = 'V' then some .version
  else Option.none

/-- A lone dash is a value. -/
def looksLikeOption (argument : List Char) : Bool := argument.head? == some '-' && argument != ['-']

/-- An option must not be given twice, and the settings file must have a name. -/
def give (flag : Flag) (value : String) (arguments : Arguments) : Option Arguments :=
  match flag with
  | .config =>
      if arguments.config.isSome || value.isEmpty then Option.none
      else some { arguments with config := some value }
  | .index =>
      if arguments.index.isSome then Option.none else some { arguments with index := some value }
  | .bind =>
      if arguments.bind.isSome then Option.none else some { arguments with bind := some value }

/-- What one argument says: an option that still wants its value, one with its value, or something
that settles the matter. -/
inductive Reading where
  | wants (flag : Flag)
  | gives (flag : Flag) (value : String)
  | settles (invocation : Invocation)

def readLong (body : List Char) : Reading :=
  let name := body.takeWhile (· != '=')
  match ofLongName? name, body.dropWhile (· != '=') with
  | some (.flag flag), '=' :: value => .gives flag (String.ofList value)
  | some (.flag flag), _ => .wants flag
  | some .help, [] => .settles .help
  | some .version, [] => .settles .version
  | _, _ => .settles .misuse

/-- The value of a short option may follow it directly or behind an equals sign. -/
def readShort (body : List Char) : Reading :=
  match body with
  | [] => .settles .misuse
  | c :: rest =>
      match ofShortName? c with
      | some .help => .settles .help
      | some .version => .settles .version
      | some (.flag flag) =>
          match rest with
          | [] => .wants flag
          | '=' :: value => .gives flag (String.ofList value)
          | value => .gives flag (String.ofList value)
      | Option.none => .settles .misuse

def readArgument (argument : List Char) : Reading :=
  match argument with
  | '-' :: '-' :: body => readLong body
  | '-' :: c :: rest => readShort (c :: rest)
  | _ => .settles .misuse

/-- Reads the arguments in order. Behind a double dash nothing but positional arguments may follow,
and there are none. -/
def readFrom (pending : Option Flag) (arguments : Arguments) : List String → Invocation
  | [] => if pending.isSome then .misuse else .run arguments
  | argument :: rest =>
      match pending with
      | some flag =>
          if looksLikeOption argument.toList then .misuse
          else
            match give flag argument arguments with
            | some arguments => readFrom Option.none arguments rest
            | Option.none => .misuse
      | Option.none =>
          if argument = "--" then (if rest.isEmpty then .run arguments else .misuse)
          else
            match readArgument argument.toList with
            | .wants flag => readFrom (some flag) arguments rest
            | .gives flag value =>
                match give flag value arguments with
                | some arguments => readFrom Option.none arguments rest
                | Option.none => .misuse
            | .settles invocation => invocation

def read (arguments : List String) : Invocation := readFrom Option.none none arguments

end Arguments

end MessageCatalog
