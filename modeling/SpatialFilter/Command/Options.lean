/-! The arguments of the command. -/
namespace SpatialFilter.Command

structure Options where
  sources : List String
  configPath : Option String
  registryPath : Option String
  conjoin : Bool
deriving DecidableEq

inductive Request where
  | run (options : Options)
  | version
  | help
  | misuse
deriving DecidableEq

namespace Options

def none : Options := ⟨[],.none,.none,false⟩

def setConfigPath (o : Options) (path : String) : Option Options :=
  if o.configPath.isSome then .none else some { o with configPath := path }

def setRegistryPath (o : Options) (path : String) : Option Options :=
  if o.registryPath.isSome then .none else some { o with registryPath := path }

def setConjoin (o : Options) : Option Options :=
  if o.conjoin then .none else some { o with conjoin := true }

def addSources (o : Options) (sources : List String) : Options :=
  { o with sources := o.sources ++ sources }

end Options

/-- A dash with something behind it never is a value. A dash alone is one. -/
def looksLikeOption (argument : String) : Bool :=
  match argument.toList with
  | '-' :: _ :: _ => true
  | _ => false

inductive ValueOption where
  | config | properties

def ValueOption.apply : ValueOption → Options → String → Option Options
  | config,o,value => o.setConfigPath value
  | properties,o,value => o.setRegistryPath value

inductive Argument where
  | source
  | rest
  | flag
  | version
  | help
  | option (kind : ValueOption)
  | assigned (kind : ValueOption) (value : String)
  | unknown

def classifyLong (name : List Char) : Argument :=
  match String.ofList (name.takeWhile (· ≠ '=')),name.dropWhile (· ≠ '=') with
  | "",[] => .rest
  | "all",[] => .flag
  | "version",[] => .version
  | "help",[] => .help
  | "config",[] => .option .config
  | "properties",[] => .option .properties
  | "config",_ :: value => .assigned .config (String.ofList value)
  | "properties",_ :: value => .assigned .properties (String.ofList value)
  | _,_ => .unknown

def classify (argument : String) : Argument :=
  match argument.toList with
  | '-' :: '-' :: name => classifyLong name
  | '-' :: 'V' :: _ => .version
  | '-' :: 'h' :: _ => .help
  | '-' :: _ :: _ => .unknown
  | _ => .source

/-- Reads arguments from left to right; the first that is wrong or asks for a text decides. -/
def readArguments : List String → Options → Request
  | [],o => .run o
  | argument :: rest,o =>
    match classify argument with
    | .source => readArguments rest (o.addSources [argument])
    | .rest => .run (o.addSources rest)
    | .version => .version
    | .help => .help
    | .unknown => .misuse
    | .flag =>
      match o.setConjoin with
      | some o => readArguments rest o
      | .none => .misuse
    | .assigned kind value =>
      match kind.apply o value with
      | some o => readArguments rest o
      | .none => .misuse
    | .option kind =>
      match rest with
      | [] => .misuse
      | value :: rest =>
        if looksLikeOption value then .misuse
        else
          match kind.apply o value with
          | some o => readArguments rest o
          | .none => .misuse

end SpatialFilter.Command
