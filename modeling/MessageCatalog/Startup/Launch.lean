import MessageCatalog.Http.Formatter
import MessageCatalog.Startup.Arguments
import MessageCatalog.Startup.Logging

/-!
Starting the server: the settings are loaded and checked, then changed by the options of the command
line and checked again, logging is set up, the catalogs are loaded, and the address is taken.
-/

namespace MessageCatalog

/-- What a started program comes to. `ready` is a server that may listen on the address. -/
inductive Outcome where
  | printed (text : String)
  | misused
  | failed (failure : Failure)
  | ready (formatter : Http.Formatter) (address : String)

namespace Launch

def versionText : String := "msgcat-server 0.1.0"

def summary : String := "Serve message catalogs and format cataloged error responses"

def usage : String :=
  summary ++ "\n\nUsage: msgcat-server [OPTIONS]\n\nOptions:\n" ++
    "  -c, --config <FILE>  Configuration file (YAML)\n" ++
    "  -i, --index <FILE>   Catalog index file, overrides the configuration\n" ++
    "  -b, --bind <ADDR>    Listen address, overrides the configuration\n" ++
    "  -h, --help           Print help\n" ++
    "  -V, --version        Print version"

def applyArguments (arguments : Arguments) (settings : Settings) : Settings :=
  { settings with
    catalogIndex := arguments.index.getD settings.catalogIndex
    bindAddress := arguments.bind.getD settings.bindAddress }

def loadSettings (tree : FileTree) (environment : Environment) (arguments : Arguments) :
    Except Failure Settings :=
  match Settings.load tree environment arguments.config with
  | .error error => .error (.within "Failed to load configuration" (.ofSettingsError error))
  | .ok settings =>
      match (applyArguments arguments settings).check with
      | .ok settings => .ok settings
      | .error error => .error (.badSettings (.ofSettingsError error))

def loadLibrary (tree : FileTree) (settings : Settings) : Except Failure Library :=
  match Library.load tree settings.catalogIndex with
  | .ok library => .ok library
  | .error error => .error (.badCatalogs error)

def start (tree : FileTree) (environment : Environment) (arguments : Arguments) :
    Except Failure (Http.Formatter × String) := do
  let settings ← loadSettings tree environment arguments
  let _ ← LogState.fresh.initialize? settings.logging
  let library ← loadLibrary tree settings
  .ok (⟨library, none, settings.bodyLimit⟩, settings.bindAddress)

/-- Why an address cannot be listened on: it has no port, or its host is no address of this
machine. -/
def unboundReason? (address : String) : Option Failure :=
  if !address.toList.contains ':' then
    some (.unboundAddress address (.plain "invalid socket address"))
  else
    match SocketAddress.ofText? address.toList with
    | some socket =>
        if socket.host.isLocal then none
        else some (.unboundAddress address (.plain "Cannot assign requested address (os error 99)"))
    | none => none

def run (tree : FileTree) (environment : Environment) (arguments : List String) : Outcome :=
  match Arguments.read arguments with
  | .help => .printed usage
  | .version => .printed versionText
  | .misuse => .misused
  | .run arguments =>
      match start tree environment arguments with
      | .error failure => .failed failure
      | .ok (formatter, address) =>
          match unboundReason? address with
          | some failure => .failed failure
          | none => .ready formatter address

end Launch

end MessageCatalog
