import MessageCatalog.Startup.Failure

/-!
Logging is set up once for the whole process; every later attempt fails.
-/

namespace MessageCatalog

/-- Whether logging has been set up. -/
structure LogState where
  isSet : Bool
deriving DecidableEq

namespace LogState

def fresh : LogState := ⟨false⟩

def initialize? (_ : LogSettings) (state : LogState) : Except Failure LogState :=
  if state.isSet then
    .error (.badLogging (.plain "a global default trace dispatcher has already been set"))
  else .ok ⟨true⟩

end LogState

end MessageCatalog
