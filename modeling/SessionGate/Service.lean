import SessionGate.Provider
import SessionGate.Settings
import SessionGate.Verifier

/-!
# Services

A service has a name, settings and a collector, and the service for sessions has a provider as
well. Setting a service up reads its settings, asks for its collector and sets the journal up, in
this order, so that each of these can fail with the ones before it done.
-/

namespace SessionGate

/-- What a service finds where it is started. -/
structure Surroundings where
  environment : List (String × String) := []
  /-- The text of the settings file. -/
  settingsFile : Option String := none
  /-- The other files. -/
  files : Files := []

/-- The name of the settings file. -/
def Surroundings.settingsFileName : String := ".env"

/-- All files that are found, the settings file being one of them. -/
def Surroundings.directory (place : Surroundings) : Files :=
  place.files ++ (place.settingsFile.map fun text ↦ (settingsFileName, Text.utf8 text)).toList

structure Service where
  name : String
  settings : Settings
  startedAt : Moment
  /-- The commit the service was built from. -/
  commit : String
  provider : Option Provider := none
  /-- Why the dependencies cannot be checked, if they cannot. -/
  dependencyFault : Option String := none
  deriving Repr

namespace Service

def version : String := "1.0.0"

def sessionsName : String := "auth"

def sessionsPort : Int := 8010

/-! ## Setting up -/

/-- The environment variable that names the commit. -/
def commitVariable : String := "GIT_COMMIT"

def setUp (place : Surroundings) (name : String) (port : Json) : Action Service := do
  let settings ← Action.liftDefect <|
    (Settings.read place.environment place.settingsFile (.str name) port).toExcept.mapError
      .ofFaults
  let w ← get
  let (obtained, collectors) := w.collectors.obtain name none
  set { w with collectors }
  let _ ← Action.liftDefect obtained
  let w ← get
  let (journal, fault) := w.journal.configure settings.logLevel
  set { w with journal }
  match fault with
  | some defect => Action.escape defect
  | none =>
    return {
      name, settings
      startedAt := w.now
      commit := (place.environment.lookup commitVariable).getD "unknown" }

/-- The service with a provider, whose policy is installed. -/
def withProvider (s : Service) (p : Provider) : Action Service := do
  modify fun w ↦ { w with policy := p.data.policy }
  return { s with provider := some p }

/-- Sets the service for sessions up with a provider. -/
def setUpWith (place : Surroundings) (p : Provider) : Action Service := do
  let s ← setUp place sessionsName (.int sessionsPort)
  s.withProvider p

/-- The keys of the settings: without a file there are none. -/
def loadKeys (place : Surroundings) (s : Service) : Action Json := do
  match s.settings.keyFile with
  | none | some "" =>
    Action.log ⟨s.name, .warning,
      .str "No JWKS configured; every identity token will be rejected", []⟩
    return .obj [("keys", .arr [])]
  | some path => Action.liftDefect (KeyFile.load place.directory path)

/-- Sets the service for sessions up with the provider of its settings. -/
def setUpSessions (place : Surroundings) : Action Service := do
  let s ← setUp place sessionsName (.int sessionsPort)
  let keys ← s.loadKeys place
  let expectations : Expectations :=
    { issuer := some s.settings.issuerUrl, audience := some s.settings.clientId }
  s.withProvider {
    data := s.settings.providerData
    verifier := { keys := .document keys, expectations } }

/-! ## What a service says about itself -/

/-- Whether the service is tried out on the machine it is worked on. -/
def isLocal (s : Service) : Bool :=
  s.settings.env = "local"

def title (s : Service) : String :=
  let name := Text.title s.name
  s!"{name} Service"

def description (s : Service) : String :=
  let name := Text.title s.name
  s!"254Carbon Access Layer - {name} Service"

/-- Where the pages about the service are; only a local service has them. -/
def docsPath? (s : Service) : Option String :=
  if s.isLocal then some "/docs" else none

/-- The level of the log of the server that runs the service. -/
def serverLogLevel (s : Service) : String :=
  Text.lower s.settings.logLevel

end Service

end SessionGate
