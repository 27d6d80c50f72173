import AmbientTx.Failure.CallError
import AmbientTx.Json.Fields
import AmbientTx.Text.Blank
import AmbientTx.Text.Quoted
import AmbientTx.Toml.Decode

/-! # Client options

Who the client is and what it asks of the transaction manager when it begins a transaction. The
options are valid when neither name is blank and the timeout is not zero.
-/

namespace AmbientTx

/-- The options of a client of the transaction manager. -/
structure ClientOptions where
  /-- The application that begins transactions. -/
  application : String := "txscope-app"
  /-- The service group that the application belongs to. -/
  group : String := "default_tx_group"
  /-- The timeout when neither the call nor the worker has one, in milliseconds. -/
  defaultTimeout : UInt64 := 60000
  deriving DecidableEq, Repr

namespace ClientOptions

/-- A rule that options break. -/
inductive Defect where
  | blankApplication
  | blankGroup
  | zeroTimeout
  deriving DecidableEq, Repr

/-- The wording of a defect. -/
def Defect.message : Defect → String
  | .blankApplication => "application_id must not be blank"
  | .blankGroup => "tx_service_group must not be blank"
  | .zeroTimeout => "default_timeout_ms must be positive"

/-- The first rule that options break. -/
def defect? (o : ClientOptions) : Option Defect :=
  if Text.isBlank o.application then some .blankApplication
  else if Text.isBlank o.group then some .blankGroup
  else if o.defaultTimeout = 0 then some .zeroTimeout
  else none

/-- Accepts options that break no rule. -/
def validate (o : ClientOptions) : Except SetupError Unit :=
  match o.defect? with
  | none => .ok ()
  | some d => .error (.configuration d.message)

/-- The names of the fields, in order. -/
def fieldNames : List String :=
  ["application_id", "tx_service_group", "default_timeout_ms"]

/-- The JSON object of options. -/
def toJson (o : ClientOptions) : Json :=
  .object
    [("application_id", .string o.application), ("tx_service_group", .string o.group),
     ("default_timeout_ms", Json.ofUInt64 o.defaultTimeout)]

/-- Reads options, valid or not. A field that is left out has its default, and a field that is not
known is refused. -/
def ofJson? (j : Json) : Option ClientOptions := do
  let base : ClientOptions := {}
  match ← j.fields? true fieldNames with
  | [application, group, timeout] =>
    let application ← Json.orDefault base.application Json.text? application
    let group ← Json.orDefault base.group Json.text? group
    let defaultTimeout ← Json.orDefault base.defaultTimeout Json.uint64? timeout
    return { application, group, defaultTimeout }
  | _ => none

/-- Reads options, valid or not, from the entries of a document. -/
def ofTable? (t : Toml.Table) : Option ClientOptions := do
  let base : ClientOptions := {}
  let [application, group, timeout] ← t.fields? fieldNames | none
  let application ← Toml.orDefault base.application Toml.Value.text? application
  let group ← Toml.orDefault base.group Toml.Value.text? group
  let defaultTimeout ← Toml.orDefault base.defaultTimeout Toml.Value.word? timeout
  return { application, group, defaultTimeout }

/-- Reads valid options from the text of a document. -/
def ofToml (source : String) : Except (Toml.LoadError SetupError) ClientOptions :=
  match Toml.parse source >>= ofTable? with
  | none => .error .malformed
  | some o =>
    match o.validate with
    | .ok () => .ok o
    | .error e => .error (.rejected e)

/-- Reads valid options from a file. -/
def ofFile (file : Toml.File) : Except (Toml.LoadError SetupError) ClientOptions :=
  file.load SetupError.configuration ofToml

/-- The options, shown. -/
def shown (o : ClientOptions) : String :=
  Text.showRecord "TmOptions"
    [("application_id", Text.quote o.application), ("tx_service_group", Text.quote o.group),
     ("default_timeout_ms", toString o.defaultTimeout.toNat)]

end ClientOptions
end AmbientTx
