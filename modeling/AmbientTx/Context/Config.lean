import AmbientTx.Failure.ContextError
import AmbientTx.Toml.Decode

/-! # Configuration of contexts

One configuration holds for all workers. It is valid when its default branch mode is absent or a
mode that may be the default.
-/

namespace AmbientTx

/-- The configuration of contexts. -/
structure ContextConfig where
  /-- The branch mode inside a transaction when none is bound. -/
  defaultMode : Option BranchMode := none
  /-- The timeout of a worker without one of its own, in milliseconds. -/
  defaultTimeout : Option UInt64 := none
  /-- Whether propagated work is traced by spans. -/
  traceSpans : Bool := true
  deriving DecidableEq

namespace ContextConfig

/-- The defaults without spans. -/
def quiet : ContextConfig :=
  { traceSpans := false }

/-- Accepts a mode that may be the default. -/
def checkMode (m : BranchMode) : Except ContextError Unit :=
  if m.mayBeDefault then .ok () else .error (.illegalDefaultMode m)

/-- Accepts a valid configuration. -/
def validate (c : ContextConfig) : Except ContextError Unit :=
  match c.defaultMode with
  | none => .ok ()
  | some m => checkMode m

/-- The same configuration with a default mode that may be one. -/
def withDefaultMode (c : ContextConfig) (m : BranchMode) : Except ContextError ContextConfig :=
  match checkMode m with
  | .ok () => .ok { c with defaultMode := some m }
  | .error e => .error e

/-- The names of the fields, in order. -/
def fieldNames : List String :=
  ["default_branch_type", "default_timeout_ms", "trace_spans"]

/-- The JSON object of a configuration. -/
def toJson (c : ContextConfig) : Json :=
  .object
    [("default_branch_type", Json.ofOption BranchMode.toJson c.defaultMode),
     ("default_timeout_ms", Json.ofOption Json.ofUInt64 c.defaultTimeout),
     ("trace_spans", .bool c.traceSpans)]

/-- Reads a configuration, valid or not. A field that is left out has its default, and a field
that is not known is refused. -/
def ofJson? (j : Json) : Option ContextConfig := do
  match ← j.fields? true fieldNames with
  | [mode, timeout, spans] =>
    let defaultMode ← Json.optional BranchMode.ofJson? mode
    let defaultTimeout ← Json.optional Json.uint64? timeout
    let traceSpans ← Json.orDefault true Json.bool? spans
    return { defaultMode, defaultTimeout, traceSpans }
  | _ => none

/-- Reads a configuration, valid or not, from the entries of a document. -/
def ofTable? (t : Toml.Table) : Option ContextConfig := do
  let [mode, timeout, spans] ← t.fields? fieldNames | none
  let defaultMode ← Toml.optional (fun v => v.caseName? >>= BranchMode.ofName?) mode
  let defaultTimeout ← Toml.optional Toml.Value.word? timeout
  let traceSpans ← Toml.orDefault true Toml.Value.bool? spans
  return { defaultMode, defaultTimeout, traceSpans }

/-- Reads a valid configuration from the text of a document. -/
def ofToml (source : String) : Except (Toml.LoadError ContextError) ContextConfig :=
  match Toml.parse source >>= ofTable? with
  | none => .error .malformed
  | some c =>
    match c.validate with
    | .ok () => .ok c
    | .error e => .error (.rejected e)

/-- Reads a valid configuration from a file. -/
def ofFile (file : Toml.File) : Except (Toml.LoadError ContextError) ContextConfig :=
  file.load ContextError.configuration ofToml

/-- How a log field shows a configuration. -/
def shown (c : ContextConfig) : String :=
  Text.showRecord "ContextConfig"
    [("default_branch_type", Text.showOption BranchMode.name c.defaultMode),
     ("default_timeout_ms", Text.showOption (fun n => toString n.toNat) c.defaultTimeout),
     ("trace_spans", Text.showBool c.traceSpans)]

end ContextConfig
end AmbientTx
