import AnalysisEngines.Value.Display

/-!
Failures that are reported to a user: their kinds, categories and context.

A failure's context is a record of four named fields and any number of further ones.  `report` is
the failure as one mapping.  A name that the record itself uses cannot be a further field:
`summaryName` hides the summary, and the other reserved names are taken without a trace.
-/

set_option autoImplicit false

namespace AnalysisEngines

inductive Category where
  | config
  | runtime
  | validation
  | internal
  | unknown
  deriving DecidableEq, Inhabited

namespace Category

def name : Category → String
  | .config => "CONFIG"
  | .runtime => "RUNTIME"
  | .validation => "VALIDATION"
  | .internal => "INTERNAL"
  | .unknown => "UNKNOWN"

def all : List Category := [.config, .runtime, .validation, .internal, .unknown]

def ofName? (text : String) : Option Category := all.find? fun category => category.name == text

theorem ofName?_name (category : Category) : ofName? category.name = some category := by
  cases category <;> decide

end Category

namespace Failure

inductive Kind where
  | general
  | configuration
  | engineNotFound
  | invalidManifest
  | invalidConfiguration
  | containerRuntime
  | imagePull
  | runtimeUnavailable
  | invalidLocation
  deriving DecidableEq, Inhabited

namespace Kind

/-- The more general kind that a kind belongs to. -/
def parent? : Kind → Option Kind
  | .general => none
  | .configuration | .containerRuntime | .invalidLocation => some .general
  | .engineNotFound | .invalidManifest | .invalidConfiguration => some .configuration
  | .imagePull | .runtimeUnavailable => some .containerRuntime

/-- A kind and the kinds it belongs to, the most general one last. -/
def lineage : Kind → List Kind
  | .general => [.general]
  | .configuration => [.configuration, .general]
  | .containerRuntime => [.containerRuntime, .general]
  | .invalidLocation => [.invalidLocation, .general]
  | .engineNotFound => [.engineNotFound, .configuration, .general]
  | .invalidManifest => [.invalidManifest, .configuration, .general]
  | .invalidConfiguration => [.invalidConfiguration, .configuration, .general]
  | .imagePull => [.imagePull, .containerRuntime, .general]
  | .runtimeUnavailable => [.runtimeUnavailable, .containerRuntime, .general]

def name : Kind → String
  | .general => "AnalyzerError"
  | .configuration => "ConfigError"
  | .engineNotFound => "EngineNotFoundError"
  | .invalidManifest => "InvalidManifestError"
  | .invalidConfiguration => "InvalidConfigError"
  | .containerRuntime => "ContainerRuntimeError"
  | .imagePull => "ImagePullFailure"
  | .runtimeUnavailable => "RuntimeUnavailableError"
  | .invalidLocation => "InvalidLocationError"

def all : List Kind :=
  [.general, .configuration, .engineNotFound, .invalidManifest, .invalidConfiguration,
    .containerRuntime, .imagePull, .runtimeUnavailable, .invalidLocation]

def ofName? (text : String) : Option Kind := all.find? fun kind => kind.name == text

def category : Kind → Category
  | .general => .unknown
  | .configuration | .engineNotFound | .invalidManifest | .invalidConfiguration => .config
  | .containerRuntime | .imagePull | .runtimeUnavailable => .runtime
  | .invalidLocation => .validation

/-- Only a runtime that is not there now may be there later. -/
def retryable : Kind → Bool
  | .runtimeUnavailable => true
  | _ => false

end Kind

/-- The four named fields; `null` counts as not given. -/
structure Context where
  engine : Value := .null
  channel : Value := .null
  image : Value := .null
  path : Value := .null
  further : List (Value × Value) := []
  /-- What stands in place of the summary, once its name was used for a field. -/
  summary : Option Value := none
  deriving Inhabited

namespace Context

def summaryName : String := "to_dict"

/-- Names of the record's own parts beside its fields. -/
def reservedNames : List String :=
  ["__annotations__", "__class__", "__dataclass_fields__", "__dataclass_params__", "__delattr__",
    "__dict__", "__dir__", "__doc__", "__eq__", "__format__", "__ge__", "__getattribute__",
    "__getstate__", "__gt__", "__hash__", "__init__", "__init_subclass__", "__le__", "__lt__",
    "__match_args__", "__module__", "__ne__", "__new__", "__reduce__", "__reduce_ex__",
    "__repr__", "__setattr__", "__sizeof__", "__str__", "__subclasshook__", "__weakref__"]

/-- Why a field cannot be given to a context. -/
inductive Refusal where
  /-- The name is that of the object which an operation is about. -/
  | receiver (operation : String)
  | unknown (name : String)
  | notAClass (value : Value)
  | notAMapping (value : Value)
  /-- A mapping in place of all parts of the record: what the record is then is not told here. -/
  | replaced
  | notWritable

def Refusal.message : Refusal → String
  | .receiver operation => operation ++ " got multiple values for argument 'self'"
  | .unknown name =>
      "ErrorContext.__init__() got an unexpected keyword argument " ++ Text.quoted name
  | .notAClass value =>
      "__class__ must be set to a class, not " ++ Text.quoted value.kindName ++ " object"
  | .notAMapping value =>
      "__dict__ must be set to a dictionary, not a " ++ Text.quoted value.kindName
  | .replaced => "__dict__ has been replaced"
  | .notWritable => "attribute '__weakref__' of 'ErrorContext' objects is not writable"

def receiverName : String := "self"

/-- Three parts of the record are not free to take any value. -/
def refusal? (name : String) (value : Value) : Option Refusal :=
  if name = "__class__" then some (.notAClass value)
  else if name = "__dict__" then
    match value with
    | .map _ => some .replaced
    | other => some (.notAMapping other)
  else if name = "__weakref__" then some .notWritable
  else none

def assign (name : String) (value : Value) (context : Context) : Context :=
  if name = "engine" then { context with engine := value }
  else if name = "channel" then { context with channel := value }
  else if name = "image" then { context with image := value }
  else if name = "path" then { context with path := value }
  else if name = summaryName then { context with summary := some value }
  else if reservedNames.contains name then context
  else { context with further := Value.assign (.text name) value context.further }

/-- A context with fields added to it one by one. -/
def extend (context : Context) (fields : List (String × Value)) : Context :=
  fields.foldl (fun context field => context.assign field.1 field.2) context

def named (name : String) (value : Value) : List (Value × Value) :=
  match value with
  | .null => []
  | given => [(.text name, given)]

/-- A context from named fields, where a mapping of metadata gives all further fields. -/
def ofFields (fields : List (String × Value)) : Except Refusal Context :=
  fields.foldlM (fun context field =>
    match field with
    | ("metadata", .map further) => .ok { context with further }
    | (name, value) =>
        if ["engine", "channel", "image", "path"].contains name then
          .ok (context.assign name value)
        else if name = receiverName then .error (.receiver "ErrorContext.__init__()")
        else .error (.unknown name)) {}

/-- The given fields in order, further ones after the named four.  A further field with a named
one's name replaces it. -/
def fields (context : Context) : List (Value × Value) :=
  context.further.foldl (fun known entry => Value.assign entry.1 entry.2 known)
    (named "engine" context.engine ++ named "channel" context.channel ++
      named "image" context.image ++ named "path" context.path)

/-- The fields, or the value that hides them. -/
def summarize (context : Context) : Except Value (List (Value × Value)) :=
  match context.summary with
  | some value => .error value
  | none => .ok context.fields

/-- What asking for a hidden summary says. -/
def hiddenMessage (value : Value) : String :=
  Text.quoted value.kindName ++ " object is not callable"

end Context

end Failure

structure Failure where
  kind : Failure.Kind
  message : String
  category : Category
  retryable : Bool
  context : Failure.Context := {}
  cause : Option String := none
  /-- Name and channel of an engine that was not found. -/
  label : Option String := none
  deriving Inhabited

namespace Failure

def ofKind (kind : Kind) (message : String) (context : Context) : Failure :=
  { kind, message, category := kind.category, retryable := kind.retryable, context }

/-- Adds fields to the context, each one replacing what its name had before. -/
def withContext (failure : Failure) (fields : List (String × Value)) : Failure :=
  { failure with context := failure.context.extend fields }

/-- Adds fields to the context, unless one of them cannot be added. -/
def annotate (failure : Failure) (fields : List (String × Value)) :
    Except Context.Refusal Failure :=
  if fields.any fun field => field.1 == Context.receiverName then
    .error (.receiver "AnalyzerError.with_context()")
  else
    match fields.findSome? fun field => Context.refusal? field.1 field.2 with
    | some refusal => .error refusal
    | none => .ok (failure.withContext fields)

/-- Adds the fields of several calls, one call after the other. -/
def annotateAll (failure : Failure) (calls : List (List (String × Value))) :
    Except Context.Refusal Failure := calls.foldlM annotate failure

def withCause (failure : Failure) (cause : Option String) : Failure :=
  { failure with cause }

def engineNotFound (name channel : Value) : Failure :=
  let label := name.display ++ ":" ++ channel.display
  { ofKind .engineNotFound ("unknown engine <" ++ label ++ ">") { engine := name, channel } with
    label := some label }

def invalidConfiguration (key value : Value) (message : Option String) : Failure :=
  let text := match message with
    | some given => if given = "" then none else some given
    | none => none
  ofKind .invalidConfiguration
    (text.getD ("Invalid configuration for '" ++ key.display ++ "': " ++ value.quoted))
    { engine := key }

def imagePull (image : Value) : Failure :=
  ofKind .imagePull ("unable to pull image " ++ image.display) { image }

def runtimeUnavailable (message : String) : Failure := ofKind .runtimeUnavailable message {}

/-- A failure of a kind from what it is about. -/
def ofArguments (kind : Kind) (arguments : List Value) : Failure :=
  let argument (index : Nat) : Value := arguments.getD index .null
  match kind with
  | .engineNotFound => engineNotFound (argument 0) (argument 1)
  | .invalidConfiguration =>
      invalidConfiguration (argument 0) (argument 1) (argument 2).text?
  | .imagePull => imagePull (argument 0)
  | other => ofKind other (argument 0).display {}

/-- The failure as one mapping; the value that hides its context, if one does. -/
def report (failure : Failure) : Except Value (List (Value × Value)) := do
  let context ← failure.context.summarize
  return [(.text "error_type", .text failure.kind.name),
      (.text "message", .text failure.message),
      (.text "category", .text failure.category.name),
      (.text "retryable", .bool failure.retryable)] ++
    (if context.isEmpty then [] else [(.text "context", .map context)]) ++
    (match failure.cause with
      | some cause => [(.text "cause", .text cause)]
      | none => [])

/-- A failure on one line for debugging. -/
def brief (failure : Failure) : String :=
  failure.kind.name ++ "(" ++ Text.quoted failure.message ++ ", category=" ++
    failure.category.name ++ ")"

end Failure

end AnalysisEngines
