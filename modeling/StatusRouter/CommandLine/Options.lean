import StatusRouter.CommandLine.LogFilter
import StatusRouter.CommandLine.SocketAddress
import StatusRouter.Routing.OwnerKind
import StatusRouter.Time.Span

/-!
# Options

The command line is a list of flags with long names, each of which has one value, either behind an
equals sign or as the next argument, which then must not begin with a hyphen.  Each flag may be
given once.  A flag that is not given has a default, and the log filter may come from the
environment.

The first thing that is wrong decides the error, a value being looked at when the next flag or the
end is reached, or at once if it stands behind an equals sign.  An argument that nothing expects
comes before all but the faults that end everything at once.
-/

namespace StatusRouter

/-- The flags of the command line. -/
inductive Flag where
  | logLevel
  | logFormat
  | cluster
  | context
  | configuration
  | user
  | asUser
  | asGroup
  | responseTimeout
  | adminAddress
  | ownerKind
  | queueSize
  deriving DecidableEq

/-- How events are written. -/
inductive LogFormat where
  | plain
  | json
  deriving DecidableEq

/-- What is wrong with a command line. -/
inductive UsageFault where
  | unexpectedArgument
  | missingValue
  | badValue
  | repeatedFlag
  /-- A log filter cannot be made of its directives. -/
  | badFilter (fault : LogFilter.Fault)
  /-- A span of time cannot be held. -/
  | badSpan (fault : SpanFault)
  deriving DecidableEq

/-- Why a program does not start. -/
inductive StartFault where
  | emptyQueue
  deriving DecidableEq

namespace UsageFault

/-- The name of the fault. -/
def name : UsageFault → String
  | unexpectedArgument => "UnknownArgument"
  | missingValue => "InvalidValue"
  | badValue => "ValueValidation"
  | repeatedFlag => "ArgumentConflict"
  | badFilter _ => "panic"
  | badSpan _ => "panic"

/-- The text of the fault. -/
def message : UsageFault → String
  | unexpectedArgument => "error: unexpected argument found"
  | missingValue => "error: one of the values isn't valid for an argument"
  | badValue => "error: invalid value for one of the arguments"
  | repeatedFlag =>
    "error: an argument cannot be used with one or more of the other specified arguments"
  | badFilter fault => fault.message
  | badSpan fault => fault.message

/-- Whether the fault ends everything at once, so that nothing else is reported in its place. -/
def isAbrupt : UsageFault → Bool
  | badFilter _ => true
  | badSpan _ => true
  | _ => false

end UsageFault

/-- The text of the fault. -/
def StartFault.message : StartFault → String
  | emptyQueue => "--requeue-queue-size must be greater than zero"

namespace LogFormat

/-- The format that a text names. -/
def ofText? : String → Option LogFormat
  | "plain" => some plain
  | "json" => some json
  | _ => none

/-- The name of a format. -/
def name : LogFormat → String
  | plain => "Plain"
  | json => "Json"

end LogFormat

namespace Flag

/-- The flag with a long name. -/
def ofName? : String → Option Flag
  | "log-level" => some logLevel
  | "log-format" => some logFormat
  | "cluster" => some cluster
  | "context" => some context
  | "kubeconfig" => some configuration
  | "user" => some user
  | "as" => some asUser
  | "as-group" => some asGroup
  | "kube-api-response-headers-timeout" => some responseTimeout
  | "admin-addr" => some adminAddress
  | "owner-kind" => some ownerKind
  | "requeue-queue-size" => some queueSize
  | _ => none

/-- The largest size of a queue. -/
def largestSize : Nat := 18446744073709551615

/-- The size that a text of decimal digits gives. -/
def size? (s : String) : Option Nat :=
  (Directive.number? s.toList).filter (· ≤ largestSize)

/-- Refuses a value that is not good. -/
def accept (good : Bool) : Except UsageFault Unit :=
  if good then .ok () else .error .badValue

/-- Refuses a text that is no log filter. -/
def checkLogFilter (value : String) : Except UsageFault Unit :=
  (LogFilter.check value).mapError fun
    | .directive .malformed => .badValue
    | fault => .badFilter fault

/-- The span of time that a text gives. -/
def readSpan (value : String) : Except UsageFault Span :=
  (Span.ofText value).mapError fun
    | .malformed => .badValue
    | fault => .badSpan fault

/-- Refuses a text that is no value of a flag.  An empty path counts as no value. -/
def check (value : String) : Flag → Except UsageFault Unit
  | logLevel => checkLogFilter value
  | logFormat => accept (LogFormat.ofText? value).isSome
  | adminAddress => accept (SocketAddress.ofText? value).isSome
  | queueSize => accept (size? value).isSome
  | configuration => if value.isEmpty then .error .missingValue else .ok ()
  | responseTimeout => do let _ ← readSpan value
  | _ => .ok ()

end Flag

/-- What the command line says. -/
structure Options where
  logFilter : String
  logFormat : LogFormat
  cluster : Option String
  context : Option String
  configuration : Option String
  user : Option String
  asUser : Option String
  asGroup : Option String
  responseTimeout : Span
  adminAddress : SocketAddress
  ownerKind : String
  queueSize : Nat
  deriving DecidableEq

/-- The flags that have been given, with their values. -/
abbrev Settings := List (Flag × String)

/-- A flag that waits to be settled, with its value once that was met. -/
abbrev Pending := Option (Flag × Option String)

namespace Settings

/-- Adds a flag with its value. -/
def settle (settings : Settings) (flag : Flag) (value : String) : Except UsageFault Settings :=
  if settings.any fun setting => setting.1 = flag then .error .repeatedFlag
  else do
    flag.check value
    return (flag, value) :: settings

/-- Adds the flag that waits. -/
def settlePending (settings : Settings) : Pending → Except UsageFault Settings
  | none => .ok settings
  | some (_, none) => .error .missingValue
  | some (flag, some value) => settings.settle flag value

/-- The fault of an unexpected argument.  The flag that waits is settled before, but only a fault
that ends everything at once is reported. -/
def unexpected (settings : Settings) (pending : Pending) : UsageFault :=
  match settings.settlePending pending with
  | .error fault => if fault.isAbrupt then fault else .unexpectedArgument
  | .ok _ => .unexpectedArgument

/-- Reads the arguments that are left. -/
def read (settings : Settings) (pending : Pending) : List String → Except UsageFault Settings
  | [] => settings.settlePending pending
  | argument :: rest =>
    match argument.toList with
    | ['-', '-'] =>
      if rest.isEmpty then settings.settlePending pending
      else .error (settings.unexpected pending)
    | '-' :: '-' :: body => do
      let name := body.takeWhile (· ≠ '=')
      match Flag.ofName? (String.ofList name) with
      | none => throw (settings.unexpected pending)
      | some flag =>
        let settings ← settings.settlePending pending
        match body.drop name.length with
        | [] => settings.read (some (flag, none)) rest
        | _ :: value => (← settings.settle flag (String.ofList value)).read none rest
    | '-' :: _ :: _ => .error (settings.unexpected pending)
    | _ =>
      match pending with
      | some (flag, none) => settings.read (some (flag, some argument)) rest
      | _ => .error (settings.unexpected pending)

/-- The value of a flag that was given. -/
def value? (settings : Settings) (flag : Flag) : Option String :=
  settings.lookup flag

end Settings

namespace Options

/-- The variable of the environment that may hold the log filter. -/
def logFilterVariable : String := "KAFKA_SOURCE_CONTROLLER_LOG"

/-- The log filter if none is given. -/
def defaultLogFilter : String := "kafka_source_controller=info,warn"

/-- The size of the queue if none is given. -/
def defaultQueueSize : Nat := 10000

/-- How long a response of the cluster is waited for if nothing is given. -/
def defaultResponseTimeout : Span := ⟨false, 9 * Span.perSecond⟩

/-- The address of the administrative server if none is given. -/
def defaultAdminAddress : SocketAddress := .v4 [0, 0, 0, 0] 8080

/-- The log filter: as given, or from the environment, or the default. -/
def logFilterOf (settings : Settings) (environment : Option String) : Except UsageFault String :=
  match settings.value? .logLevel, environment with
  | some filter, _ => .ok filter
  | none, some filter => do
    Flag.checkLogFilter filter
    return filter
  | none, none => .ok defaultLogFilter

/-- What the arguments say, given the log filter of the environment. -/
def ofArguments (arguments : List String) (environment : Option String) :
    Except UsageFault Options := do
  let settings ← Settings.read [] none arguments
  let logFilter ← logFilterOf settings environment
  return {
    logFilter
    logFormat := ((settings.value? .logFormat).bind LogFormat.ofText?).getD .plain
    cluster := settings.value? .cluster
    context := settings.value? .context
    configuration := settings.value? .configuration
    user := settings.value? .user
    asUser := settings.value? .asUser
    asGroup := settings.value? .asGroup
    responseTimeout :=
      ((settings.value? .responseTimeout).bind fun value => (Flag.readSpan value).toOption).getD
        defaultResponseTimeout
    adminAddress :=
      ((settings.value? .adminAddress).bind SocketAddress.ofText?).getD defaultAdminAddress
    ownerKind := (settings.value? .ownerKind).getD ResourceKind.kafkaSource.kind
    queueSize := ((settings.value? .queueSize).bind Flag.size?).getD defaultQueueSize }

/-- Whether the program can start: its queue has to hold something. -/
def check (options : Options) : Except StartFault Options :=
  if options.queueSize = 0 then .error .emptyQueue else .ok options

/-- The options as JSON.  The log filter, the path of the configuration and the time a response is
waited for are for the program's own use and are left out. -/
def toJson (options : Options) : Json :=
  let text := Json.ofOption Json.string
  .object
    [("owner_kind", .string options.ownerKind), ("requeue_queue_size", .int options.queueSize),
      ("log_format", .string options.logFormat.name), ("cluster", text options.cluster),
      ("context", text options.context), ("user", text options.user), ("as", text options.asUser),
      ("as_group", text options.asGroup), ("admin_addr", .string options.adminAddress.text)]

end Options

end StatusRouter
