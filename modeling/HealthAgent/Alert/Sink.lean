import HealthAgent.Alert.Record
import HealthAgent.Json.Printer
import HealthAgent.Program
/-!
# Receivers of alerts (specification §6, §B.8)

An alert goes to a primary receiver and, if there is one, to a mirror. The mirror is handed every
alert whether the primary took it or not. A receiver is a stream that gets one line per alert, a
consumer within the agent, or the log of important events.
-/
namespace HealthAgent

/-- The level of a line in the agent's log. -/
inductive LogLevel where
  | warn | info
  deriving DecidableEq, Repr

def LogLevel.name : LogLevel → String
  | warn => "WARN"
  | info => "INFO"

/-- What a receiver asks of its surroundings. -/
inductive SinkRequest where
  /-- Write a text to the stream. On failure any beginning of the text may have been written. -/
  | write (text : String)
  /-- See to it that the stream has passed on all that was written. -/
  | flush
  /-- Hand an alert to a consumer. -/
  | send (consumer : Nat) (alert : AlertRecord)
  /-- Write a line to the log of important events. -/
  | log (level : LogLevel) (text : String)

/-- The answers to the requests of a receiver; a failure is told by its text. -/
@[reducible] def SinkRequest.Answer : SinkRequest → Type
  | write _ => Except String Unit
  | flush => Except String Unit
  | send _ _ => Bool
  | log _ _ => Unit

abbrev SinkProgram (α : Type) := Program SinkRequest SinkRequest.Answer α

/-- Why an alert was not taken. -/
inductive SinkError where
  | deliveryFailed (text : String)
  | inputOutput (text : String)
  deriving DecidableEq, Repr

def SinkError.message : SinkError → String
  | deliveryFailed text => s!"Failed to deliver alert: {text}"
  | inputOutput text => s!"IO error: {text}"

/-- The line for an alert in a stream, without its line end. -/
def AlertRecord.line (r : AlertRecord) : String := r.envelope.compress

/-- The request to log an alert as an important event. -/
def AlertRecord.eventRequest (r : AlertRecord) : Json :=
  .object [("actuator_request_type", .object [("logging", .object [
    ("log_level", .string "LOG_WARNING"),
    ("log_msg", .string r.line),
    ("log_type", .string "IEM")])])]

/-- The text of the request to log an alert as an important event. -/
def AlertRecord.eventText (r : AlertRecord) : String := r.eventRequest.compress

inductive Sink where
  | lines
  | consumer (id : Nat)
  | events (level : LogLevel)
  deriving DecidableEq, Repr

def Sink.publish (s : Sink) (r : AlertRecord) : SinkProgram (Except SinkError Unit) := do
  match s with
  | lines =>
    match ← Program.ask (SinkRequest.write r.line) with
    | .error e => return .error (.inputOutput e)
    | .ok () =>
      match ← Program.ask (SinkRequest.write "\n") with
      | .error e => return .error (.inputOutput e)
      | .ok () =>
        match ← Program.ask SinkRequest.flush with
        | .error e => return .error (.inputOutput e)
        | .ok () => return .ok ()
  | consumer id =>
    return if ← Program.ask (SinkRequest.send id r) then .ok ()
      else .error (.deliveryFailed "alert channel closed: sending on a closed channel")
  | events level =>
    Program.ask (SinkRequest.log level ("IEC: " ++ r.eventText))
    return .ok ()

structure Dispatcher where
  primary : Sink
  mirror : Option Sink
  deriving DecidableEq, Repr

/-- Delivers an alert; tells whether the primary receiver took it. -/
def Dispatcher.deliver (d : Dispatcher) (r : AlertRecord) : SinkProgram Bool := do
  let result ← d.primary.publish r
  match d.mirror with
  | none => pure ()
  | some m => let _ ← m.publish r
  return result.toBool

end HealthAgent
