import HealthAgent.Alert.Sink
import HealthAgent.Sensor.Request
import HealthAgent.Url.Basic
/-!
# What the agent asks of its host

The agent runs programs, asks services over the network, and reads and writes files. A program over
these requests leaves open who answers them.
-/
namespace HealthAgent

/-- What a program left when it ended. -/
structure ProgramOutput where
  /-- The exit status; none if a signal ended the program. -/
  code : Option Nat
  stdout : List UInt8
  stderr : List UInt8
  deriving DecidableEq, Repr

inductive ProgramAnswer where
  | ended (output : ProgramOutput)
  /-- There is no such program. -/
  | notFound
  /-- The program may not be run. -/
  | notPermitted
  deriving DecidableEq, Repr

inductive ServiceAnswer where
  | reply (status : Nat) (content : List UInt8)
  /-- No connection could be made. -/
  | refused
  /-- The connection ended without a reply. -/
  | broken
  /-- The URL is none that can be asked. -/
  | unsupported
  deriving DecidableEq, Repr

/-- Whether a service can be asked over a connection without encryption. A host name with one of
four marks cannot be written in a request. -/
def Url.isRequestable (u : Url) : Bool :=
  u.scheme = "http" && !(u.host.elim "" Url.Host.text).toList.any "\"\x60\x7b\x7d".toList.contains

/-- The answer where no connection can be made at all. -/
def ServiceAnswer.unreachable (u : Url) : ServiceAnswer :=
  if u.isRequestable then .refused else .unsupported

/-- What a path leads to. -/
inductive PathKind where
  | file | folder
  deriving DecidableEq, Repr

inductive HostRequest where
  /-- Run a program to its end. -/
  | run (program : String) (arguments : List String)
  /-- Get what a URL names. -/
  | get (url : Url)
  /-- Tell what a path leads to, if anything. -/
  | inspect (path : String)
  | file (r : FileRequest)
  /-- Make a file ready for more text at its end; tells whether that is possible. -/
  | openEnd (path : String)
  /-- Write a text at the end of a file. -/
  | append (path text : String)
  /-- Write a text to the standard output. -/
  | print (text : String)
  /-- Write a line to the log of important events. -/
  | logEvent (level : LogLevel) (text : String)
  /-- The name of the host. -/
  | hostName
  /-- The milliseconds since some fixed time; never fewer than before. -/
  | elapsed
  /-- The present time in epoch seconds, as text. -/
  | clock
  /-- A random text that makes an alert's identity unique. -/
  | salt

/-- The answers to a request; a failure to write is told by its text. -/
@[reducible] def HostRequest.Answer : HostRequest → Type
  | run _ _ => ProgramAnswer
  | get _ => ServiceAnswer
  | inspect _ => Option PathKind
  | file r => r.Answer
  | openEnd _ => Bool
  | append _ _ => Except String Unit
  | print _ => Except String Unit
  | logEvent _ _ => Unit
  | hostName => String
  | elapsed => Nat
  | clock => String
  | salt => String

abbrev HostProgram (α : Type) := Program HostRequest HostRequest.Answer α

def HostRequest.ask (r : HostRequest) : HostProgram r.Answer := Program.ask r

end HealthAgent
