import Testbed.Scenario.Run

/-!
# Steps of a scenario

A scenario is a list of steps.  Each does one thing to the run and has an answer.
-/

namespace Testbed.Scenario

set_option autoImplicit false

/-- How an instance is asked for. -/
inductive Way where
  /-- Outright, on the engine in use. -/
  | direct
  /-- For a test of the session. -/
  | forTest (testId : String)
  deriving DecidableEq, Repr

/-- What is to be started: a service, with options as a whole, field by field, or both. -/
structure StartRequest where
  service : ServiceSpec
  options : Option (OptionFields Hook) := none
  fields : OptionFields Hook := {}
  cleanup : Bool := false
  way : Way := .direct

inductive NodeCall where
  | ping
  | close
  | request (call : Search.Call)
  | perform (call : Search.Call)

inductive SqlCall where
  | exists
  | create
  | drop
  deriving DecidableEq, Repr

inductive WorldStep where
  | script (target : Target) (outcomes : List Outcome)
  | advance (seconds : Num)
  /-- The inner options are a hostname and a timeout that are given as nothing. -/
  | useEngine (hostname : Option (Option String)) (timeout : Option (Option Num))
  | forgetEngine

inductive ContainerStep where
  | ping
  | closeEngine
  | hold (name : String) (labels : List (String × String)) (attributes : Value)
      (id : Option String)
  | reap (now : Option Num)
  | endpoint (name port : String) (inspections : Option Nat)
  | scheduleExpiry (name : String) (seconds : Num)
  | cancelExpiry (name : String)
  | terminate (name : String)

inductive InstanceStep where
  | start (name : String) (request : StartRequest)
  | close (ref : String)
  | probe (ref : String)
  | label (ref : String)
  | promote (ref : String)
  | info (ref : String)
  /-- Uses something, possibly in vain, and closes it in the end. -/
  | use (ref : String) (fault : Option Fault)
  | clone (ref name : String) (cleanup : Bool)
  | loneClone (name : String) (service : ServiceSpec) (info : ConnectionInfo)
  | finalize

inductive CacheStep where
  | getOrCreate (key : String) (name : Option String) (request : StartRequest)
  | get (key : String)
  | contains (key : String)
  | size
  | close
  /-- A number of users ask for the same key. -/
  | share (key : String) (users : Nat) (request : StartRequest)
  | start
  | finish

inductive StoreStep where
  | makeNode (name : String) (client : Settings → Search.NodeClient)
  | callNode (ref : String) (call : NodeCall)
  | sql (call : SqlCall) (dsn : String)
  /-- The inner option is a timeout that is given as nothing. -/
  | connectSql (dsn : String) (timeout : Option (Option Int))

inductive SessionStep where
  | start (keepRunning : Bool)
  | finish
  | openJournal
  | note (message : String)
  | record (testId service step : String) (fault : Fault)
  | appendRaw (text : String)
  | readFailures
  | readJournal

inductive Step where
  | world (s : WorldStep)
  | container (s : ContainerStep)
  | instances (s : InstanceStep)
  | cache (s : CacheStep)
  | store (s : StoreStep)
  | session (s : SessionStep)

inductive Answer where
  | done
  /-- The step names something that does not exist. -/
  | unknown
  | absent
  | text (s : String)
  | flag (b : Bool)
  | count (n : Nat)
  | names (ns : List String)
  | info (c : ConnectionInfo)
  | results (rs : List (Except Fault Unit))
  | reply (status : Num) (text : String)
  | value (v : Value)
  | shared (calls results : Nat) (same : Bool)
  | failures (fs : List SetupFailure)

end Testbed.Scenario
