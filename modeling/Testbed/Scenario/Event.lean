import Testbed.Container.LaunchSpec
import Testbed.Http.Exchange
import Testbed.Instance.ConnectionInfo
import Testbed.Postgres.Admin

/-!
# Events

Everything that a run asks of its collaborators, in the order of asking.
-/

namespace Testbed.Scenario

set_option autoImplicit false

inductive Event where
  | openDaemon (timeout : Option Num)
  | pingDaemon
  | closeDaemon
  | runContainer (spec : LaunchSpec)
  | listContainers
  | inspectContainer (name : String)
  | removeContainer (name : String)
  | sleep (seconds : Float)
  | openSql (settings : Dsn.Settings)
  | executeSql (database : String) (statement : Postgres.Statement)
  | closeSql (database : String) (autocommit : Bool)
  | exchange (request : Http.Request)
  | connectStub (info : ConnectionInfo)
  | probeStub (client : Option Nat)
  | closeStub (client : Nat)
  | markStub (store : String) (flag : Bool)
  | copyStub (store copy : String)
  | dropStub (store : String)
  | probeEndpoint (endpoint : String) (moment : Float)
  | hook (name : String)
  | create (key : String)

end Testbed.Scenario
