/-!
# Launch specifications

Everything that is needed to launch one container.
-/

namespace Testbed

set_option autoImplicit false

/-- A limit of a resource of a process, with its soft and its hard bound. -/
structure Ulimit where
  name : String
  soft : Int
  hard : Int
  deriving DecidableEq, Inhabited

structure LaunchSpec where
  name : String
  image : String
  ports : List String
  env : List (String × String) := []
  tmpfs : List (String × String) := []
  memLimit : Option String := none
  ulimits : List Ulimit := []
  labels : List (String × String) := []
  deriving Inhabited

end Testbed
