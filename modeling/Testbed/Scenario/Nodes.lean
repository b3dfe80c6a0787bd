import Testbed.Scenario.Timeline

/-!
# Simulated exchanges with search nodes
-/

namespace Testbed.Scenario.World

set_option autoImplicit false

/-- A reply to a request; one that asks for the head alone gets no body. -/
def replyTo (r : Http.Request) : Http.Outcome → Http.Outcome
  | .reply a => .reply (if r.method == "HEAD" then { a with body := [] } else a)
  | .broken f => .broken f

def wire : Http.Wire World where
  exchange r := do
    record (.exchange r)
    let outcome ← expect .exchange
    pure (replyTo r outcome.answer)
  sleep := surroundings.clock.sleep
  date := date
  guess body := some (Http.announced body)

def nodeAccess : Search.NodeAccess World where
  wire := wire
  diary := diaryAccess

end Testbed.Scenario.World
