import Testbed.Scenario.FaultSpec
import Testbed.Scenario.Snapshot
import Testbed.Scenario.Wait
import Testbed.Proofs.Calls
import Testbed.Proofs.Instance.Course
import Testbed.Proofs.Invariant
import Testbed.Proofs.Instance.Soundness
import Testbed.Proofs.Instance.HandleInvariant
import Testbed.Proofs.Container.Board
import Testbed.Proofs.Container.Watch
import Testbed.Proofs.Hooks
import Testbed.Proofs.Container.Safeguard
import Testbed.Proofs.Start.Clients
import Testbed.Proofs.Start.BringUp
import Testbed.Proofs.Start.Teardown
import Testbed.Proofs.Start.Failure
import Testbed.Proofs.Instance.Retry
import Testbed.Proofs.Projection
import Testbed.Proofs.Start.Trace
import Testbed.Proofs.Start.Steps
import Testbed.Proofs.Start.Run
import Testbed.Proofs.Start.Order
import Testbed.Proofs.Start.Naming
import Testbed.Proofs.Text.Utf8
import Testbed.Proofs.Dsn.Query
import Testbed.Proofs.Dsn.Database
import Testbed.Proofs.Instance.Copies
import Testbed.Proofs.Instance.Vanished
import Testbed.Proofs.Postgres.Vanished
import Testbed.Proofs.Container.Timers
import Testbed.Proofs.Start.Apart
import Testbed.Proofs.Cache
import Testbed.Proofs.Names
import Testbed.Proofs.Start.Launching
import Testbed.Proofs.Start.Ownership
import Testbed.Proofs.Postgres.Requests
import Testbed.Proofs.Postgres.Dropped
import Testbed.Proofs.Instance.Sections
import Testbed.Proofs.Instance.Templates
import Testbed.Proofs.Instance.Reclosing
import Testbed.Proofs.Cache.Closing
import Testbed.Proofs.Text.Cut
import Testbed.Proofs.Journal.Records
import Testbed.Proofs.Journal.Failures
import Testbed.Proofs.Readiness.Doubles
import Testbed.Proofs.Readiness.Rounds
import Testbed.Proofs.Readiness.Law
import Testbed.Proofs.Readiness.Deadline
import Testbed.Proofs.Start.Waiting
import Testbed.Proofs.Postgres.Administration
import Testbed.Proofs.Fault.Causes
import Testbed.Proofs.Dsn.Credentials
import Testbed.Proofs.Dsn.Names
import Testbed.Proofs.Fault.Wording
import Testbed.Proofs.Postgres.Named
import Testbed.Proofs.Postgres.Refused
import Testbed.Proofs.Number.Order
import Testbed.Proofs.Container.Reaping
import Testbed.Proofs.Http.Host
import Testbed.Proofs.Number.Whole
import Testbed.Proofs.Dsn.Address
import Testbed.Proofs.Entries
import Testbed.Proofs.Json.Keys
import Testbed.Proofs.Search.Payload
import Testbed.Proofs.Number.Rounding
import Testbed.Proofs.Number.Arithmetic
import Testbed.Proofs.Number.Spelling
import Testbed.Proofs.Readiness.Accepted
import Testbed.Proofs.Instance.Distinct
import Testbed.Proofs.Container.Endpoint
import Testbed.Proofs.Http.Escapes
import Testbed.Proofs.Http.Prepared
import Testbed.Proofs.Http.Repeated
import Testbed.Proofs.Http.Served
import Testbed.Proofs.Search.Requests
