import Testbed.Value.Basic

/-!
# Statements of the database administration
-/

namespace Testbed.Postgres

set_option autoImplicit false

inductive Statement where
  | ping
  | findDatabase (name : String)
  | markTemplate (name : String) (flag : Bool)
  | createDatabase (name : String)
  | copyDatabase (name template : String)
  | dropDatabase (name : String)
  deriving DecidableEq, Repr

/-- A name as a quoted identifier; a quote inside it is written twice. -/
def quoteName (name : String) : String :=
  String.ofList ('"' :: name.toList.flatMap (fun c => if c == '"' then ['"', '"'] else [c]) ++
    ['"'])

namespace Statement

def text : Statement → String
  | ping => "SELECT 1;"
  | findDatabase _ => "SELECT 1 FROM pg_database WHERE datname = %s;"
  | markTemplate _ _ => "UPDATE pg_database SET datistemplate = %s WHERE datname = %s;"
  | createDatabase name => s!"CREATE DATABASE {quoteName name};"
  | copyDatabase name template =>
    s!"CREATE DATABASE {quoteName name} TEMPLATE {quoteName template};"
  | dropDatabase name => s!"DROP DATABASE {quoteName name} WITH (FORCE);"

def parameters? : Statement → Option (List Value)
  | findDatabase name => some [.text name]
  | markTemplate name flag => some [.bool flag, .text name]
  | _ => none

end Statement

end Testbed.Postgres
