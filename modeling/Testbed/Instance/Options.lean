import Testbed.Settings

/-!
# Options for starting an instance

Options are given as a whole or field by field, and never both ways at once.  The timeout must not
be zero or negative.
-/

namespace Testbed

set_option autoImplicit false

variable {η : Type}

/-- How an instance is started.  A field that is nothing counts as off, but is told from a field
that was left out. -/
structure StartOptions (η : Type) where
  timeout : Num
  /-- An empty name means the default name of the service. -/
  logicalName : Option String := some ""
  inMemory : Option Bool := some false
  isTemplate : Option Bool := some false
  /-- What is done once the instance is ready. -/
  hooks : List η := []

/-- Named fields of options, some of which may be missing; the inner options are fields that are
given as nothing. -/
structure OptionFields (η : Type) where
  timeout : Option (Option Num) := none
  logicalName : Option (Option String) := none
  inMemory : Option (Option Bool) := none
  isTemplate : Option (Option Bool) := none
  hooks : Option (Option (List η)) := none
  /-- All names in the order in which they were given. -/
  names : List String := []

namespace OptionFields

def known : List String :=
  ["timeout", "logical_name", "in_memory", "is_template", "post_start_hooks"]

def unknownName (name : String) : Fault :=
  Fault.of (.host .badArgument
    s!"StartOptions.__init__() got an unexpected keyword argument '{name}'")

def badTimeout (timeout : Num) : Fault :=
  Fault.of (.host .badValue s!"Timeout must be positive, got {Decimal.ofNum timeout}.")

def noTimeout : Fault :=
  Fault.of (.host .badArgument "'<=' not supported between instances of 'NoneType' and 'int'")

def noHooks : Fault := Fault.of (.host .badArgument "'NoneType' object is not iterable")

end OptionFields

namespace StartOptions

def nameOr (o : StartOptions η) (default : String) : String :=
  match o.logicalName with
  | some name => if name.isEmpty then default else name
  | none => default

def wantsMemory (o : StartOptions η) : Bool := o.inMemory == some true

def wantsTemplate (o : StartOptions η) : Bool := o.isTemplate == some true

def checkTimeout : Option Num → Except Fault Num
  | none => .error OptionFields.noTimeout
  | some t => if t.atMost 0 then .error (OptionFields.badTimeout t) else .ok t

/-- The options with the given fields; `standard` is the timeout used when none is given. -/
def ofFields? (standard : Num) (f : OptionFields η) : Except Fault (StartOptions η) :=
  match f.names.find? (!OptionFields.known.contains ·) with
  | some name => .error (OptionFields.unknownName name)
  | none => do
    let timeout ← checkTimeout (f.timeout.getD (some standard))
    let hooks ← (f.hooks.getD (some [])).elim (.error OptionFields.noHooks) .ok
    pure {
      timeout, hooks
      logicalName := f.logicalName.getD (some "")
      inMemory := f.inMemory.getD (some false)
      isTemplate := f.isTemplate.getD (some false) }

def choose (standard : Num) (options : Option (StartOptions η)) (fields : OptionFields η) :
    Except Fault (StartOptions η) :=
  match options with
  | none => ofFields? standard fields
  | some o =>
    if fields.names.isEmpty then .ok o
    else
      let names := (fields.names.mergeSort (· ≤ ·)).map Value.text
      .error (Fault.of (.host .badArgument
        ("Pass either `options` or keyword arguments, not both " ++
          s!"(got {(Value.list names).literal}).")))

/-- Whether options are those that a start without options uses. -/
def isStandard (standard : Num) (o : StartOptions η) : Bool :=
  o.timeout.same standard && o.logicalName == some "" && o.inMemory == some false &&
    o.isTemplate == some false && o.hooks.isEmpty

end StartOptions

end Testbed
