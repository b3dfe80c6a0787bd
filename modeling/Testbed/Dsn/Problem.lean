import Testbed.Text.Utf8

/-!
# Problems of connection strings
-/

namespace Testbed.Dsn

set_option autoImplicit false

inductive Problem where
  | missingEquals (name : String)
  | unterminatedQuote
  | unknownOption (name : String)
  | badPercent (token : String)
  | zeroByte (token : String)
  | unclosedBracket (uri : String)
  | emptyBracket (uri : String)
  /-- A byte after a bracketed host that does not belong there. -/
  | afterBracket (found : UInt8) (position : Nat) (uri : String)
  | extraSeparator (name : String)
  | missingSeparator (name : String)
  | unknownParameter (name : String)
  /-- The value of an option is not a text. -/
  | notText (part : Text.IllFormed)
  deriving DecidableEq, Repr

def Problem.text : Problem → String
  | missingEquals name => s!"missing \"=\" after \"{name}\" in connection info string"
  | unterminatedQuote => "unterminated quoted string in connection info string"
  | unknownOption name => s!"invalid connection option \"{name}\""
  | badPercent token => s!"invalid percent-encoded token: \"{token}\""
  | zeroByte token => s!"forbidden value %00 in percent-encoded value: \"{token}\""
  | unclosedBracket uri =>
    "end of string reached when looking for matching \"]\" in IPv6 host address in URI: " ++
      s!"\"{uri}\""
  | emptyBracket uri => s!"IPv6 host address may not be empty in URI: \"{uri}\""
  | afterBracket found position uri =>
    s!"unexpected character \"{Text.ofUtf8Lossy [found]}\" at position {position} in URI " ++
      s!"(expected \":\" or \"/\"): \"{uri}\""
  | extraSeparator name =>
    s!"extra key/value separator \"=\" in URI query parameter: \"{name}\""
  | missingSeparator name =>
    s!"missing key/value separator \"=\" in URI query parameter: \"{name}\""
  | unknownParameter name => s!"invalid URI query parameter: \"{name}\""
  | notText part => part.message

end Testbed.Dsn
