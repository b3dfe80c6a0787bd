import Testbed.Fault.Basic
import Testbed.Text.Base64

/-!
# Authorisation by a password

A user and a password are sent in one header.  Headers are Latin-1.
-/

namespace Testbed.Http

set_option autoImplicit false

/-- The first characters of a text beyond Latin-1: where they are, and the first of them. -/
def beyondLatin1 (s : String) : Option (Nat × Nat × Char) :=
  let cs := s.toList
  let before := cs.takeWhile (·.toNat < 256)
  match cs.drop before.length with
  | [] => none
  | c :: rest =>
    let run := (c :: rest).takeWhile (·.toNat ≥ 256)
    some (before.length, before.length + run.length - 1, c)

def latin1Bytes (s : String) : Except Fault (List UInt8) :=
  match beyondLatin1 s with
  | none => .ok (s.toList.map fun c => UInt8.ofNat c.toNat)
  | some (first, last, c) =>
    let escaped := String.ofList
      (if c.toNat < 0x10000 then '\\' :: 'u' :: Literal.hex 4 c.toNat
       else '\\' :: 'U' :: Literal.hex 8 c.toNat)
    let which := if first == last then s!"character '{escaped}' in position {first}"
      else s!"characters in position {first}-{last}"
    .error (Fault.of (.host .unencodable
      s!"'latin-1' codec can't encode {which}: ordinal not in range(256)"))

def basicAuthorization (user password : String) : Except Fault String := do
  let u ← latin1Bytes user
  let p ← latin1Bytes password
  pure ("Basic " ++ String.ofList (Text.base64 (u ++ 58 :: p)))

end Testbed.Http
