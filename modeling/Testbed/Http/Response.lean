import Testbed.Json.Reader
import Testbed.Text.Encoding

/-!
# Replies of an HTTP server

A reply is a status, a body and what is known about the encoding of the body.  The body is read
as text in the declared encoding, else in the one that its bytes look like, and as JSON in the
encoding that its first bytes reveal.
-/

namespace Testbed.Http

set_option autoImplicit false

/-- The encoding that a byte order mark announces. -/
def marked? (body : List UInt8) : Option Text.Encoding :=
  match body with
  | 0xFF :: 0xFE :: 0 :: 0 :: _ | 0 :: 0 :: 0xFE :: 0xFF :: _ => some .utf32
  | 0xEF :: 0xBB :: 0xBF :: _ => some .utf8Marked
  | 0xFF :: 0xFE :: _ | 0xFE :: 0xFF :: _ => some .utf16
  | _ => none

/-- The label of the encoding that a byte order mark announces, else of UTF-8. -/
def announced (body : List UInt8) : String :=
  match marked? body with
  | some .utf32 => "utf-32"
  | some .utf16 => "utf-16"
  | some .utf8Marked => "utf-8-sig"
  | _ => "utf-8"

structure Response where
  status : Num := 200
  body : List UInt8 := []
  /-- The declared encoding. -/
  encoding : Option String := none
  /-- The encoding that the body looks like; this is a guess. -/
  apparent : Option String := some (announced body)
  reason : Option String := none
  url : Option String := none
  deriving Inhabited

/-- The encoding that the first four bytes of a JSON text reveal: a byte order mark, or the
places of the zero bytes that ASCII leaves in wider units. -/
def revealed? (body : List UInt8) : Option Text.Encoding :=
  match marked? body with
  | some e => some e
  | none =>
    let zero := (body.take 4).map (· == 0)
    match zero.count true with
    | 0 => some .utf8
    | 2 =>
      if zero == [true, false, true, false] then some (.utf16In .big)
      else if zero == [false, true, false, true] then some (.utf16In .little)
      else none
    | 3 =>
      if zero == [true, true, true, false] then some (.utf32In .big)
      else if zero == [false, true, true, true] then some (.utf32In .little)
      else none
    | _ => none

inductive BodyProblem where
  /-- The text of the body is not JSON, or more than the reader reads. -/
  | json (f : Json.Failure) (text : List Char)
  | label (p : Text.LabelProblem)

def BodyProblem.message : BodyProblem → String
  | json f text => f.message text
  | label p => p.message

/-- The body as text: in the declared encoding, else in the one that it looks like, and in UTF-8
when there is no such encoding. -/
def Response.characters (r : Response) : Except BodyProblem (List Char) :=
  if r.body.isEmpty then .ok []
  else match r.encoding.or r.apparent with
    | none => .ok (Text.Encoding.utf8.decode r.body)
    | some label =>
      match Text.Encoding.ofLabel label with
      | .ok encoding =>
        let encoding := encoding.getD .utf8
        match encoding.problem? r.body with
        | some p => .error (.label p)
        | none => .ok (encoding.decode r.body)
      | .error p => .error (.label p)

def Response.text (r : Response) : Except BodyProblem String := r.characters.map String.ofList

/-- The characters that a JSON reader sees.  Without a declared encoding the first bytes of a
body of more than three bytes decide, unless the body is ill-formed in what they reveal. -/
def Response.jsonCharacters (r : Response) : Except BodyProblem (List Char) :=
  if (r.encoding.getD "").isEmpty && r.body.length > 3 then
    match (revealed? r.body).bind (·.decode? r.body) with
    | some cs => .ok cs
    | none => r.characters
  else r.characters

def Response.json (r : Response) : Except BodyProblem Value := do
  let cs ← r.jsonCharacters
  (Json.read cs).mapError (.json · cs)

end Testbed.Http
