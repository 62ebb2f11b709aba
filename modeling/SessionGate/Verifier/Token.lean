import SessionGate.Base64
import SessionGate.Json.Document
import SessionGate.Text.Parts

/-!
# Signed tokens

A token is three segments of base64 with points between them: a header, a payload and a signature.
The last point ends the part that is signed, and the first one ends the header; any others belong to
the payload. `SignedToken.read?` takes a token apart and reads its header. Nothing is verified here,
and the payload is not read until the signature has been checked.
-/

namespace SessionGate

open Text

structure SignedToken where
  header : Members
  /-- The bytes that are signed. -/
  signed : Bytes
  payload : Bytes
  signature : Bytes
  deriving Repr

namespace SignedToken

/-- The point between segments. -/
def point : UInt8 := 46

/-- The object in the bytes of a header. -/
def readHeader? (bs : Bytes) : Option Members :=
  match Json.ofUtf8 bs with
  | .ok (.obj ms) => some ms
  | _ => none

/-- The parts of a token, if each of them can be read. -/
def ofBytes? (bs : Bytes) : Option SignedToken := do
  let (signed, signature) ← cutLast? point bs
  let (header, payload) ← cut? point signed
  let header ← (Base64.decodeSegment? header).bind readHeader?
  let payload ← Base64.decodeSegment? payload
  let signature ← Base64.decodeSegment? signature
  return { header, signed, payload, signature }

/-- The parts of a token in a value; only a text is one, and only if it
has bytes. -/
def ofJson? : Json → Option SignedToken
  | .str (.plain s) => ofBytes? (utf8 s)
  | _ => none

end SignedToken

end SessionGate
