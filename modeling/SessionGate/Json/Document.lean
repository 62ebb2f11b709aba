import SessionGate.Json.Reader
import SessionGate.Text.Encoding

/-!
# JSON documents in bytes

A document that comes over the wire is decoded first and read afterwards. `DocumentFault` tells
the three ways in which that fails apart, since callers report them differently. A document that is
nested too deeply is no wrong document, and nobody answers for it.
-/

namespace SessionGate

inductive DocumentFault where
  | undecodable (fault : Text.DecodeFault)
  | unreadable (text : List CodePoint) (fault : JsonFault)
  | tooDeep
  deriving Repr

namespace DocumentFault

def message : DocumentFault → String
  | .undecodable fault => fault.message
  | .unreadable text fault => fault.message text
  | .tooDeep => JsonFault.describe .tooDeep

/-- Whether the failure is one of syntax. -/
def isSyntax : DocumentFault → Bool
  | .unreadable _ fault => fault.isSyntax
  | _ => false

/-- The fault of a document with a text that cannot be read. -/
def ofFault (text : List CodePoint) (fault : JsonFault) : DocumentFault :=
  if fault.kind = .tooDeep then tooDeep else unreadable text fault

end DocumentFault

namespace Json

/-- The code points of a text as a document. -/
def ofText (text : List CodePoint) : Except DocumentFault Json :=
  (ofPoints text).mapError (.ofFault text)

/-- Bytes of strict UTF-8 as a document. -/
def ofUtf8 (bs : Text.Bytes) : Except DocumentFault Json :=
  match Text.decodeUtf8 bs with
  | .ok text => ofText (CodePoint.ofChars text)
  | .error fault => .error (.undecodable fault)

/-- Bytes in the encoding they show to be in as a document. -/
def ofBytes (bs : Text.Bytes) : Except DocumentFault Json :=
  match Text.decodeDocument bs with
  | .ok text => (document text).mapError (.ofFault text)
  | .error fault => .error (.undecodable fault)

end Json

end SessionGate
