import Outbox.Id

namespace Outbox

namespace Uuid

/-- An identifier of version 7: milliseconds since 1970, then 74 bits that count on within one, with
the version and the variant in their places. -/
def timed (millis sequence : Nat) : Uuid :=
  let high := sequence / 0x4000_0000_0000_0000 % 0x1000
  let low := sequence % 0x4000_0000_0000_0000
  .ofNat (((millis * 0x10 + 7) * 0x1000 + high) * 0x1_0000_0000_0000_0000 + 0x8000_0000_0000_0000 + low)

end Uuid

def IdSource.timed (millis seed : Nat) : IdSource := ⟨fun n => .timed millis (seed + n), 0⟩

end Outbox
