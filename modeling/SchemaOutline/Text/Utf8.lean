import SchemaOutline.Text.Quoted

/-!
# UTF-8

Bytes are read one after the other. A byte either is a character of its own or announces how many
bytes follow and in which ranges they lie; overlong forms, surrogates and codes beyond the last
plane are excluded by the range of the second byte. A fault names the bytes that began a character
and could not be finished.
-/

set_option autoImplicit false

namespace SchemaOutline.Text

inductive ByteCause where
  | invalidStart
  | invalidContinuation
  | unexpectedEnd
deriving Repr, DecidableEq

def ByteCause.text : ByteCause → String
  | .invalidStart => "invalid start byte"
  | .invalidContinuation => "invalid continuation byte"
  | .unexpectedEnd => "unexpected end of data"

/-- Bytes that are not UTF-8: where they start, how many there are, and the first of them. -/
structure ByteFault where
  position : Nat
  count : Nat
  byte : UInt8
  cause : ByteCause
deriving Repr, DecidableEq

def ByteFault.describe (fault : ByteFault) : String :=
  let code := String.ofList (hexCode 2 fault.byte.toNat)
  let last := fault.position + fault.count - 1
  let place :=
    if fault.count == 1 then s!"byte 0x{code} in position {fault.position}"
    else s!"bytes in position {fault.position}-{last}"
  s!"'utf-8' codec can't decode {place}: {fault.cause.text}"

namespace Utf8

structure ByteRange where
  low : UInt8
  high : UInt8

def ByteRange.contains (range : ByteRange) (b : UInt8) : Bool := range.low ≤ b && b ≤ range.high

def continuation : ByteRange := ⟨0x80, 0xbf⟩

/-- The ranges of the bytes behind a leading byte, and what the leading byte adds to the code. -/
def announced? (b : UInt8) : Option (Nat × List ByteRange) :=
  if b < 0x80 then some (b.toNat, [])
  else if b < 0xc2 then none
  else if b < 0xe0 then some (b.toNat - 0xc0, [continuation])
  else if b < 0xf0 then
    let second : ByteRange :=
      if b == 0xe0 then ⟨0xa0, 0xbf⟩ else if b == 0xed then ⟨0x80, 0x9f⟩ else continuation
    some (b.toNat - 0xe0, [second, continuation])
  else if b < 0xf5 then
    let second : ByteRange :=
      if b == 0xf0 then ⟨0x90, 0xbf⟩ else if b == 0xf4 then ⟨0x80, 0x8f⟩ else continuation
    some (b.toNat - 0xf0, [second, continuation, continuation])
  else none

structure Begun where
  lead : UInt8
  position : Nat
  count : Nat
  code : Nat
  awaited : List ByteRange

def Begun.fault (begun : Begun) (cause : ByteCause) : ByteFault :=
  ⟨begun.position, begun.count, begun.lead, cause⟩

/-- Reads bytes from a position on; `begun` is the character that is being read. -/
def decodeFrom : Nat → Option Begun → List UInt8 → Except ByteFault (List Char)
  | _, none, [] => .ok []
  | _, some begun, [] => .error (begun.fault .unexpectedEnd)
  | position, none, b :: rest =>
    match announced? b with
    | none => .error ⟨position, 1, b, .invalidStart⟩
    | some (code, []) => (decodeFrom (position + 1) none rest).map (Char.ofNat code :: ·)
    | some (code, awaited) => decodeFrom (position + 1) (some ⟨b, position, 1, code, awaited⟩) rest
  | position, some begun, b :: rest =>
    let code := begun.code * 64 + (b.toNat - 0x80)
    match begun.awaited with
    | range :: awaited =>
      if !range.contains b then .error (begun.fault .invalidContinuation)
      else if awaited.isEmpty then
        (decodeFrom (position + 1) none rest).map (Char.ofNat code :: ·)
      else
        decodeFrom (position + 1) (some { begun with count := begun.count + 1, code, awaited }) rest
    | [] => .error (begun.fault .invalidContinuation)

def decode (bytes : List UInt8) : Except ByteFault (List Char) := decodeFrom 0 none bytes

end Utf8

/-- Every kind of line end as a line feed. -/
def withLineFeeds : List Char → List Char
  | [] => []
  | '\r' :: '\n' :: rest => '\n' :: withLineFeeds rest
  | '\r' :: rest => '\n' :: withLineFeeds rest
  | c :: rest => c :: withLineFeeds rest

end SchemaOutline.Text
