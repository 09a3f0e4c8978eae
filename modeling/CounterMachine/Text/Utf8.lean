import CounterMachine.Text.Numeral

/-!
# UTF-8

Stored text is UTF-8. Bytes that are not are reported by the first place where they go wrong: the
byte that cannot start a character, the character whose continuation fails, or the character that
the end of the bytes cuts off.
-/

namespace CounterMachine.Text.Utf8

/-- What is wrong with the first faulty character. -/
inductive Reason where
  | invalidStart
  | invalidContinuation
  | unexpectedEnd
  deriving DecidableEq

def Reason.message : Reason → String
  | .invalidStart => "invalid start byte"
  | .invalidContinuation => "invalid continuation byte"
  | .unexpectedEnd => "unexpected end of data"

/-- The first faulty stretch of bytes, by the positions of its first and last byte. -/
structure Fault where
  reason : Reason
  first : Nat
  last : Nat
  /-- The byte at position `first`. -/
  byte : UInt8
  deriving DecidableEq

/-- Wording of a fault. The byte itself is shown only when it stands alone. -/
def Fault.message (fault : Fault) : String :=
  let place :=
    if fault.first = fault.last then
      "byte 0x" ++ String.ofList (hex 2 fault.byte.toNat) ++ " in position " ++
        Numeral.text fault.first
    else
      "bytes in position " ++ Numeral.text fault.first ++ "-" ++ Numeral.text fault.last
  "'utf-8' codec can't decode " ++ place ++ ": " ++ fault.reason.message

/-- An inclusive range of byte values. -/
structure ByteRange where
  low : UInt8
  high : UInt8

def ByteRange.contains (range : ByteRange) (byte : UInt8) : Bool :=
  range.low ≤ byte && byte ≤ range.high

/-- The bytes that may follow a first byte, position by position, or `none` if no character starts
with it. The narrower second ranges rule out overlong forms, surrogates and code points above the
last one. -/
def continuations? (byte : UInt8) : Option (List ByteRange) :=
  let any : ByteRange := ⟨0x80, 0xbf⟩
  if byte < 0x80 then some []
  else if byte < 0xc2 then none
  else if byte < 0xe0 then some [any]
  else if byte == 0xe0 then some [⟨0xa0, 0xbf⟩, any]
  else if byte == 0xed then some [⟨0x80, 0x9f⟩, any]
  else if byte < 0xf0 then some [any, any]
  else if byte == 0xf0 then some [⟨0x90, 0xbf⟩, any, any]
  else if byte < 0xf4 then some [any, any, any]
  else if byte == 0xf4 then some [⟨0x80, 0x8f⟩, any, any]
  else none

/-- Look for the first fault. `pending` holds what the character that began at `first` with the
byte `lead` still needs; `position` is where the remaining bytes start. -/
def firstFault? (first : Nat) (lead : UInt8) (pending : List ByteRange) (position : Nat) :
    List UInt8 → Option Fault
  | [] =>
      if pending.isEmpty then none else some ⟨.unexpectedEnd, first, position - 1, lead⟩
  | byte :: rest =>
      match pending with
      | [] =>
          match continuations? byte with
          | none => some ⟨.invalidStart, position, position, byte⟩
          | some needed => firstFault? position byte needed (position + 1) rest
      | range :: later =>
          if range.contains byte then firstFault? first lead later (position + 1) rest
          else some ⟨.invalidContinuation, first, position - 1, lead⟩

/-- The text that bytes encode. Bytes that encode none have a first fault; the fallback only makes
the function total. -/
def decode (bytes : ByteArray) : Except Fault String :=
  match String.fromUTF8? bytes with
  | some text => .ok text
  | none => .error ((firstFault? 0 0 [] 0 bytes.toList).getD ⟨.unexpectedEnd, 0, 0, 0⟩)

/-- Bytes that encode a text decode to it. -/
theorem decode_toUTF8 (text : String) : decode text.toUTF8 = .ok text := by
  have valid : String.fromUTF8? text.toUTF8 = some text := by
    simp [String.fromUTF8?, String.toUTF8, text.isValidUTF8, String.fromUTF8]
  rw [decode, valid]

end CounterMachine.Text.Utf8
