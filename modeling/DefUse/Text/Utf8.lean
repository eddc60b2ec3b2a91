/-!
# Text/Utf8 — reading bytes as UTF-8

Bytes are read character by character.  Where they are not UTF-8, the fault covers the longest run
of bytes that could have started a character, and reading goes on after it.  `Utf8.decode` fails on
the first fault; `Utf8.decodeLossy` puts one replacement character in the place of each.
-/

namespace DefUse.Utf8

/-- What is wrong with some bytes. -/
inductive Reason where
  | startByte
  | continuationByte
  | endOfData
  deriving DecidableEq, Repr

/-- The words for a fault. -/
def Reason.text : Reason → String
  | startByte => "invalid start byte"
  | continuationByte => "invalid continuation byte"
  | endOfData => "unexpected end of data"

/-- **A fault**: its first byte, the bytes it covers, from `start` to before `stop`, and why. -/
structure Error where
  byte : UInt8
  start : Nat
  stop : Nat
  reason : Reason
  deriving DecidableEq, Repr

/-- A byte in hexadecimal. -/
def hexByte (b : UInt8) : String :=
  "0x" ++ String.ofList [Nat.digitChar (b.toNat / 16), Nat.digitChar (b.toNat % 16)]

/-- The message of a fault. -/
def Error.message (e : Error) : String :=
  if e.stop = e.start + 1 then
    s!"'utf-8' codec can't decode byte {hexByte e.byte} in position {e.start}: {e.reason.text}"
  else
    s!"'utf-8' codec can't decode bytes in position {e.start}-{e.stop - 1}: {e.reason.text}"

/-- What a first byte asks for: the bits it gives, how many bytes follow, and the range of the
first of them. -/
structure Lead where
  bits : Nat
  more : Nat
  low : Nat
  high : Nat

/-- What a first byte asks for; nothing for a byte that starts no character. -/
def lead? (n : Nat) : Option Lead :=
  if n < 0x80 then some ⟨n, 0, 0, 0⟩
  else if n < 0xC2 then none
  else if n < 0xE0 then some ⟨n - 0xC0, 1, 0x80, 0xBF⟩
  else if n = 0xE0 then some ⟨0, 2, 0xA0, 0xBF⟩
  else if n = 0xED then some ⟨0xD, 2, 0x80, 0x9F⟩
  else if n < 0xF0 then some ⟨n - 0xE0, 2, 0x80, 0xBF⟩
  else if n = 0xF0 then some ⟨0, 3, 0x90, 0xBF⟩
  else if n < 0xF4 then some ⟨n - 0xF0, 3, 0x80, 0xBF⟩
  else if n = 0xF4 then some ⟨4, 3, 0x80, 0x8F⟩
  else none

/-- Read the bytes after the first one: the code point, how many bytes were read, and why reading
stopped if it did. -/
def readMore : Nat → Nat → Nat → Nat → Nat → List UInt8 → Except (Reason × Nat) Nat × List UInt8
  | bits, 0, _, _, _, rest => (.ok bits, rest)
  | _, _ + 1, _, _, width, [] => (.error (.endOfData, width), [])
  | bits, more + 1, low, high, width, b :: rest =>
    if low ≤ b.toNat ∧ b.toNat ≤ high then
      readMore (bits * 64 + b.toNat % 64) more 0x80 0xBF (width + 1) rest
    else (.error (.continuationByte, width), b :: rest)

/-- The characters and the faults of some bytes, in order.  The first number bounds how many bytes
are left, the second is the position of the first of them. -/
def readAll : Nat → Nat → List UInt8 → List (Except Error Char)
  | 0, _, _ => []
  | _, _, [] => []
  | fuel + 1, pos, b :: rest =>
    match lead? b.toNat with
    | none => .error ⟨b, pos, pos + 1, .startByte⟩ :: readAll fuel (pos + 1) rest
    | some l =>
      match readMore l.bits l.more l.low l.high 1 rest with
      | (.ok n, rest) => .ok (Char.ofNat n) :: readAll fuel (pos + 1 + l.more) rest
      | (.error (reason, width), rest) =>
        .error ⟨b, pos, pos + width, reason⟩ :: readAll fuel (pos + width) rest

/-- **Read bytes as UTF-8**, or tell the first fault. -/
def decode (bytes : List UInt8) : Except Error String :=
  ((readAll bytes.length 0 bytes).mapM id).map String.ofList

/-- **Read bytes as UTF-8**, each fault giving one replacement character. -/
def decodeLossy (bytes : List UInt8) : String :=
  String.ofList ((readAll bytes.length 0 bytes).map fun
    | .ok c => c
    | .error _ => '�')

/-- The bytes of a text. -/
def encode (s : String) : List UInt8 := s.toUTF8.data.toList

/-- Line ends of every convention as line feeds. -/
def unifyLineEnds : List Char → List Char
  | [] => []
  | '\r' :: '\n' :: rest => '\n' :: unifyLineEnds rest
  | '\r' :: rest => '\n' :: unifyLineEnds rest
  | c :: rest => c :: unifyLineEnds rest

end DefUse.Utf8
