import DidYouMean.Text.Quoted

/-!
# UTF-8

Strict decoding of bytes.  What is no character ends the decoding with an error that names the
bytes, their position and the reason.

## Main definitions

- `decodeBytes`: the characters of some bytes, and what is left of an unfinished one
- `decode`: the characters of a file read as a whole
- `decodeInChunks`: the characters of a file read chunk by chunk
- `encode`: the bytes of a text

## Design notes

A file that is read chunk by chunk reports positions within the chunk, to which an unfinished
character of the chunk before is prepended.
-/

namespace DidYouMean.Text

/-- Why bytes are no character. -/
inductive DecodeReason where
  | invalidStart
  | invalidContinuation
  | unexpectedEnd
  deriving Repr, DecidableEq

def DecodeReason.wording : DecodeReason → String
  | .invalidStart => "invalid start byte"
  | .invalidContinuation => "invalid continuation byte"
  | .unexpectedEnd => "unexpected end of data"

/-- The bytes that are no character: where they start, the first one, and how many there are. -/
structure DecodeError where
  position : Nat
  byte : UInt8
  count : Nat
  reason : DecodeReason
  deriving Repr, DecidableEq

def DecodeError.message (e : DecodeError) : String :=
  let place :=
    if e.count = 1 then
      "byte 0x" ++ hexText 2 e.byte.toNat ++ " in position " ++ toString e.position
    else "bytes in position " ++ toString e.position ++ "-" ++ toString (e.position + e.count - 1)
  "'utf-8' codec can't decode " ++ place ++ ": " ++ e.reason.wording

/-- What stands at the start of some bytes. -/
inductive Lead where
  | char (c : Char) (width : Nat)
  | invalid (count : Nat) (reason : DecodeReason)
  | unfinished

def isContinuation (b : UInt8) : Bool :=
  0x80 ≤ b && b ≤ 0xBF

/-- The least and greatest second byte after a first one: no character has two encodings, none is
a surrogate and none is beyond the last plane. -/
def secondByteRange (first : UInt8) : UInt8 × UInt8 :=
  if first = 0xE0 then (0xA0, 0xBF)
  else if first = 0xED then (0x80, 0x9F)
  else if first = 0xF0 then (0x90, 0xBF)
  else if first = 0xF4 then (0x80, 0x8F)
  else (0x80, 0xBF)

/-- The low six bits of a continuation byte. -/
def sixBits (b : UInt8) : Nat :=
  b.toNat % 0x40

/-- What stands at the start of the bytes `b :: rest`. -/
def leadOf (b : UInt8) (rest : List UInt8) : Lead :=
  if b < 0x80 then .char (Char.ofNat b.toNat) 1
  else if b < 0xC2 || 0xF4 < b then .invalid 1 .invalidStart
  else
    let (low, high) := secondByteRange b
    let width := if b < 0xE0 then 2 else if b < 0xF0 then 3 else 4
    match rest with
    | [] => .unfinished
    | b₂ :: rest =>
      if !(low ≤ b₂ && b₂ ≤ high) then .invalid 1 .invalidContinuation
      else if width = 2 then .char (Char.ofNat (b.toNat % 0x20 * 0x40 + sixBits b₂)) 2
      else match rest with
        | [] => .unfinished
        | b₃ :: rest =>
          if !isContinuation b₃ then .invalid 2 .invalidContinuation
          else
            let code := (b.toNat % 0x10 * 0x40 + sixBits b₂) * 0x40 + sixBits b₃
            if width = 3 then .char (Char.ofNat code) 3
            else match rest with
              | [] => .unfinished
              | b₄ :: _ =>
                if !isContinuation b₄ then .invalid 3 .invalidContinuation
                else
                  let code := (b.toNat % 8 * 0x40 + sixBits b₂) * 0x40 + sixBits b₃
                  .char (Char.ofNat (code * 0x40 + sixBits b₄)) 4

/-- Decodes bytes from the given position on.  `found` holds the characters so far, last first;
each of at most `steps` steps takes a byte or more. -/
def decodeFrom (position : Nat) (found : List Char) :
    Nat → List UInt8 → Except DecodeError (List Char × List UInt8)
  | 0, bytes => .ok (found.reverse, bytes)
  | _, [] => .ok (found.reverse, [])
  | steps + 1, b :: rest =>
    match leadOf b rest with
    | .char c width =>
      decodeFrom (position + width) (c :: found) steps (rest.drop (width - 1))
    | .invalid count reason => .error ⟨position, b, count, reason⟩
    | .unfinished => .ok (found.reverse, b :: rest)

/-- The characters of some bytes, and the bytes of an unfinished character at their end. -/
def decodeBytes (bytes : List UInt8) : Except DecodeError (List Char × List UInt8) :=
  decodeFrom 0 [] bytes.length bytes

/-- The characters if no bytes are left; else the error of an unfinished character. -/
def finished (position : Nat) (cs : List Char) : List UInt8 → Except DecodeError (List Char)
  | [] => .ok cs
  | b :: rest => .error ⟨position, b, rest.length + 1, .unexpectedEnd⟩

/-- The characters of a file that is read as a whole. -/
def decode (bytes : List UInt8) : Except DecodeError (List Char) :=
  match decodeBytes bytes with
  | .ok (cs, left) => finished (bytes.length - left.length) cs left
  | .error e => .error e

/-- The size of the chunks in which files are read line by line. -/
def chunkSize : Nat := 8192

/-- Decodes a file chunk by chunk; `left` is the unfinished character of the chunk before. -/
def decodeChunks (found : List Char) (left : List UInt8) :
    Nat → List UInt8 → Except DecodeError (List Char)
  | 0, _ => finished 0 found left
  | _, [] => finished 0 found left
  | steps + 1, bytes =>
    match decodeBytes (left ++ bytes.take chunkSize) with
    | .ok (cs, left) => decodeChunks (found ++ cs) left steps (bytes.drop chunkSize)
    | .error e => .error e

/-- The characters of a file that is read chunk by chunk. -/
def decodeInChunks (bytes : List UInt8) : Except DecodeError (List Char) :=
  decodeChunks [] [] bytes.length bytes

def encode (s : String) : List UInt8 :=
  s.toUTF8.toList

end DidYouMean.Text
