import Flowline.Text.Quoted

/-!
The UTF-8 form of text: bytes from characters, characters from bytes, and what can be wrong in bytes.
-/

namespace Flowline.Text.Utf8

/-- The bytes of a text. -/
def encode (s : String) : List UInt8 := s.toList.flatMap String.utf8EncodeChar

inductive FaultKind where
  | startByte
  | continuation
  | endOfData
  deriving DecidableEq, Repr

/-- Bytes that are no text: where they start, how many they are, and the first of them. -/
structure Fault where
  kind : FaultKind
  position : Nat
  length : Nat
  byte : UInt8
  deriving DecidableEq, Repr

def FaultKind.message : FaultKind → String
  | startByte => "invalid start byte"
  | continuation => "invalid continuation byte"
  | endOfData => "unexpected end of data"

def Fault.message (f : Fault) : String :=
  let place :=
    if f.length = 1 then s!"byte 0x{hexDigits 2 f.byte.toNat} in position {f.position}"
    else s!"bytes in position {f.position}-{f.position + f.length - 1}"
  s!"'utf-8' codec can't decode {place}: " ++ f.kind.message

def isContinuation (b : UInt8) : Bool := 0x80 ≤ b && b ≤ 0xbf

/-- How many bytes follow a start byte. -/
def following? (b : UInt8) : Option Nat :=
  if b < 0x80 then some 0
  else if 0xc2 ≤ b && b ≤ 0xdf then some 1
  else if 0xe0 ≤ b && b ≤ 0xef then some 2
  else if 0xf0 ≤ b && b ≤ 0xf4 then some 3
  else none

/-- Whether a byte can be the second one of a character: not every continuation byte is, for a
character has only one form, is no surrogate and lies below the greatest code point. -/
def isSecond (first second : UInt8) : Bool :=
  isContinuation second &&
    (first ≠ 0xe0 || 0xa0 ≤ second) && (first ≠ 0xed || second ≤ 0x9f) &&
    (first ≠ 0xf0 || 0x90 ≤ second) && (first ≠ 0xf4 || second ≤ 0x8f)

/-- The continuation bytes at the start of bytes, at most so many; the first one must fit the start
byte. -/
def continuations (first : UInt8) (count : Nat) (rest : List UInt8) : List UInt8 :=
  match rest with
  | second :: more =>
      if count ≠ 0 && isSecond first second then
        second :: (more.take (count - 1)).takeWhile isContinuation
      else []
  | [] => []

/-- The code point that a start byte and its continuation bytes write. -/
def codePoint (first : UInt8) (cont : List UInt8) : Nat :=
  let start := match cont.length with
    | 0 => first.toNat
    | 1 => first.toNat % 32
    | 2 => first.toNat % 16
    | _ => first.toNat % 8
  cont.foldl (fun n b => 64 * n + b.toNat % 64) start

/-- The characters of bytes that stand at a position. -/
def decodeFrom (position : Nat) : List UInt8 → Except Fault (List Char)
  | [] => .ok []
  | first :: rest =>
      match following? first with
      | none => .error ⟨.startByte, position, 1, first⟩
      | some count =>
          let cont := continuations first count rest
          if cont.length = count then do
            let cs ← decodeFrom (position + 1 + count) (rest.drop count)
            return Char.ofNat (codePoint first cont) :: cs
          else if cont.length = rest.length then
            .error ⟨.endOfData, position, 1 + cont.length, first⟩
          else .error ⟨.continuation, position, 1 + cont.length, first⟩
termination_by bytes => bytes.length
decreasing_by rw [List.length_drop, List.length_cons]; omega

/-- The text of bytes. -/
def decode (bytes : List UInt8) : Except Fault String :=
  (decodeFrom 0 bytes).map String.ofList

/-- A text with line feeds for its line breaks, be they carriage returns, line feeds, or both. -/
def withLineFeeds (s : String) : String :=
  String.ofList (go s.toList)
where
  go : List Char → List Char
    | '\r' :: '\n' :: rest => '\n' :: go rest
    | '\r' :: rest => '\n' :: go rest
    | c :: rest => c :: go rest
    | [] => []

end Flowline.Text.Utf8
