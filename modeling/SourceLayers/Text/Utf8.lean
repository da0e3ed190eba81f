/-
UTF-8:

* `encodeUtf8`: the octets of a text;
* `decodeUtf8`: the text of a list of octets, or the first fault in them;
* `Utf8Fault`: where a sequence of octets goes wrong and how, with its message.

A sequence is read octet by octet. It is at fault at its first octet if that begins no character,
at the octets read so far if the next one cannot follow them, and at all that is left if the
octets end too early.
-/
import SourceLayers.Text.Quoted

namespace SourceLayers

/-- What is wrong with a sequence of octets. -/
inductive Utf8Cause where
  | invalidStart
  | invalidContinuation
  | unexpectedEnd
  deriving DecidableEq, Repr

/-- The first fault of a list of octets: the octets from `first` on, `count` of them, begin no
character. `octet` is the one at `first`. -/
structure Utf8Fault where
  cause : Utf8Cause
  first : Nat
  count : Nat
  octet : UInt8
  deriving DecidableEq, Repr

/-- The wording of a cause. -/
def Utf8Cause.message : Utf8Cause → String
  | .invalidStart => "invalid start byte"
  | .invalidContinuation => "invalid continuation byte"
  | .unexpectedEnd => "unexpected end of data"

/-- The message of a fault: a single octet is shown, several are given by their positions. -/
def Utf8Fault.message (fault : Utf8Fault) : String :=
  let place :=
    if fault.count = 1 then
      "byte 0x" ++ String.ofList (hexDigits 2 fault.octet.toNat) ++ " in position " ++
        toString fault.first
    else
      "bytes in position " ++ toString fault.first ++ "-" ++
        toString (fault.first + fault.count - 1)
  "'utf-8' codec can't decode " ++ place ++ ": " ++ fault.cause.message

/-- The octets of a text. -/
def encodeUtf8 (text : List Char) : List UInt8 :=
  text.flatMap String.utf8EncodeChar

/-- The number of octets of a character by its first octet; none if that begins no character. -/
def sequenceLength? (first : UInt8) : Option Nat :=
  if first < 0x80 then some 1
  else if first < 0xC2 then none
  else if first < 0xE0 then some 2
  else if first < 0xF0 then some 3
  else if first < 0xF5 then some 4
  else none

/-- Whether an octet may follow the first octet of a character. The ranges leave out overlong
forms, surrogates and what lies beyond the last code point. -/
def mayFollowFirst (first second : UInt8) : Bool :=
  let low : UInt8 := if first = 0xE0 then 0xA0 else if first = 0xF0 then 0x90 else 0x80
  let high : UInt8 := if first = 0xED then 0x9F else if first = 0xF4 then 0x8F else 0xBF
  low ≤ second && second ≤ high

/-- Whether an octet may stand third or fourth in a character. -/
def isContinuation (octet : UInt8) : Bool :=
  0x80 ≤ octet && octet ≤ 0xBF

/-- The payload of an octet that continues a character. -/
def payload (octet : UInt8) : Nat :=
  octet.toNat % 64

/-- The text of the octets, the first of which stands at `position`. -/
def decodeUtf8From (position : Nat) : List UInt8 → Except Utf8Fault (List Char)
  | [] => .ok []
  | a :: rest =>
    let fault (cause : Utf8Cause) (count : Nat) : Except Utf8Fault (List Char) :=
      .error ⟨cause, position, count, a⟩
    match sequenceLength? a with
    | none => fault .invalidStart 1
    | some 1 => (decodeUtf8From (position + 1) rest).map (Char.ofNat a.toNat :: ·)
    | some 2 =>
      match rest with
      | [] => fault .unexpectedEnd 1
      | b :: rest =>
        if mayFollowFirst a b then
          (decodeUtf8From (position + 2) rest).map
            (Char.ofNat (a.toNat % 32 * 64 + payload b) :: ·)
        else fault .invalidContinuation 1
    | some 3 =>
      match rest with
      | [] => fault .unexpectedEnd 1
      | b :: rest =>
        if mayFollowFirst a b then
          match rest with
          | [] => fault .unexpectedEnd 2
          | c :: rest =>
            if isContinuation c then
              (decodeUtf8From (position + 3) rest).map
                (Char.ofNat ((a.toNat % 16 * 64 + payload b) * 64 + payload c) :: ·)
            else fault .invalidContinuation 2
        else fault .invalidContinuation 1
    | some _ =>
      match rest with
      | [] => fault .unexpectedEnd 1
      | b :: rest =>
        if mayFollowFirst a b then
          match rest with
          | [] => fault .unexpectedEnd 2
          | c :: rest =>
            if isContinuation c then
              match rest with
              | [] => fault .unexpectedEnd 3
              | d :: rest =>
                if isContinuation d then
                  (decodeUtf8From (position + 4) rest).map
                    (Char.ofNat
                      (((a.toNat % 8 * 64 + payload b) * 64 + payload c) * 64 + payload d) :: ·)
                else fault .invalidContinuation 3
            else fault .invalidContinuation 2
        else fault .invalidContinuation 1

/-- The text of a list of octets, or its first fault. -/
def decodeUtf8 (octets : List UInt8) : Except Utf8Fault (List Char) :=
  decodeUtf8From 0 octets

end SourceLayers
