/-!
Texts as bytes, in UTF-8, and bytes as texts. Names of files are bytes, which need not be a text.
Main statement: `shown` shows bytes as their text, with a mark in place of what is none.
-/

namespace ContractBinder.Text

def bytes (text : String) : List UInt8 :=
  text.toUTF8.data.toList

/-- The text that bytes are, if they are one. -/
def decode? (bytes : List UInt8) : Option String :=
  String.fromUTF8? ⟨bytes.toArray⟩

/-- What is shown in place of bytes that are no text. -/
def replacement : Char := '\uFFFD'

/-- A character of several bytes of which some are missing. -/
structure Started where
  /-- How many bytes are missing. -/
  missing : Nat
  /-- What the bytes so far say. -/
  value : Nat
  /-- The least and the greatest byte that can be next. -/
  low : Nat
  high : Nat
  deriving DecidableEq

/-- The character that a byte starts, if it is the first of several. The bounds of the second byte
leave out what would be too long, a surrogate, or too large. -/
def start? (byte : Nat) : Option Started :=
  if 0xc2 ≤ byte && byte ≤ 0xdf then some ⟨1, byte - 0xc0, 0x80, 0xbf⟩
  else if 0xe0 ≤ byte && byte ≤ 0xef then
    some ⟨2, byte - 0xe0, if byte = 0xe0 then 0xa0 else 0x80, if byte = 0xed then 0x9f else 0xbf⟩
  else if 0xf0 ≤ byte && byte ≤ 0xf4 then
    some ⟨3, byte - 0xf0, if byte = 0xf0 then 0x90 else 0x80, if byte = 0xf4 then 0x8f else 0xbf⟩
  else none

/-- What is shown for a byte that no character is waiting for, and the character that it starts. -/
def showFirst (byte : Nat) : List Char × Option Started :=
  if byte < 0x80 then ([Char.ofNat byte], none)
  else
    match start? byte with
    | some started => ([], some started)
    | none => ([replacement], none)

/-- What is shown for the next byte, and the character that is waiting then. A byte that the waiting
character cannot have ends it, and is looked at on its own. -/
def showNext (waiting : Option Started) (byte : Nat) : List Char × Option Started :=
  match waiting with
  | none => showFirst byte
  | some started =>
    if started.low ≤ byte && byte ≤ started.high then
      let value := started.value * 64 + (byte - 0x80)
      if started.missing = 1 then ([Char.ofNat value], none)
      else ([], some ⟨started.missing - 1, value, 0x80, 0xbf⟩)
    else
      let (shown, next) := showFirst byte
      (replacement :: shown, next)

/-- What is shown for bytes, each part that is no character as one mark. -/
def showFrom (waiting : Option Started) : List UInt8 → List Char
  | [] => if waiting.isSome then [replacement] else []
  | byte :: rest =>
    let (shown, next) := showNext waiting byte.toNat
    shown ++ showFrom next rest

/-- Bytes as they are shown: as their text, if they are one. -/
def shown (bytes : List UInt8) : String :=
  match decode? bytes with
  | some text => text
  | none => String.ofList (showFrom none bytes)

example : shown [0x61, 0xff, 0xe2, 0x82, 0x62] = "a\uFFFD\uFFFDb" := by decide +kernel

end ContractBinder.Text
