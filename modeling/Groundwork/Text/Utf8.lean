namespace Groundwork.Text.Utf8

/-! Bytes read as UTF-8.

`pieceAt` says what stands at the head of a byte sequence: a character, or a fault as long as the
bytes that could still have begun a character.  Reading with replacement puts one replacement
character in the place of every fault.
-/

inductive Piece where
  | letter (value : Char) (width : Nat)
  /-- Bytes that begin no character. -/
  | fault (width : Nat)
  /-- The bytes end within a character. -/
  | cut (width : Nat)
  deriving DecidableEq, Repr

def Piece.width : Piece → Nat
  | .letter _ width | .fault width | .cut width => width

def isContinuation (byte : UInt8) : Bool :=
  0x80 ≤ byte && byte ≤ 0xbf

/-- How many bytes a character takes that begins with this one; zero when none does. -/
def widthOf (lead : UInt8) : Nat :=
  if lead < 0x80 then 1
  else if 0xc2 ≤ lead && lead ≤ 0xdf then 2
  else if 0xe0 ≤ lead && lead ≤ 0xef then 3
  else if 0xf0 ≤ lead && lead ≤ 0xf4 then 4
  else 0

/-- The second byte of a character excludes overlong forms, surrogates and codes past the last. -/
def isSecond (lead second : UInt8) : Bool :=
  if lead = 0xe0 then 0xa0 ≤ second && second ≤ 0xbf
  else if lead = 0xed then 0x80 ≤ second && second ≤ 0x9f
  else if lead = 0xf0 then 0x90 ≤ second && second ≤ 0xbf
  else if lead = 0xf4 then 0x80 ≤ second && second ≤ 0x8f
  else isContinuation second

def payload (bytes : List UInt8) : Nat :=
  bytes.foldl (fun value byte => 64 * value + byte.toNat % 64) 0

def compose (lead : UInt8) (followers : List UInt8) : Char :=
  let leading := lead.toNat % (if followers.length = 1 then 32 else if followers.length = 2 then 16 else 8)
  Char.ofNat (leading * Nat.pow 64 followers.length + payload followers)

def pieceAt : List UInt8 → Piece
  | [] => .cut 1
  | lead :: rest =>
      match widthOf lead, rest with
      | 0, _ => .fault 1
      | 1, _ => .letter (Char.ofNat lead.toNat) 1
      | _, [] => .cut 1
      | width, second :: more =>
          if !isSecond lead second then .fault 1
          else if width = 2 then .letter (compose lead [second]) 2
          else match more with
            | [] => .cut 2
            | third :: last =>
                if !isContinuation third then .fault 2
                else if width = 3 then .letter (compose lead [second, third]) 3
                else match last with
                  | [] => .cut 3
                  | fourth :: _ =>
                      if !isContinuation fourth then .fault 3
                      else .letter (compose lead [second, third, fourth]) 4

/-- The first argument counts the bytes of a piece that are still to be passed over. -/
def piecesFrom : Nat → List UInt8 → List Piece
  | _, [] => []
  | skip + 1, _ :: rest => piecesFrom skip rest
  | 0, byte :: rest =>
      let piece := pieceAt (byte :: rest)
      piece :: piecesFrom (piece.width - 1) rest

def pieces (bytes : List UInt8) : List Piece :=
  piecesFrom 0 bytes

def replacement : Char := Char.ofNat 0xfffd

/-- Reads every byte sequence, with the replacement character for each fault. -/
def readReplacing (bytes : ByteArray) : String :=
  String.ofList ((pieces bytes.toList).map fun
    | .letter value _ => value
    | _ => replacement)

/-- Where the bytes first stop being text, and why. -/
def faultFrom (index : Nat) : List Piece → Option (Nat × Piece)
  | [] => none
  | .letter _ width :: rest => faultFrom (index + width) rest
  | piece :: _ => some (index, piece)

def faultMessage (bytes : ByteArray) : Option String :=
  match faultFrom 0 (pieces bytes.toList) with
  | none => none
  | some (index, .cut _) => some s!"incomplete utf-8 byte sequence from index {index}"
  | some (index, piece) => some s!"invalid utf-8 sequence of {piece.width} bytes from index {index}"

def read? (bytes : ByteArray) : Option String :=
  String.fromUTF8? bytes

def hexOfByte (byte : UInt8) : List Char :=
  [Nat.digitChar (byte.toNat / 16), Nat.digitChar (byte.toNat % 16)]

/-- Two lower-case hexadecimal digits a byte. -/
def hex (bytes : ByteArray) : String :=
  String.ofList (bytes.toList.flatMap hexOfByte)

def nibble? (digit : Char) : Option UInt8 :=
  if '0' ≤ digit && digit ≤ '9' then some (digit.toNat - '0'.toNat).toUInt8
  else if 'a' ≤ digit && digit ≤ 'f' then some (digit.toNat - 'a'.toNat + 10).toUInt8
  else if 'A' ≤ digit && digit ≤ 'F' then some (digit.toNat - 'A'.toNat + 10).toUInt8
  else none

def bytesOfHex? : List Char → Option (List UInt8)
  | [] => some []
  | [_] => none
  | high :: low :: rest => do
      let high ← nibble? high
      let low ← nibble? low
      let more ← bytesOfHex? rest
      return (16 * high + low) :: more

end Groundwork.Text.Utf8
