import TokenAcquisition.Text.Characters
import TokenAcquisition.Text.Utf8

/-!
Percent encoding, and lists of names and values in the form encoding.  Each part of a URL has its
own set of ASCII characters that are encoded; characters beyond ASCII always are.  In a form pairs
are joined by `&`, a name and its value by `=`, and a blank is written `+`.
-/

namespace TokenAcquisition.Url

def percentByte (b : UInt8) : List Char :=
  let halves := Text.nibbles b
  ['%', Char.ofNat (Text.hexCapital halves.1), Char.ofNat (Text.hexCapital halves.2)]

def isControl (c : Char) : Bool :=
  c.toNat < 0x20 || c.toNat == 0x7F

def inFragmentSet (c : Char) : Bool :=
  isControl c || " \"<>`".toList.contains c

def inPathSet (c : Char) : Bool :=
  inFragmentSet c || "#?\x7b\x7d".toList.contains c

def inUserinfoSet (c : Char) : Bool :=
  inPathSet c || "/:;=@[\\]^|".toList.contains c

def inQuerySet (c : Char) : Bool :=
  isControl c || " \"#<>".toList.contains c

def inSpecialQuerySet (c : Char) : Bool :=
  inQuerySet c || c == '\''

/-- Encodes the characters of a set and those beyond ASCII. -/
def percentEncode (encoded : Char → Bool) (cs : List Char) : List Char :=
  cs.flatMap fun c =>
    if c.toNat < 0x80 && !encoded c then [c]
    else (String.utf8EncodeChar c).flatMap percentByte

/-- Bytes with every percent sign that two digits follow replaced by the byte they name. -/
def percentDecode : List UInt8 → List UInt8
  | 0x25 :: a :: b :: rest =>
      match Text.hexValue? a.toNat, Text.hexValue? b.toNat with
      | some x, some y => UInt8.ofNat (16 * x.val + y.val) :: percentDecode rest
      | _, _ => 0x25 :: percentDecode (a :: b :: rest)
  | b :: rest => b :: percentDecode rest
  | [] => []

namespace Form

def isPlain (b : UInt8) : Bool :=
  (48 ≤ b && b ≤ 57) || (65 ≤ b && b ≤ 90) || (97 ≤ b && b ≤ 122) ||
    b == 0x2A || b == 0x2D || b == 0x2E || b == 0x5F

def encodeByte (b : UInt8) : List Char :=
  if isPlain b then [Char.ofNat b.toNat]
  else if b == 0x20 then ['+']
  else percentByte b

def encodeText (s : String) : List Char :=
  (Text.encode s).flatMap encodeByte

def encodePair (pair : String × String) : List Char :=
  encodeText pair.1 ++ '=' :: encodeText pair.2

def append (query : List Char) (pairs : List (String × String)) : List Char :=
  pairs.foldl
    (fun text pair => (if text.isEmpty then [] else text ++ ['&']) ++ encodePair pair)
    query

def split (separator : UInt8) : List UInt8 → List (List UInt8)
  | [] => [[]]
  | b :: rest =>
      if b == separator then [] :: split separator rest
      else
        match split separator rest with
        | first :: others => (b :: first) :: others
        | [] => [[b]]

def decodeText (bytes : List UInt8) : String :=
  let spaced := bytes.map fun b => if b == 0x2B then 0x20 else b
  String.ofList (Text.decodeLossy (percentDecode spaced))

def decodePair (bytes : List UInt8) : String × String :=
  (decodeText (bytes.takeWhile (· != 0x3D)), decodeText ((bytes.dropWhile (· != 0x3D)).drop 1))

/-- The pairs of an encoded list; empty stretches between separators are skipped. -/
def decode (text : List Char) : List (String × String) :=
  ((split 0x26 (Text.encodeChars text)).filter fun part => !part.isEmpty).map decodePair

end Form

end TokenAcquisition.Url
