import ApiSchema.Text.Basic
import ApiSchema.Url.Percent
import ApiSchema.Url.Punycode

set_option autoImplicit false

namespace ApiSchema.Url

open ApiSchema.Text

inductive UrlError where
  | emptyHost
  | invalidDomain
  | invalidPort
  | invalidIpv4
  | invalidIpv6
  | invalidHostCharacter
  | relative
  deriving DecidableEq

def UrlError.text : UrlError → String
  | .emptyHost => "empty host"
  | .invalidDomain => "invalid international domain name"
  | .invalidPort => "invalid port number"
  | .invalidIpv4 => "invalid IPv4 address"
  | .invalidIpv6 => "invalid IPv6 address"
  | .invalidHostCharacter => "invalid domain character"
  | .relative => "relative URL without a base"

/-- Whether a character of ASCII may not stand in a domain. -/
def isForbiddenInDomain (c : Char) : Bool :=
  c.toNat ≤ 0x20 || c.toNat == 0x7F || c.toNat == 0x60 || c.toNat == 0x7B || c.toNat == 0x7D ||
    ['%', '#', '/', ':', '<', '>', '?', '@', '[', '\\', ']', '^', '|'].contains c

/-- A character of a domain in lower case, with the wide forms of ASCII and of the full stop made
plain and the soft hyphen dropped. -/
def domainChar (c : Char) : List Char :=
  let code := c.toNat
  if code < 0x80 then [c.toLower]
  else if code == 0x3002 || code == 0xFF61 then ['.']
  else if code == 0xAD || code == 0x200B || code == 0x2060 || code == 0xFEFF then []
  else if 0xFF01 ≤ code && code ≤ 0xFF5E then [(Char.ofNat (code - 0xFEE0)).toLower]
  else lowerChar c

def asciiLabel (label : List Char) : List Char :=
  if label.all fun c => c.toNat < 0x80 then label else "xn--".toList ++ punycode label

/-- Whether a label claims to be encoded and stands for no characters outside ASCII. -/
def isBadLabel (label : List Char) : Bool :=
  "xn--".toList.isPrefixOf label &&
    match decodePunycode? (label.drop 4) with
    | some decoded => decoded.all (fun c => c.toNat < 0x80) || decoded.any isControl
    | none => true

/-- The domain that the bytes of a host name spell, in lower case and in ASCII. -/
def domainOfBytes (bytes : List UInt8) : Except UrlError (List Char) :=
  match String.fromUTF8? ⟨bytes.toArray⟩ with
  | none => .error .invalidDomain
  | some text =>
      let labels := splitChars (· == '.') (text.toList.flatMap domainChar)
      let domain := List.intercalate ['.'] (labels.map asciiLabel)
      if domain.any isForbiddenInDomain || labels.any isBadLabel then .error .invalidDomain
      else .ok domain

/-- The digits of a part of an address without the sign of their base, and the base. -/
def splitBase (part : List Char) : List Char × Nat :=
  match part with
  | '0' :: 'x' :: rest | '0' :: 'X' :: rest => (rest, 16)
  | '0' :: next :: rest => (next :: rest, 8)
  | _ => (part, 10)

def ipv4Number? (part : List Char) : Option Nat :=
  if part.isEmpty then none
  else
    let (digits, base) := splitBase part
    digits.foldl
      (fun value c => do
        let digit ← hexDigit? c
        if digit < base then some ((← value) * base + digit) else none)
      (some 0)

/-- Whether a domain ends in a number and so must be an address. -/
def endsInNumber (domain : List Char) : Bool :=
  let parts := (splitChars (· == '.') domain).reverse
  let last :=
    match parts with
    | [] :: next :: _ => next
    | part :: _ => part
    | [] => []
  !last.isEmpty && (last.all Char.isDigit || (ipv4Number? last).isSome)

def ipv4OfDomain (domain : List Char) : Except UrlError Nat :=
  let parts := splitChars (· == '.') domain
  let parts := if parts.getLast? == some [] then parts.dropLast else parts
  if 4 < parts.length then .error .invalidIpv4
  else
    match parts.mapM ipv4Number? with
    | none => .error .invalidIpv4
    | some numbers =>
        let last := numbers.getLast?.getD 0
        let front := numbers.dropLast
        if Nat.pow 256 (4 - front.length) ≤ last || front.any (255 < ·) then .error .invalidIpv4
        else
          let weighted := (front.zip [Nat.pow 256 3, Nat.pow 256 2, 256]).map fun (n, w) => n * w
          .ok (weighted.foldl (· + ·) last)

def ipv4Text (address : Nat) : List Char :=
  List.intercalate ['.']
    ([Nat.pow 256 3, Nat.pow 256 2, 256, 1].map fun weight =>
      (toString (address / weight % 256)).toList)

/-- A decimal part of at most 255 without leading zeros. -/
def octet? (part : List Char) : Option Nat :=
  if part.isEmpty || !part.all Char.isDigit || 3 < part.length ||
      (1 < part.length && part.head? == some '0') then none
  else
    let value := part.foldl (fun value c => value * 10 + (c.toNat - '0'.toNat)) 0
    if value ≤ 255 then some value else none

/-- The two pieces that four decimal parts make. -/
def embeddedIpv4? (text : List Char) : Option (List Nat) :=
  match (splitChars (· == '.') text).mapM octet? with
  | some [a, b, c, d] => some [a * 256 + b, c * 256 + d]
  | _ => none

def piece? (text : List Char) : Option Nat :=
  if text.isEmpty || 4 < text.length then none
  else
    (text.mapM hexDigit?).map fun digits =>
      digits.foldl (fun value digit => value * 16 + digit) 0

/-- The pieces that texts write; the last text may be of the fourth version. -/
def pieces? : List (List Char) → Option (List Nat)
  | [] => some []
  | [last] => if last.contains '.' then embeddedIpv4? last else (piece? last).map fun n => [n]
  | text :: rest => do
      let first ← piece? text
      let later ← pieces? rest
      some (first :: later)

def sidePieces? (side : List Char) : Option (List Nat) :=
  if side.isEmpty then some [] else pieces? (splitChars (· == ':') side)

/-- The eight pieces of an address of the sixth version. -/
def ipv6Pieces? (text : List Char) : Option (List Nat) :=
  match cutAt [':', ':'] text with
  | none => (sidePieces? text).filter fun pieces => pieces.length == 8
  | some (front, back) => do
      if front.contains '.' then none
      let before ← sidePieces? front
      let behind ← sidePieces? back
      let size := before.length + behind.length
      if size ≤ 7 then some (before ++ List.replicate (8 - size) 0 ++ behind) else none

/-- The start and the length of the first longest run of zeros. -/
def longestZeros (pieces : List Nat) : Nat × Nat :=
  (List.range pieces.length).foldl
    (fun best start =>
      let run := ((pieces.drop start).takeWhile (· == 0)).length
      if best.2 < run then (start, run) else best)
    (0, 0)

def piecesText (pieces : List Nat) : List Char :=
  List.intercalate [':'] (pieces.map fun piece => Nat.toDigits 16 piece)

/-- The address in brackets, its longest run of at least two zeros left out. -/
def ipv6Text (pieces : List Nat) : List Char :=
  let (start, run) := longestZeros pieces
  let inner :=
    if run < 2 then piecesText pieces
    else piecesText (pieces.take start) ++ [':', ':'] ++ piecesText (pieces.drop (start + run))
  '[' :: inner ++ [']']

def bracketedHost (host : List Char) : Except UrlError (List Char) :=
  if host.getLast? != some ']' then .error .invalidIpv6
  else
    match ipv6Pieces? (host.drop 1).dropLast with
    | some pieces => .ok (ipv6Text pieces)
    | none => .error .invalidIpv6

/-- The normal form of the host of a special address. -/
def specialHost (host : List Char) : Except UrlError (List Char) :=
  if host.head? == some '[' then bracketedHost host
  else do
    let domain ← domainOfBytes (percentDecode host)
    if domain.isEmpty then .error .emptyHost
    else if endsInNumber domain then (ipv4OfDomain domain).map ipv4Text
    else .ok domain

def isForbiddenInHost (c : Char) : Bool :=
  c.toNat == 0 ||
    ['\t', '\n', '\r', ' ', '#', '/', ':', '<', '>', '?', '@', '[', '\\', ']', '^', '|'].contains c

/-- The normal form of the host of an address that is not special. -/
def opaqueHost (host : List Char) : Except UrlError (List Char) :=
  if host.head? == some '[' then bracketedHost host
  else if host.any isForbiddenInHost then .error .invalidHostCharacter
  else .ok (percentEncode isControlOrForeign host)

end ApiSchema.Url
