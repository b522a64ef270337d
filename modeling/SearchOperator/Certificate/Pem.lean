import SearchOperator.Text.Base64

/-!
# Armoured sections

A text may hold sections between a line that names their kind at the start and one that names it at
the end, with base64 in between. All else in the text counts for nothing, and so do sections of a
kind nobody knows.
-/

namespace SearchOperator.Certificate.Pem

def ascii (s : String) : Bytes := s.toList.map fun c => UInt8.ofNat c.toNat

/-- What opens a section, before its kind. -/
def opening : Bytes := ascii "-----BEGIN "

def closing : Bytes := ascii "-----END "

def dashes : Bytes := ascii "-----"

def certificateKind : Bytes := ascii "CERTIFICATE"

/-- The kinds of sections whose content must decode. -/
def knownKinds : List Bytes :=
  [certificateKind, ascii "PUBLIC KEY", ascii "RSA PRIVATE KEY", ascii "PRIVATE KEY",
    ascii "EC PRIVATE KEY", ascii "X509 CRL", ascii "CERTIFICATE REQUEST", ascii "ECHCONFIG"]

def isLineEnd (b : UInt8) : Bool := b == 0x0A || b == 0x0D

/-- Whether a byte counts for nothing between letters. -/
def isBlank (b : UInt8) : Bool := isLineEnd b || b == 0x20 || b == 0x09

def lines : Bytes → List Bytes
  | [] => [[]]
  | b :: rest =>
    match lines rest with
    | [] => [[b]]
    | line :: more => if isLineEnd b then [] :: line :: more else (b :: line) :: more

/-- How a line relates to the start of a section. -/
inductive Start where
  /-- It starts none. -/
  | no
  /-- It begins like the start of a section but does not end like one. -/
  | broken
  /-- It starts a section of a kind. -/
  | ofKind (kind : Bytes)
deriving DecidableEq, Repr

/-- The dashes and spaces at the end of a line, last first. -/
def trail (line : Bytes) : Bytes := line.reverse.takeWhile fun b => b == 0x2D || b == 0x20

def start (line : Bytes) : Start :=
  if opening.isPrefixOf line then
    if (trail line).count 0x2D = 5 then
      let before := (line.reverse.drop (trail line).length).reverse
      let spaces := ((trail line).reverse.takeWhile (· == 0x20))
      .ofKind ((before ++ spaces).drop opening.length)
    else .broken
  else .no

/-- The contents of the certificates in lines, the lines before being in a section of a kind with
some letters, or in none. There are none if a section does not end or does not decode. -/
def certificatesOf : Option Bytes → Bytes → List Bytes → Option (List Bytes)
  | none, _, [] => some []
  | some _, _, [] => none
  | kind, letters, line :: rest =>
    match start line, kind with
    | .broken, _ => none
    | .ofKind kind, _ => certificatesOf (some kind) letters rest
    | .no, none => certificatesOf none letters rest
    | .no, some kind =>
      if (closing ++ kind ++ dashes).isPrefixOf line then
        if knownKinds.contains kind then do
          let content ← Text.Base64.decode? (letters.filter (!isBlank ·))
          let more ← certificatesOf none [] rest
          return if kind = certificateKind then content :: more else more
        else certificatesOf none [] rest
      else certificatesOf (some kind) (letters ++ line) rest

def certificates? (text : Bytes) : Option (List Bytes) := certificatesOf none [] (lines text)

end SearchOperator.Certificate.Pem
