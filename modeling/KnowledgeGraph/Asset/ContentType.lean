/-!
# Content types

The type of a file by the bytes it starts with. The kinds are tried in order, and the first one
that knows the bytes as its own names the type.
-/

namespace KnowledgeGraph.Asset

def defaultContentType : String := "application/octet-stream"

namespace Magic

def at_ (offset : Nat) (magic : List UInt8) (bytes : List UInt8) : Bool :=
  magic.isPrefixOf (bytes.drop offset)

def longerThan (n : Nat) (bytes : List UInt8) : Bool := !(bytes.drop n).isEmpty

def text (s : String) : List UInt8 := s.toList.map fun c => UInt8.ofNat c.toNat

def lead (magic : List UInt8) (bytes : List UInt8) : Bool := magic.isPrefixOf bytes

def byteAt (i : Nat) (bytes : List UInt8) : UInt8 := (bytes[i]?).getD 0

/-- Both byte orders of the Tagged Image File Format. -/
def isTagged (bytes : List UInt8) : Bool :=
  longerThan 9 bytes && (lead [0x49, 0x49, 0x2A, 0x00] bytes || lead [0x4D, 0x4D, 0x00, 0x2A] bytes)

def isZip (bytes : List UInt8) : Bool :=
  lead (text "PK") bytes && longerThan 3 bytes && [3, 5, 7].contains (byteAt 2 bytes) &&
    [4, 6, 8].contains (byteAt 3 bytes)

def lower (b : UInt8) : UInt8 := if 0x41 ≤ b && b ≤ 0x5A then b + 0x20 else b

def isSpace (b : UInt8) : Bool := b == 0x09 || b == 0x0A || b == 0x0C || b == 0x0D || b == 0x20

def leadsInAnyCase (word : String) (bytes : List UInt8) : Bool :=
  (text word).isPrefixOf (bytes.map lower)

def htmlTags : List String :=
  ["<!doctype html", "<html", "<head", "<script", "<iframe", "<h1", "<div", "<font", "<table",
   "<a", "<style", "<title", "<b", "<body", "<br", "<p", "<!--"]

/-- A tag of the language, closed or followed by a space. -/
def isHtml (bytes : List UInt8) : Bool :=
  let start := (bytes.dropWhile isSpace).take 32
  htmlTags.any fun tag =>
    leadsInAnyCase tag start &&
      match start[tag.length]? with
      | some b => b == 0x20 || b == 0x3E
      | none => false

def isXml (bytes : List UInt8) : Bool :=
  let bytes := if lead [0xEF, 0xBB, 0xBF] bytes then bytes.drop 3 else bytes
  leadsInAnyCase "<?xml" ((bytes.dropWhile isSpace).take 8)

end Magic

open Magic in
/-- The kinds of file that are known, in the order in which they are tried. -/
def contentTypes : List (String × (List UInt8 → Bool)) :=
  [("application/wasm", lead [0x00, 0x61, 0x73, 0x6D, 0x01, 0x00, 0x00, 0x00]),
   ("application/x-executable", fun b => lead [0x7F, 0x45, 0x4C, 0x46] b && longerThan 52 b),
   ("application/vnd.microsoft.portable-executable", lead (text "MZ")),
   ("image/jpeg", lead [0xFF, 0xD8, 0xFF]),
   ("image/jp2", lead [0x00, 0x00, 0x00, 0x0C, 0x6A, 0x50, 0x20, 0x20, 0x0D, 0x0A, 0x87, 0x0A, 0x00]),
   ("image/png", lead [0x89, 0x50, 0x4E, 0x47]),
   ("image/gif", lead (text "GIF")),
   ("image/webp", at_ 8 (text "WEBP")),
   ("image/x-canon-cr2", fun b => isTagged b && byteAt 8 b == 0x43 && byteAt 9 b == 0x52),
   ("image/tiff", fun b => isTagged b && byteAt 8 b != 0x43 && byteAt 9 b != 0x52),
   ("image/bmp", lead (text "BM")),
   ("image/vnd.ms-photo", lead [0x49, 0x49, 0xBC]),
   ("image/vnd.adobe.photoshop", lead (text "8BPS")),
   ("image/vnd.microsoft.icon", lead [0x00, 0x00, 0x01, 0x00]),
   ("audio/midi", lead (text "MThd")),
   ("audio/mpeg", fun b => lead (text "ID3") b || (lead [0xFF, 0xFB] b && longerThan 2 b)),
   ("audio/ogg", lead (text "OggS")),
   ("audio/x-flac", lead (text "fLaC")),
   ("audio/x-wav", fun b => lead (text "RIFF") b && at_ 8 (text "WAVE") b),
   ("audio/amr", fun b => lead (text "#!AMR\n") b && longerThan 11 b),
   ("audio/aac", fun b => lead [0xFF, 0xF1] b || lead [0xFF, 0xF9] b),
   ("application/font-woff", fun b => lead (text "wOFF") b && at_ 4 [0x00, 0x01, 0x00, 0x00] b),
   ("application/font-woff", fun b => lead (text "wOF2") b && at_ 4 [0x00, 0x01, 0x00, 0x00] b),
   ("application/font-sfnt", lead [0x00, 0x01, 0x00, 0x00, 0x00]),
   ("application/font-sfnt", lead [0x4F, 0x54, 0x54, 0x4F, 0x00]),
   ("application/zip", isZip),
   ("application/x-tar", at_ 257 (text "ustar")),
   ("application/gzip", lead [0x1F, 0x8B, 0x08]),
   ("application/x-bzip2", lead (text "BZh")),
   ("application/x-7z-compressed", lead [0x37, 0x7A, 0xBC, 0xAF, 0x27, 0x1C]),
   ("application/pdf", lead (text "%PDF")),
   ("application/rtf", lead [0x7B, 0x5C, 0x72, 0x74, 0x66]),
   ("application/postscript", lead (text "%!")),
   ("application/x-xz", lead [0xFD, 0x37, 0x7A, 0x58, 0x5A, 0x00]),
   ("text/html", isHtml),
   ("text/xml", isXml),
   ("text/x-shellscript", fun b => lead (text "#!") b && longerThan 2 b)]

def recognize? (bytes : ByteArray) : Option String :=
  let start := (bytes.extract 0 512).toList
  (contentTypes.find? fun (_, knows) => knows start).map (·.1)

def sniff (bytes : ByteArray) : String := (recognize? bytes).getD defaultContentType

end KnowledgeGraph.Asset
