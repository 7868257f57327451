/-
Module: DataVault.Workbook.Runtime
Layer: Model
Purpose: What the workbook engine stands on: the ZIP reader, the XML parser, the validators and the hash functions
  that it calls, as parameters, and the buffer and string operations of the platform. A JavaScript string that the
  engine meets is decoded text, hence a sequence of Unicode scalar values.
Imports: Mathlib.Algebra.GroupWithZero.Nat, DataVault.Guard.World, DataVault.Text.Pattern, DataVault.Xml.Content
Trusted boundary: human-reviewed spec
Main exports: WorkbookError, ZipEntry, ZipArchive, SaxesTag, SaxesRun, WorkbookRuntime, readUInt16LE, readUInt32LE,
  lastIndexOf, crc32, utf8, digitsValue, normalize
-/
import Mathlib.Algebra.GroupWithZero.Nat
import DataVault.Guard.World
import DataVault.Text.Pattern
import DataVault.Xml.Content

namespace DataVault.Workbook

open DataVault.Control DataVault.Guard DataVault.Text DataVault.Xml

/-! ### Failures -/

/-- What the engine throws: a `ScanError` with its code, or any other exception. -/
inductive WorkbookError where
  | scan (code : GuardErrorCode)
  | other
deriving DecidableEq, Repr

abbrev invalidWorkbook : WorkbookError := .scan .invalidWorkbook

abbrev limitExceeded : WorkbookError := .scan .limitExceeded

abbrev profileUnsupported : WorkbookError := .scan .profileUnsupported

/-! ### Archives -/

/-- What `yauzl` reports of an entry of the central directory. -/
structure ZipEntry where
  fileName : String
  generalPurposeBitFlag : Nat
  compressionMethod : Nat
  crc32 : Nat
  compressedSize : Nat
  uncompressedSize : Nat
  extraFieldIds : List Nat
  externalFileAttributes : Nat
  relativeOffsetOfLocalHeader : Nat
deriving DecidableEq, Repr

/-- The chunks of a read stream, up to its end or up to an error. -/
structure ZipStream where
  chunks : List Bytes
  complete : Bool
deriving DecidableEq, Repr

/-- An entry and what `openReadStream` answers for it. -/
structure ZipItem where
  entry : ZipEntry
  stream : Option ZipStream
deriving DecidableEq, Repr

/-- The entries in order, up to the end or up to an error. -/
structure ZipArchive where
  items : List ZipItem
  complete : Bool
deriving DecidableEq, Repr

/-! ### XML -/

/-- An attribute; `name` is its key, `localName` its `local`. -/
structure SaxesAttribute where
  name : String
  localName : String
  uri : String
  value : String
deriving DecidableEq, Repr

structure SaxesTag where
  localName : String
  uri : String
  attributes : List SaxesAttribute
deriving DecidableEq, Repr

/-- `tag.attributes[name]?.value`. -/
def SaxesTag.attr (tag : SaxesTag) (name : String) : Option String :=
  (tag.attributes.find? fun one => one.name = name).map (·.value)

/-- How the parse of a document ends: without an error; at an error, a doctype or a processing instruction; or at
bytes that are no UTF-8. -/
inductive SaxesOutcome where
  | complete
  | rejected
  | undecodable
deriving DecidableEq, Repr

/-- The events that the decoder and the parser report before that. -/
structure SaxesRun where
  events : List (Event SaxesTag)
  outcome : SaxesOutcome
deriving DecidableEq, Repr

/-! ### The runtime -/

/-- The third-party code, the hashes and the Unicode tables. `yauzl` is the archive that `fromBuffer` opens,
`findingsDigest` the digest of the JSON of a list of findings, `isValidPhone` whether a number parses and is valid,
`isLetter` is `\p{L}`. -/
structure WorkbookRuntime where
  yauzl : Bytes → Option ZipArchive
  saxes : Bytes → SaxesRun
  isEmail : String → Bool
  isIP : String → Bool
  isIBAN : String → Bool
  isValidPhone : String → Option String → Bool
  isLetter : Char → Bool
  toLowerCase : String → String
  sha256 : Bytes → Nat
  findingsDigest : List SafeFinding → Nat

/-! ### Buffers -/

/-- `Buffer.from(text)`. -/
def utf8 (text : String) : Bytes := text.toUTF8.toList

def readUInt16LE (buffer : Bytes) (offset : Nat) : Except WorkbookError Nat :=
  match buffer.drop offset with
  | b₀ :: b₁ :: _ => .ok (b₀.toNat + 256 * b₁.toNat)
  | _ => .error .other

def readUInt32LE (buffer : Bytes) (offset : Nat) : Except WorkbookError Nat :=
  match buffer.drop offset with
  | b₀ :: b₁ :: b₂ :: b₃ :: _ =>
      .ok (b₀.toNat + 256 * (b₁.toNat + 256 * (b₂.toNat + 256 * b₃.toNat)))
  | _ => .error .other

/-- The place of the last occurrence. -/
def lastIndexOf (needle : Bytes) : Bytes → Option Nat
  | [] => if needle.isEmpty then some 0 else none
  | byte :: rest =>
      match lastIndexOf needle rest with
      | some later => some (later + 1)
      | none => if needle.isPrefixOf (byte :: rest) then some 0 else none

/-- One bit of the reflected polynomial division. -/
def crcBit (remainder : Nat) : Nat :=
  if remainder % 2 = 1 then Nat.xor (remainder / 2) 0xEDB88320 else remainder / 2

def crcByte (remainder : Nat) (byte : UInt8) : Nat :=
  crcBit (crcBit (crcBit (crcBit (crcBit (crcBit (crcBit (crcBit (Nat.xor remainder byte.toNat))))))))

/-- `crc32(data, value)`. -/
def crc32 (data : Bytes) (value : Nat) : Nat :=
  Nat.xor (data.foldl crcByte (Nat.xor value 0xFFFFFFFF)) 0xFFFFFFFF

/-! ### Strings -/

def isDigit (c : Char) : Bool := '0' ≤ c && c ≤ '9'

/-- `/^\d+$/`. -/
def isDigits (text : String) : Bool := !text.isEmpty && text.toList.all isDigit

/-- `Number(text)` of decimal digits. -/
def digitsValue (digits : List Char) : Nat := digits.foldl (fun value c => value * 10 + (c.toNat - 48)) 0

/-- `\s`, which is also what `trim` takes away. -/
def isSpace (c : Char) : Bool :=
  ('\t' ≤ c && c ≤ '\r') || c = ' ' || c = '\u00A0' || c = '\u1680' || ('\u2000' ≤ c && c ≤ '\u200A') ||
    c = '\u2028' || c = '\u2029' || c = '\u202F' || c = '\u205F' || c = '\u3000' || c = '\uFEFF'

/-- `text.trim()` is not empty. -/
def hasText (text : String) : Bool := !text.toList.all isSpace

/-- `/^<front>\d+<back>$/`. -/
def isNumbered (front back : String) (name : String) : Bool :=
  Pattern.fullMatch
    (.seq (.literal front.toList)
      (.seq (.repeated 1 name.length (.char isDigit)) (.literal back.toList))) name.toList

/-- The segments of a path that `normalize` keeps; an absolute path has nothing above its root. -/
def normalizeSegments (absolute : Bool) : List (List Char) → List (List Char) → List (List Char)
  | kept, [] => kept.reverse
  | kept, segment :: rest =>
      if segment = [] ∨ segment = ['.'] then normalizeSegments absolute kept rest
      else if segment = ['.', '.'] then
        match kept with
        | top :: below =>
            if top = ['.', '.'] then normalizeSegments absolute (segment :: kept) rest
            else normalizeSegments absolute below rest
        | [] => if absolute then normalizeSegments absolute [] rest else normalizeSegments absolute [segment] rest
      else normalizeSegments absolute (segment :: kept) rest

/-- `posix.normalize`. -/
def normalize (path : String) : String :=
  let absolute := path.toList.head? = some '/'
  let trailing := path.toList.getLast? = some '/'
  let body := List.intercalate ['/'] (normalizeSegments absolute [] (path.toList.splitOn '/'))
  if body = [] then if absolute then "/" else if trailing && !path.isEmpty then "./" else "."
  else String.ofList ((if absolute then ['/'] else []) ++ body ++ if trailing then ['/'] else [])

/-- The path of the part that a relationship of the workbook points to. -/
def partPath (runtime : WorkbookRuntime) (target : String) : String :=
  runtime.toLowerCase (normalize (if target.toList.head? = some '/' then String.ofList target.toList.tail else "xl/" ++ target))

end DataVault.Workbook
