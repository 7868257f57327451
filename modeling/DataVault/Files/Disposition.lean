/-
Module: DataVault.Files.Disposition
Layer: Proofs
Purpose: The header that a download is sent with (`contentDisposition` of files/file-validation.ts), and what it has to
  be: visible ASCII, a quoted name that cannot be left, and an extended parameter that gives the name back.
Imports: DataVault.Files.Validation, DataVault.Text.Percent
Trusted boundary: human-reviewed spec
Main exports: contentDisposition, SafeDisposition, content_disposition
-/
import DataVault.Files.Validation
import DataVault.Text.Percent

namespace DataVault.Files

open DataVault.Text.Percent DataVault.Text.Utf8

/-! ### The header -/

/-- `[\x20-\x7e]` -/
def isVisible (c : Char) : Bool := 0x20 ≤ c.toNat && c.toNat ≤ 0x7E

/-- `filename.replace(/[^\x20-\x7e]/g, '_').replace(/["\\]/g, '_')`, which replaces UTF-16 units. -/
def dispositionFallback (filename : List Char) : List Char :=
  let ascii := filename.flatMap fun c => if isVisible c then [c] else List.replicate (utf16Length [c]) '_'
  ascii.map fun c => if c = '"' || c = '\\' then '_' else c

/-- What `encodeURIComponent` leaves as it is. -/
def uriUnreserved (c : Char) : Bool := c.isAlphanum || "-_.!~*'()".toList.contains c

/-- `encodeURIComponent` -/
def encodeURIComponent (text : List Char) : List Char :=
  text.flatMap fun c => if uriUnreserved c then [c] else percentEncode (String.utf8EncodeChar c)

/-- `['()]` -/
def isMark (c : Char) : Bool := c = '\x27' || c = '(' || c = ')'

/-- `encodeURIComponent(filename).replace(/['()]/g, …)` -/
def encodeFilename (filename : List Char) : List Char :=
  (encodeURIComponent filename).flatMap fun c => if isMark c then encodeByte (.ofNat c.toNat) else [c]

/-- What stands in front of the quoted name. -/
def attachmentName : List Char := "attachment; filename=\"".toList

/-- What stands between the quoted name and the extended value, the closing quote first. -/
def extendedName : List Char := "\"; filename*=UTF-8''".toList

def contentDisposition (filename : String) : String :=
  String.ofList (attachmentName ++ dispositionFallback filename.toList ++ extendedName ++
    encodeFilename filename.toList)

/-! ### Its purpose -/

/-- A header that names a file and nothing else: visible characters, an ASCII name that its quotation marks enclose, and
an extended parameter whose octets decode to the name. -/
structure SafeDisposition (filename header : String) : Prop where
  visible : ∀ c ∈ header.toList, isVisible c
  parts : ∃ quoted value,
    header.toList = attachmentName ++ quoted ++ extendedName ++ value ∧
      '"' ∉ quoted ∧ '\\' ∉ quoted ∧ ValueChars value ∧
      StringDecoder.write [] (percentDecode value) = (filename.toList, [])

/-! ### The quoted name -/

theorem fallback_char {filename : List Char} {c : Char} (mem : c ∈ dispositionFallback filename) :
    isVisible c ∧ c ≠ '"' ∧ c ≠ '\\' := by
  unfold dispositionFallback at mem
  rcases List.mem_map.mp mem with ⟨ascii, there, rfl⟩
  rcases List.mem_flatMap.mp there with ⟨original, _, kept⟩
  have visible : isVisible ascii := by
    split at kept
    case isTrue shown =>
      rw [List.mem_singleton.mp kept]
      exact shown
    case isFalse =>
      rw [List.eq_of_mem_replicate kept]
      decide
  split
  case isTrue => decide
  case isFalse plain =>
    simp only [Bool.or_eq_true, decide_eq_true_eq, not_or] at plain
    exact ⟨visible, plain.1, plain.2⟩

/-! ### The extended parameter -/

/-- What one character of the name becomes. -/
def encodeCharacter (c : Char) : List Char :=
  if uriUnreserved c && !isMark c then [c] else percentEncode (String.utf8EncodeChar c)

theorem encodeByte_plain (byte : UInt8) : ∀ c ∈ encodeByte byte, isMark c = false := by
  have digits : ∀ value < 16, isMark (hexDigit value) = false := by decide
  have bound := byte.toNat_lt
  intro c mem
  simp only [encodeByte, List.mem_cons, List.not_mem_nil, or_false] at mem
  rcases mem with rfl | rfl | rfl
  · decide
  · exact digits _ (by omega)
  · exact digits _ (Nat.mod_lt _ (by decide))

/-- Where no mark stands, the second replacement changes nothing. -/
theorem replaceMarks_eq {text : List Char} (plain : ∀ c ∈ text, isMark c = false) :
    (text.flatMap fun c => if isMark c then encodeByte (.ofNat c.toNat) else [c]) = text := by
  induction text with
  | nil => rfl
  | cons c rest ih =>
      rw [List.flatMap_cons, plain c List.mem_cons_self, ih fun other mem => plain other (List.mem_cons_of_mem _ mem)]
      rfl

/-- A mark is encoded as `encodeURIComponent` would have encoded it. -/
theorem encodeByte_mark {c : Char} (mark : isMark c = true) :
    uriUnreserved c = true ∧ encodeByte (.ofNat c.toNat) = percentEncode (String.utf8EncodeChar c) := by
  simp only [isMark, Bool.or_eq_true, decide_eq_true_eq] at mark
  rcases mark with (rfl | rfl) | rfl <;> decide

theorem encodeFilename_eq (filename : List Char) : encodeFilename filename = filename.flatMap encodeCharacter := by
  unfold encodeFilename encodeURIComponent
  rw [List.flatMap_assoc]
  congr 1
  funext c
  unfold encodeCharacter
  cases mark : isMark c with
  | true =>
      rcases encodeByte_mark mark with ⟨unreserved, encoded⟩
      simp [unreserved, mark, encoded]
  | false =>
      cases unreserved : uriUnreserved c with
      | true => simp [mark]
      | false =>
          have plain : ∀ other ∈ percentEncode (String.utf8EncodeChar c), isMark other = false := by
            intro other mem
            rcases List.mem_flatMap.mp mem with ⟨byte, _, there⟩
            exact encodeByte_plain byte other there
          simpa using replaceMarks_eq plain

/-- Letters and digits have the codes of ASCII. -/
theorem alphanumeric_range {c : Char} (alphanumeric : c.isAlphanum = true) :
    (65 ≤ c.toNat ∧ c.toNat ≤ 90) ∨ (97 ≤ c.toNat ∧ c.toNat ≤ 122) ∨ (48 ≤ c.toNat ∧ c.toNat ≤ 57) := by
  change (decide ('A'.val ≤ c.val ∧ c.val ≤ 'Z'.val) || (decide ('a'.val ≤ c.val) && decide (c.val ≤ 'z'.val)) ||
    (decide ('0'.val ≤ c.val) && decide (c.val ≤ '9'.val))) = true at alphanumeric
  simp only [Bool.or_eq_true, Bool.and_eq_true, decide_eq_true_eq, UInt32.le_iff_toNat_le] at alphanumeric
  have same : c.val.toNat = c.toNat := rfl
  simp at alphanumeric
  omega

/-- A character that is left as it is is one byte, and no percent sign. -/
theorem unreserved_ascii {c : Char} (unreserved : uriUnreserved c = true) :
    c ≠ '%' ∧ String.utf8EncodeChar c = [.ofNat c.toNat] := by
  constructor
  · rintro rfl
    exact absurd unreserved (by decide)
  · have ascii : c.toNat < 128 := by
      simp only [uriUnreserved, Bool.or_eq_true, List.contains_iff_mem] at unreserved
      rcases unreserved with alphanumeric | mark
      · have range := alphanumeric_range alphanumeric
        omega
      · have marks : ("-_.!~*'()".toList.all fun other => other.toNat < 128) = true := by decide
        exact of_decide_eq_true (List.all_eq_true.mp marks c mark)
    unfold String.utf8EncodeChar
    dsimp only
    rw [if_pos (show c.val.toNat ≤ 127 from by
      have same : c.val.toNat = c.toNat := rfl
      omega)]
    rfl

theorem percentDecode_encodeCharacter (c : Char) (rest : List Char) :
    percentDecode (encodeCharacter c ++ rest) = String.utf8EncodeChar c ++ percentDecode rest := by
  unfold encodeCharacter
  split
  case isTrue kept =>
    simp only [Bool.and_eq_true] at kept
    rcases unreserved_ascii kept.1 with ⟨plain, ascii⟩
    rw [ascii]
    exact percentDecode_cons plain rest
  case isFalse => exact percentDecode_encode _ rest

theorem percentDecode_encodeFilename (filename : List Char) :
    percentDecode (encodeFilename filename) = encode filename := by
  rw [encodeFilename_eq]
  induction filename with
  | nil => rfl
  | cons c rest ih => rw [List.flatMap_cons, percentDecode_encodeCharacter, ih, encode, encode, List.flatMap_cons]

/-- The characters that the parameter is allowed besides those that `encodeURIComponent` keeps: all but the star. -/
theorem attrChar_kept {c : Char} (kept : (uriUnreserved c && !isMark c) = true) (star : c ≠ '*') :
    attrChar c = true := by
  simp only [Bool.and_eq_true, Bool.not_eq_true', uriUnreserved, Bool.or_eq_true, List.contains_iff_mem] at kept
  rcases kept with ⟨alphanumeric | mark, plain⟩
  · simp [attrChar, alphanumeric]
  · have marks : ("-_.!~*'()".toList.all fun other => isMark other || other = '*' || attrChar other) = true := by decide
    have one := List.all_eq_true.mp marks c mark
    simpa [plain, star] using one

theorem valueChars_encodeFilename {filename : List Char} (star : '*' ∉ filename) :
    ValueChars (encodeFilename filename) := by
  rw [encodeFilename_eq]
  induction filename with
  | nil => exact .nil
  | cons c rest ih =>
      rw [List.mem_cons, not_or] at star
      rw [List.flatMap_cons]
      apply ValueChars.append _ (ih star.2)
      unfold encodeCharacter
      split
      case isTrue kept => exact .attr (attrChar_kept kept fun same => star.1 same.symm) .nil
      case isFalse => exact valueChars_encode _

/-- A star stays a star. -/
theorem star_encodeFilename {filename : List Char} (star : '*' ∈ filename) : '*' ∈ encodeFilename filename := by
  rw [encodeFilename_eq]
  apply List.mem_flatMap.mpr
  exact ⟨'*', star, by decide⟩

theorem visible_encodeByte (byte : UInt8) : ∀ c ∈ encodeByte byte, isVisible c = true := by
  have digits : ∀ value < 16, isVisible (hexDigit value) = true := by decide
  have bound := byte.toNat_lt
  intro c mem
  simp only [encodeByte, List.mem_cons, List.not_mem_nil, or_false] at mem
  rcases mem with rfl | rfl | rfl
  · decide
  · exact digits _ (by omega)
  · exact digits _ (Nat.mod_lt _ (by decide))

theorem visible_unreserved {c : Char} (unreserved : uriUnreserved c = true) : isVisible c = true := by
  simp only [uriUnreserved, Bool.or_eq_true, List.contains_iff_mem] at unreserved
  rcases unreserved with alphanumeric | mark
  · have range := alphanumeric_range alphanumeric
    simp only [isVisible, Bool.and_eq_true, decide_eq_true_eq]
    omega
  · have marks : "-_.!~*'()".toList.all isVisible = true := by decide
    exact List.all_eq_true.mp marks c mark

theorem visible_encodeFilename (filename : List Char) : ∀ c ∈ encodeFilename filename, isVisible c = true := by
  rw [encodeFilename_eq]
  intro c mem
  rcases List.mem_flatMap.mp mem with ⟨original, _, there⟩
  unfold encodeCharacter at there
  split at there
  case isTrue kept =>
    rw [List.mem_singleton.mp there]
    exact visible_unreserved (by simpa using (Bool.and_eq_true_iff.mp kept).1)
  case isFalse =>
    rcases List.mem_flatMap.mp there with ⟨byte, _, digit⟩
    exact visible_encodeByte byte c digit

/-! ### The whole header -/

theorem contentDisposition_toList (filename : String) :
    (contentDisposition filename).toList =
      attachmentName ++ dispositionFallback filename.toList ++ extendedName ++ encodeFilename filename.toList := by
  rw [contentDisposition, String.toList_ofList]

theorem contentDisposition_visible (filename : String) :
    ∀ c ∈ (contentDisposition filename).toList, isVisible c = true := by
  have first : ∀ c ∈ attachmentName, isVisible c = true := List.all_eq_true.mp (by decide)
  have second : ∀ c ∈ extendedName, isVisible c = true := List.all_eq_true.mp (by decide)
  intro c mem
  rw [contentDisposition_toList] at mem
  simp only [List.mem_append] at mem
  rcases mem with ((start | quoted) | middle) | value
  · exact first c start
  · exact (fallback_char quoted).1
  · exact second c middle
  · exact visible_encodeFilename _ c value

theorem fallback_closed (filename : List Char) : '"' ∉ dispositionFallback filename := by
  intro mem
  exact (fallback_char mem).2.1 rfl

theorem fallback_unescaped (filename : List Char) : '\\' ∉ dispositionFallback filename := by
  intro mem
  exact (fallback_char mem).2.2 rfl

/-- Two texts that go on after their first `stop` go on alike. -/
theorem behind_first {stop : Char} {first second one two : List Char} (closed : stop ∉ first)
    (closed' : stop ∉ second) (same : first ++ stop :: one = second ++ stop :: two) : one = two := by
  induction first generalizing second with
  | nil =>
      cases second with
      | nil => exact (List.cons.inj same).2
      | cons c rest => exact absurd (List.cons.inj same).1 fun here => closed' (by simp [here])
  | cons c rest ih =>
      cases second with
      | nil => exact absurd (List.cons.inj same).1.symm fun here => closed (by simp [here])
      | cons c' rest' =>
          rw [List.mem_cons, not_or] at closed closed'
          exact ih closed.2 closed'.2 (List.cons.inj same).2

/-- The quoted name ends at the first quote, so the header has one reading. -/
theorem parts_unique {filename : String} {quoted value : List Char}
    (same : (contentDisposition filename).toList = attachmentName ++ quoted ++ extendedName ++ value)
    (closed : '"' ∉ quoted) : value = encodeFilename filename.toList := by
  have shape : extendedName = '"' :: extendedName.tail := by decide
  rw [contentDisposition_toList, shape] at same
  simp only [List.append_assoc, List.cons_append] at same
  have inner := List.append_cancel_left same
  have behind := behind_first (fallback_closed filename.toList) closed inner
  exact (List.append_cancel_left behind).symm

/-- The header names the file and nothing else where the name has no star: that one character is neither allowed in
the extended parameter nor encoded. -/
theorem content_disposition (filename : String) :
    SafeDisposition filename (contentDisposition filename) ↔ '*' ∉ filename.toList := by
  constructor
  · intro safe star
    rcases safe.parts with ⟨quoted, value, same, closed, _, chars, _⟩
    rw [parts_unique same closed] at chars
    exact chars.absent (by decide) (by decide) (by decide) (star_encodeFilename star)
  · intro star
    constructor
    case visible => exact contentDisposition_visible filename
    case parts =>
      have decoded : StringDecoder.write [] (percentDecode (encodeFilename filename.toList)) =
          (filename.toList, []) := by
        rw [percentDecode_encodeFilename]
        exact StringDecoder.write_encode filename.toList
      exact ⟨dispositionFallback filename.toList, encodeFilename filename.toList, contentDisposition_toList filename,
        fallback_closed _, fallback_unescaped _, valueChars_encodeFilename star, decoded⟩

/-- A platform on which every text is normalized already. -/
def plainRuntime : FileRuntime :=
  { normalizeNFC := id
    toLowerCase := id
    toString := fun _ => ""
    decodeUtf8 := fun _ => none }

/-- A name with a star is accepted, and its header is not what it should be. -/
theorem content_disposition_star :
    ¬ ∀ (runtime : FileRuntime) (input filename : String), safeFilename runtime input = .ok filename →
      SafeDisposition filename (contentDisposition filename) := by
  intro claim
  have accepted : safeFilename plainRuntime "a*.csv" = .ok "a*.csv" := by decide +kernel
  have safe := claim plainRuntime "a*.csv" "a*.csv" accepted
  rcases safe.parts with ⟨quoted, value, same, closed, _, chars, _⟩
  rw [parts_unique same closed] at chars
  exact chars.absent (by decide) (by decide) (by decide) (star_encodeFilename (by decide))

end DataVault.Files
