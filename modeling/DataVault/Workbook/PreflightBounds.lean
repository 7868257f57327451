/-
Module: DataVault.Workbook.PreflightBounds
Layer: Proof
Purpose: What holds of an archive whose parts the engine has read: the budgets, the declared lengths and checksums, and
  where the bytes of its entries stand.
Imports: DataVault.Workbook.ZipReader
Trusted boundary: none
Main exports: localRange, AcceptedPart, BudgetedRead, BoundedRead, Progress, preflight_bounds
-/
import DataVault.Workbook.ZipReader

namespace DataVault.Workbook

open DataVault.Control DataVault.Guard DataVault.Text

/-! ### What a bounded read is -/

/-- From the local header of an entry to the end of its data. -/
def localRange (input : Bytes) (entry : ZipEntry) : Nat × Nat :=
  let offset := entry.relativeOffsetOfLocalHeader
  (offset, offset + 30 + wordAt 2 input (offset + 26) + wordAt 2 input (offset + 28) + entry.compressedSize)

/-- Two ranges have no byte in common. -/
def Apart (first second : Nat × Nat) : Prop := first.2 ≤ second.1 ∨ second.2 ≤ first.1

/-- A part is the body of an entry, within the budgets of one entry. -/
structure AcceptedPart (limits : GuardLimits) (entry : ZipEntry) (part : String × Bytes) : Prop where
  name : part.1 = asciiLower entry.fileName
  segments : isPartName part.1 = true
  length : part.2.length = entry.uncompressedSize
  crc : crc32 part.2 0 = entry.crc32
  small : part.2.length ≤ limits.entryBytes
  ratio : part.2.length ≤ max entry.compressedSize 1 * limits.ratio

/-- The entries of an archive were read within the budgets, each under a name of its own and from bytes of its own. -/
structure BudgetedRead (limits : GuardLimits) (input : Bytes) (entries : List ZipEntry) (parts : Parts) : Prop where
  each : List.Forall₂ (AcceptedPart limits) entries parts
  distinct : (parts.map (·.1)).Nodup
  apart : (entries.map (localRange input)).Pairwise Apart
  expanded : (parts.map (·.2.length)).sum ≤ limits.expandedBytes
  count : parts.length ≤ limits.entries

/-- They were also read from the bytes before the directory, which is at `directory`. -/
structure BoundedRead (limits : GuardLimits) (input : Bytes) (directory : Nat) (entries : List ZipEntry)
    (parts : Parts) : Prop extends BudgetedRead limits input entries parts where
  ends : ∀ entry ∈ entries, (localRange input entry).2 ≤ directory
  reads : ∀ entry ∈ entries, (localRange input entry).2 ≤ input.length

/-! ### Names

Names of parts are compared without their case. On the characters that a part name may have, lowering is the ASCII
one and keeps the segments of a path apart, so the lowered name of a part that was accepted is the name of a part. -/

theorem splitOnP_map {α β : Type} (change : α → β) (stops : β → Bool) (items : List α) :
    (items.map change).splitOnP stops = (items.splitOnP (stops ∘ change)).map (List.map change) := by
  induction items with
  | nil => simp
  | cons item rest ih =>
      rw [List.map_cons, List.splitOnP_cons_eq_if_modifyHead, List.splitOnP_cons_eq_if_modifyHead, ih]
      cases rest.splitOnP (stops ∘ change) with
      | nil => by_cases stop : stops (change item) = true <;> simp [stop]
      | cons first others => by_cases stop : stops (change item) = true <;> simp [stop]

/-- A letter is lowered to a letter, and nothing else is changed. -/
theorem toLower_cases (c : Char) : c.toLower = c ∨ c.isAlpha = true ∧ c.toLower.isAlpha = true := by
  by_cases upper : 'A'.val ≤ c.val ∧ c.val ≤ 'Z'.val
  · have value : c.toLower.val = c.val + ('a'.val - 'A'.val) := congrArg Char.val (dif_pos upper)
    right
    change (decide ('A'.val ≤ c.val ∧ c.val ≤ 'Z'.val) ||
        (decide ('a'.val ≤ c.val) && decide (c.val ≤ 'z'.val))) = true ∧
      (decide ('A'.val ≤ c.toLower.val ∧ c.toLower.val ≤ 'Z'.val) ||
        (decide ('a'.val ≤ c.toLower.val) && decide (c.toLower.val ≤ 'z'.val))) = true
    rw [value]
    simp [UInt32.le_iff_toNat_le, UInt32.toNat_add] at upper ⊢
    omega
  · left
    exact dif_neg upper

/-- The characters of the name of a part. -/
def isPartChar (c : Char) : Bool :=
  c.isAlphanum || c = '_' || c = '-' || c = '.' || c = '/' || c = '[' || c = ']'

theorem isPartChar_toLower {c : Char} (allowed : isPartChar c = true) : isPartChar c.toLower = true := by
  rcases toLower_cases c with same | ⟨_, letter⟩
  · rw [same]
    exact allowed
  · simp [isPartChar, Char.isAlphanum, letter]

theorem toLower_eq_iff {c mark : Char} (symbol : mark.isAlpha = false) : c.toLower = mark ↔ c = mark := by
  rcases toLower_cases c with same | ⟨upper, lower⟩
  · rw [same]
  · constructor
    · intro lowered
      rw [lowered, symbol] at lower
      cases lower
    · intro equal
      rw [equal, symbol] at upper
      cases upper

theorem splitOn_map_toLower (name : List Char) :
    (name.map Char.toLower).splitOn '/' = (name.splitOn '/').map (List.map Char.toLower) := by
  rw [List.splitOn_eq_splitOnP, List.splitOn_eq_splitOnP, splitOnP_map]
  congr 2
  funext c
  have slash : c.toLower = '/' ↔ c = '/' := toLower_eq_iff rfl
  simp [slash]

theorem map_toLower_eq_iff {marks : List Char} (symbols : ∀ mark ∈ marks, mark.isAlpha = false) {text : List Char} :
    text.map Char.toLower = marks ↔ text = marks := by
  induction marks generalizing text with
  | nil => rw [List.map_eq_nil_iff]
  | cons mark marks ih =>
      cases text with
      | nil => simp
      | cons c text =>
          have here : c.toLower = mark ↔ c = mark := toLower_eq_iff (symbols mark (.head _))
          have there : text.map Char.toLower = marks ↔ text = marks :=
            ih fun other mem => symbols other (.tail _ mem)
          simp [here, there]

theorem isPartName_asciiLower {name : String} (allowed : isPartName name = true) :
    isPartName (asciiLower name) = true := by
  have dot : ∀ {text : List Char}, text.map Char.toLower = ['.'] ↔ text = ['.'] := map_toLower_eq_iff (by simp)
  have dots : ∀ {text : List Char}, text.map Char.toLower = ['.', '.'] ↔ text = ['.', '.'] :=
    map_toLower_eq_iff (by simp)
  simp only [isPartName, Bool.and_eq_true, List.all_eq_true, decide_eq_true_eq] at allowed ⊢
  rcases allowed with ⟨⟨filled, chars⟩, segments⟩
  rw [asciiLower, String.toList_ofList]
  constructor
  · constructor
    · simpa using filled
    · intro lowered found
      rcases List.mem_map.mp found with ⟨c, mem, rfl⟩
      exact isPartChar_toLower (chars c mem)
  · rw [splitOn_map_toLower]
    intro lowered found
    rcases List.mem_map.mp found with ⟨segment, mem, rfl⟩
    simp only [ne_eq, List.map_eq_nil_iff, dot, dots]
    exact segments segment mem

/-! ### One body -/

theorem xor_mask_mask (remainder : Nat) : Nat.xor (Nat.xor remainder 0xFFFFFFFF) 0xFFFFFFFF = remainder := by
  change remainder ^^^ 0xFFFFFFFF ^^^ 0xFFFFFFFF = remainder
  rw [Nat.xor_assoc, Nat.xor_self, Nat.xor_zero]

theorem crc32_nil (value : Nat) : crc32 [] value = value := xor_mask_mask value

theorem crc32_append (front back : Bytes) (value : Nat) :
    crc32 (front ++ back) value = crc32 back (crc32 front value) := by
  simp only [crc32, List.foldl_append, xor_mask_mask]

/-- What the loop over the chunks of a body has read, `before` bytes having been read of other bodies. -/
structure BodyRead (limits : GuardLimits) (entry : ZipEntry) (before : Nat) (chunks : List Bytes) (s : BodyState) :
    Prop where
  body : s.body = chunks.flatten
  size : s.size = s.body.length
  crc : s.crc = crc32 s.body 0
  expanded : s.expanded = before + s.body.length
  small : s.size ≤ limits.entryBytes
  bounded : s.expanded ≤ limits.expandedBytes
  ratio : s.size ≤ max entry.compressedSize 1 * limits.ratio

theorem readChunk_ok {limits : GuardLimits} {entry : ZipEntry} {before : Nat} {chunks : List Bytes} {s s' : BodyState}
    {value : Bytes} (read : BodyRead limits entry before chunks s) (step : readChunk limits entry s value = .ok s') :
    BodyRead limits entry before (chunks ++ [value]) s' := by
  simp only [readChunk, bind_ok_iff, require_ok_iff, Bool.and_eq_true, decide_eq_true_eq] at step
  rcases step with ⟨_, ⟨⟨small, bounded⟩, ratio⟩, done⟩
  cases done
  constructor
  case body => rw [read.body, List.flatten_append, List.flatten_singleton]
  case size => rw [List.length_append, read.size]
  case crc => rw [crc32_append, read.crc]
  case expanded => rw [List.length_append, read.expanded, Nat.add_assoc]
  case small => exact small
  case bounded => exact bounded
  case ratio => exact ratio

theorem readChunks_ok {limits : GuardLimits} {entry : ZipEntry} {before : Nat} {chunks : List Bytes} {s : BodyState}
    (within : before ≤ limits.expandedBytes)
    (read : chunks.foldlM (readChunk limits entry) { expanded := before } = .ok s) :
    BodyRead limits entry before chunks s := by
  have start : BodyRead limits entry before [] { expanded := before } :=
    { body := rfl
      size := rfl
      crc := (crc32_nil 0).symm
      expanded := rfl
      small := Nat.zero_le _
      bounded := within
      ratio := Nat.zero_le _ }
  exact foldlM_ok_induction (fun done value before after held step => readChunk_ok held step) start read

/-! ### One entry

An accepted entry has passed a long row of checks. They are inverted once, into what the local header says and what
the loop has read so far; the bounds of the whole archive are read off the last state of the loop. -/

/-- What an accepted local header says. -/
structure LocalHeader (input : Bytes) (central : Nat) (intervals : List (Nat × Nat)) (entry : ZipEntry) : Prop where
  room : entry.relativeOffsetOfLocalHeader + 30 ≤ input.length
  ends : (localRange input entry).2 ≤ central
  apart : ∀ interval ∈ intervals, Apart interval (localRange input entry)

theorem checkLocalHeader_ok {input : Bytes} {central : Nat} {intervals : List (Nat × Nat)} {entry : ZipEntry}
    {interval : Nat × Nat} (checked : checkLocalHeader input central intervals entry = .ok interval) :
    interval = localRange input entry ∧ LocalHeader input central intervals entry := by
  simp only [checkLocalHeader, bind_ok_iff, require_ok_iff, readUInt16LE_ok_iff, readUInt32LE_ok_iff, Bool.and_eq_true,
    decide_eq_true_eq, Bool.not_eq_true', List.any_eq_false] at checked
  rcases checked with ⟨_, room, _, _, _, _, _, _, _, _, nameLength, ⟨_, rfl⟩, extraLength, ⟨_, rfl⟩, _,
    ⟨⟨_, ends⟩, disjoint⟩, sizes⟩
  have range : interval = localRange input entry := by
    split at sizes
    · simp only [bind_ok_iff] at sizes
      rcases sizes with ⟨_, _, _, _, _, _, _, _, done⟩
      cases done
      rfl
    · cases sizes
      rfl
  refine ⟨range, room, ends, fun earlier mem => ?_⟩
  have outside := disjoint earlier mem
  simp only [Apart, localRange]
  omega

/-- What the loop over the entries has read: a part for each entry, in order and under distinct names, the ranges of
their local headers, apart from each other and before the directory, and totals within the budgets. -/
structure Progress (limits : GuardLimits) (input : Bytes) (central : Nat) (entries : List ZipEntry)
    (s : PreflightState) : Prop where
  each : List.Forall₂ (AcceptedPart limits) entries s.result
  distinct : (s.result.map (·.1)).Nodup
  intervals : s.intervals = entries.map (localRange input)
  apart : s.intervals.Pairwise Apart
  ends : ∀ interval ∈ s.intervals, interval.2 ≤ central
  expanded : s.expanded = (s.result.map (·.2.length)).sum
  bounded : s.expanded ≤ limits.expandedBytes
  count : s.count = s.result.length
  few : s.count ≤ limits.entries

theorem Parts.has_eq_false_iff {parts : Parts} {name : String} :
    parts.has name = false ↔ name ∉ parts.map (·.1) := by
  rw [Parts.has, Parts.get, Option.isSome_eq_false_iff, Option.isNone_iff_eq_none, List.lookup_eq_none_iff]
  constructor
  · intro absent mem
    rcases List.mem_map.mp mem with ⟨part, held, rfl⟩
    simpa using absent part held
  · intro absent part mem
    simp only [bne_iff_ne, ne_eq]
    rintro rfl
    exact absent (List.mem_map_of_mem mem)

theorem preflightEntry_ok {runtime : WorkbookRuntime} (lowers : LowersAscii runtime.toLowerCase) {input : Bytes}
    {limits : GuardLimits} {central : Nat} {entries : List ZipEntry} {s s' : PreflightState} {item : ZipItem}
    (progress : Progress limits input central entries s)
    (step : preflightEntry runtime input limits central s item = .ok s') :
    Progress limits input central (entries ++ [item.entry]) s' := by
  simp only [preflightEntry, bind_ok_iff, require_ok_iff, orFail_ok_iff, Bool.and_eq_true, decide_eq_true_eq,
    Bool.not_eq_true'] at step
  rcases step with ⟨_, ⟨⟨⟨few, _⟩, _⟩, _⟩, _, ⟨⟨⟨⟨⟨named, fresh⟩, _⟩, _⟩, _⟩, _⟩, interval, header, stream, _, read,
    chunks, _, _, _, ⟨size, crc⟩, done⟩
  cases done
  rcases checkLocalHeader_ok header with ⟨rfl, placed⟩
  have body := readChunks_ok progress.bounded chunks
  have lowered := lowers _ named
  rw [lowered] at fresh ⊢
  constructor
  case each =>
    have part : AcceptedPart limits item.entry (asciiLower item.entry.fileName, read.body) :=
      { name := rfl
        segments := isPartName_asciiLower named
        length := body.size.symm.trans size
        crc := body.crc.symm.trans crc
        small := body.size ▸ body.small
        ratio := body.size ▸ body.ratio }
    exact List.rel_append progress.each (.cons part .nil)
  case distinct =>
    rw [List.map_append, List.map_singleton, List.nodup_append]
    refine ⟨progress.distinct, List.nodup_singleton _, fun name earlier other here => ?_⟩
    cases List.mem_singleton.mp here
    rintro rfl
    exact Parts.has_eq_false_iff.mp fresh earlier
  case intervals => rw [progress.intervals, List.map_append, List.map_singleton]
  case apart =>
    rw [List.pairwise_append]
    refine ⟨progress.apart, List.pairwise_singleton _ _, fun interval earlier other here => ?_⟩
    cases List.mem_singleton.mp here
    exact placed.apart interval earlier
  case ends =>
    intro interval mem
    rcases List.mem_append.mp mem with earlier | here
    · exact progress.ends interval earlier
    · cases List.mem_singleton.mp here
      exact placed.ends
  case expanded => rw [body.expanded, progress.expanded, List.map_append, List.sum_append, List.map_singleton,
      List.sum_singleton]
  case bounded => exact body.bounded
  case count => rw [progress.count, List.length_append, List.length_singleton]
  case few => exact few

theorem preflightEntries_ok {runtime : WorkbookRuntime} (lowers : LowersAscii runtime.toLowerCase) {input : Bytes}
    {limits : GuardLimits} {central : Nat} {items : List ZipItem} {s : PreflightState}
    (read : items.foldlM (preflightEntry runtime input limits central) {} = .ok s) :
    Progress limits input central (items.map (·.entry)) s := by
  have start : Progress limits input central ([].map ZipItem.entry) {} :=
    { each := .nil
      distinct := .nil
      intervals := rfl
      apart := .nil
      ends := by
        intro interval mem
        cases mem
      expanded := rfl
      bounded := Nat.zero_le _
      count := rfl
      few := Nat.zero_le _ }
  refine foldlM_ok_induction (motive := fun done s => Progress limits input central (done.map ZipItem.entry) s)
    (fun done item before after progress step => ?_) start read
  rw [List.map_append, List.map_singleton]
  exact preflightEntry_ok lowers progress step

/-! ### The whole archive -/

/-- The condition: where the end record gives the ZIP64 marker in place of the offset of the directory, the bytes of
the entries end before the directory all the same. -/
def Zip64Ends (input : Bytes) (tail : Nat) (entries : List ZipEntry) : Prop :=
  offsetField input tail = zip64Marker → ∀ entry ∈ entries, (localRange input entry).2 ≤ directoryOffset input tail

/-- An archive that `preflight` accepts is read as its directory says and within the budgets. The bytes of its entries
stand before the directory exactly where `Zip64Ends`. -/
theorem preflight_bounds {runtime : WorkbookRuntime} (reports : ReportsDirectory runtime.yauzl)
    (lowers : LowersAscii runtime.toLowerCase) {input : Bytes} {limits : GuardLimits} {parts : Parts}
    (accepted : preflight runtime input limits = .ok parts) :
    ∃ tail archive, LastAt endSignature input tail ∧ tail + 22 ≤ input.length ∧
      runtime.yauzl input = some archive ∧ archive.complete = true ∧
      DirectoryWalk input (directoryOffset input tail) (archive.items.map (·.entry)) ∧
      BudgetedRead limits input (archive.items.map (·.entry)) parts ∧
      (BoundedRead limits input (directoryOffset input tail) (archive.items.map (·.entry)) parts ↔
        Zip64Ends input tail (archive.items.map (·.entry))) := by
  simp only [preflight, preflightEntries, bind_ok_iff, require_ok_iff, orFail_ok_iff, mapError_ok_iff,
    readUInt16LE_ok_iff, readUInt32LE_ok_iff, Bool.and_eq_true, decide_eq_true_eq] at accepted
  rcases accepted with ⟨_, _, tail, found, _, room, _, _, _, _, _, _, _, _, central, ⟨_, rfl⟩, _, _, _, _, archive, opened,
    result, ⟨s, read, _, complete, done⟩, _, _, same⟩
  cases done
  cases same
  have found := (lastIndexOf_eq_some_iff (by decide)).mp found
  have walk := reports input archive tail opened found room
  have progress := preflightEntries_ok lowers read
  have budgeted : BudgetedRead limits input (archive.items.map (·.entry)) s.result :=
    { each := progress.each
      distinct := progress.distinct
      apart := progress.intervals ▸ progress.apart
      expanded := progress.expanded ▸ progress.bounded
      count := progress.count ▸ progress.few }
  refine ⟨tail, archive, found, room, opened, complete, walk, budgeted, fun bounded _ => bounded.ends,
    fun condition => ?_⟩
  have ends : ∀ entry ∈ archive.items.map (·.entry), (localRange input entry).2 ≤ directoryOffset input tail := by
    by_cases marker : offsetField input tail = zip64Marker
    · exact condition marker
    · intro entry mem
      rw [directoryOffset, if_neg marker]
      apply progress.ends
      rw [progress.intervals]
      exact List.mem_map_of_mem mem
  exact
    { toBudgetedRead := budgeted
      ends := ends
      reads := fun entry mem => (ends entry mem).trans (by have := walk.room mem; omega) }

/-! ### Archives with the directory behind and before the entries -/

def smallParts : List (String × String) :=
  [("[Content_Types].xml", "a"), ("xl/workbook.xml", "bc"), ("xl/_rels/workbook.xml.rels", "d")]

/-- What is read of them. -/
def smallRead : Parts := smallParts.map fun part => (asciiLower part.1, utf8 part.2)

def smallArchive : Bytes := ((writeXlsx smallParts 1000).toOption).getD []

/-- An archive as the writer makes it is read within bounds. -/
theorem preflight_bounds_written : ∃ tail archive, LastAt endSignature smallArchive tail ∧
    tail + 22 ≤ smallArchive.length ∧ archiveRuntime.yauzl smallArchive = some archive ∧ archive.complete = true ∧
    DirectoryWalk smallArchive (directoryOffset smallArchive tail) (archive.items.map (·.entry)) ∧
    BudgetedRead {} smallArchive (archive.items.map (·.entry)) smallRead ∧
    (BoundedRead {} smallArchive (directoryOffset smallArchive tail) (archive.items.map (·.entry)) smallRead ↔
      Zip64Ends smallArchive tail (archive.items.map (·.entry))) :=
  preflight_bounds storedReader_reports asciiLower_lowers (by decide +kernel)

/-- The length of the directory of `smallParts`. -/
def smallDirectory : Nat := 3 * 46 + 19 + 15 + 26

/-- The same parts behind their directory, which a ZIP64 end record places at the start. -/
def zip64Archive : Bytes :=
  let written := (smallParts.foldlM (writePart 1000) { locals := List.replicate smallDirectory 0 }).toOption.getD {}
  let place := written.locals.length
  written.central ++ written.locals.drop smallDirectory ++
    [0x50, 0x4b, 6, 6, 44] ++ List.replicate 7 0 ++ [45, 0, 45, 0] ++ List.replicate 8 0 ++ [3] ++ List.replicate 7 0 ++
    [3] ++ List.replicate 7 0 ++ [.ofNat smallDirectory] ++ List.replicate 15 0 ++
    [0x50, 0x4b, 6, 7] ++ List.replicate 4 0 ++ [.ofNat place, .ofNat (place / 256)] ++ List.replicate 6 0 ++
    [1, 0, 0, 0] ++
    [0x50, 0x4b, 5, 6] ++ List.replicate 4 0 ++ [3, 0, 3, 0] ++ List.replicate 4 0 ++ [0xff, 0xff, 0xff, 0xff, 0, 0]

/-- The archive is accepted, and its entries stand behind the offset that its directory was read at. -/
theorem preflight_bounds_zip64 :
    preflight archiveRuntime zip64Archive {} = .ok smallRead ∧
      ∀ tail archive, LastAt endSignature zip64Archive tail → archiveRuntime.yauzl zip64Archive = some archive →
        ¬BoundedRead {} zip64Archive (directoryOffset zip64Archive tail) (archive.items.map (·.entry)) smallRead := by
  constructor
  · decide +kernel
  · intro tail archive found opened bounded
    have last : lastIndexOf endSignature zip64Archive = some 428 := by decide +kernel
    have place : LastAt endSignature zip64Archive 428 := (lastIndexOf_eq_some_iff (by decide)).mp last
    have same : 428 = tail := place.unique found
    subst same
    have directory : directoryOffset zip64Archive 428 = 0 := by decide +kernel
    have entries : ((archiveRuntime.yauzl zip64Archive).map fun read => read.items.map fun item =>
        (localRange zip64Archive item.entry).2) = some [248, 295, 352] := by decide +kernel
    rw [opened, Option.map_some, Option.some.injEq] at entries
    have mem : 248 ∈ archive.items.map fun item => (localRange zip64Archive item.entry).2 := by
      rw [entries]
      exact .head _
    rcases List.mem_map.mp mem with ⟨item, held, stop⟩
    have ends := bounded.ends item.entry (List.mem_map_of_mem held)
    rw [stop, directory] at ends
    cases ends

end DataVault.Workbook
