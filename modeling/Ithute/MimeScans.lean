import Ithute.Library.Substrings
import Ithute.PythonValues

/-!
# Scans of a raw message

The native accelerator counts structural marks of a raw MIME message, and the
backend has a scan of its own for where the accelerator is not installed.
-/

namespace Ithute

open Substrings

namespace MimeScans

structure MimeScan where
  bytes : ℕ
  headerBytes : ℕ
  bodyBytes : ℕ
  lines : ℕ
  crlfLines : ℕ
  nonAscii : ℕ
  nulBytes : ℕ
  boundaryMarkers : ℕ
  attachmentSignals : ℕ
  deriving DecidableEq

def literal (text : String) : Bytes := text.toList.map fun character => byte character.toNat

def carriageReturn : Byte := byte 0x0D

def lineFeed : Byte := byte 0x0A

def isAscii (value : Byte) : Bool := decide (value < byte 0x80)

def asciiLowerByte (value : Byte) : Byte :=
  if byte 0x41 ≤ value ∧ value ≤ byte 0x5A then value + 32 else value

def containsAsciiCaseInsensitive (haystack needle : Bytes) : Bool :=
  if needle = [] then true
  else if haystack.length < needle.length then false
  else
    (windows needle.length haystack).any fun window =>
      (window.zip needle).all fun pair => asciiLowerByte pair.1 = asciiLowerByte pair.2

/-- The index after a separator, and the length of the separator. -/
def nativePosition (separator bytes : Bytes) : Option (ℕ × ℕ) :=
  if separator.length ≤ bytes.length then
    ((windows separator.length bytes).findIdx? fun window => decide (window = separator)).map
      fun index => (index + separator.length, separator.length)
  else none

def nativeSplit (bytes : Bytes) : Option (ℕ × ℕ) :=
  match nativePosition [carriageReturn, lineFeed, carriageReturn, lineFeed] bytes with
  | some split => some split
  | none => nativePosition [lineFeed, lineFeed] bytes

/-- Whether a line is a boundary marker, after its leading carriage returns. -/
def nativeMarker (line : Bytes) : Bool :=
  let trimmed :=
    match line.findIdx? fun value => decide (value ≠ carriageReturn) with
    | some index => line.drop index
    | none => []
  (literal "--").isPrefixOf trimmed

/-- `mime_scan` of the native library. -/
def nativeMimeScan (bytes : Bytes) : MimeScan :=
  let headerBytes := ((nativeSplit bytes).map Prod.fst).getD bytes.length
  { bytes := bytes.length
    headerBytes := headerBytes
    bodyBytes := bytes.length - headerBytes
    lines := if bytes = [] then 0 else bytes.countP (fun value => decide (value = lineFeed)) + 1
    crlfLines := (windows 2 bytes).countP fun window =>
      decide (window = [carriageReturn, lineFeed])
    nonAscii := bytes.countP fun value => ! isAscii value
    nulBytes := bytes.countP fun value => decide (value = 0)
    boundaryMarkers := (bytes.splitOn lineFeed).countP nativeMarker
    attachmentSignals := if containsAsciiCaseInsensitive bytes (literal "content-disposition") ||
        containsAsciiCaseInsensitive bytes (literal "filename") ||
        containsAsciiCaseInsensitive bytes (literal "name") then 1 else 0 }

/-- `data.lower()` -/
def lower (data : Bytes) : Bytes := data.map asciiLowerByte

def pythonSplit (data : Bytes) : Option ℕ × ℕ :=
  match find? [carriageReturn, lineFeed, carriageReturn, lineFeed] data with
  | some splitAt => (some splitAt, 4)
  | none => (find? [lineFeed, lineFeed] data, 2)

def pythonMarker (line : Bytes) : Bool :=
  (literal "--").isPrefixOf (line.dropWhile fun value => decide (value = carriageReturn))

def pythonMimeScan (data : Bytes) : MimeScan :=
  let (splitAt, separator) := pythonSplit data
  let headerBytes :=
    match splitAt with
    | none => data.length
    | some splitAt => splitAt + separator
  let lower := lower data
  let attachmentSignals := if (find? (literal "content-disposition") lower).isSome ||
      (find? (literal "filename") lower).isSome || (find? (literal "name") lower).isSome then 1
    else 0
  { bytes := data.length
    headerBytes := headerBytes
    bodyBytes := data.length - headerBytes
    lines := if data = [] then 0 else count [lineFeed] data + 1
    crlfLines := count [carriageReturn, lineFeed] data
    nonAscii := (data.filter fun value => decide (byte 0x80 ≤ value)).length
    nulBytes := count [0] data
    boundaryMarkers := ((data.splitOn lineFeed).filter pythonMarker).length
    attachmentSignals := attachmentSignals }

variable {bytes : Bytes}

theorem windows_one (value : Byte) :
    (windows 1 bytes).countP (fun window => decide (window = [value])) =
    bytes.countP fun other => decide (other = value) := by
  induction bytes with
  | nil => rfl
  | cons head rest ih =>
    rw [windows, if_pos (Nat.le_add_left 1 rest.length), List.countP_cons, List.countP_cons, ih]
    simp

theorem count_single (value : Byte) :
    count [value] bytes = bytes.countP fun other => decide (other = value) := by
  rw [count_eq_countP _ (List.cons_ne_nil _ _)]
  · exact windows_one value
  · intro shift positive within
    rw [List.length_singleton] at within
    omega

theorem count_crlf : count [carriageReturn, lineFeed] bytes =
    (windows 2 bytes).countP fun window => decide (window = [carriageReturn, lineFeed]) := by
  apply count_eq_countP _ (List.cons_ne_nil _ _)
  intro shift positive within
  obtain rfl : shift = 1 := by
    simp only [List.length_cons, List.length_nil] at within
    omega
  decide

theorem nativePosition_eq {separator : Bytes} (nonempty : separator ≠ []) :
    nativePosition separator bytes =
      (find? separator bytes).map fun index => (index + separator.length, separator.length) := by
  unfold nativePosition
  split
  · rw [findIdx?_windows nonempty]
  · rename_i short
    rw [find?_of_short (by omega)]
    rfl

theorem headerBytes_eq :
    (nativeMimeScan bytes).headerBytes = (pythonMimeScan bytes).headerBytes := by
  simp only [nativeMimeScan, nativeSplit, pythonMimeScan, pythonSplit]
  rw [nativePosition_eq (List.cons_ne_nil _ _), nativePosition_eq (List.cons_ne_nil _ _)]
  cases find? [carriageReturn, lineFeed, carriageReturn, lineFeed] bytes with
  | some index => rfl
  | none => cases find? [lineFeed, lineFeed] bytes <;> rfl

/-- The first byte that is no carriage return begins what `lstrip` leaves. -/
theorem nativeMarker_eq (line : Bytes) : nativeMarker line = pythonMarker line := by
  have trimmed : (match line.findIdx? fun value => decide (value ≠ carriageReturn) with
      | some index => line.drop index
      | none => []) = line.dropWhile fun value => decide (value = carriageReturn) := by
    induction line with
    | nil => rfl
    | cons head rest ih =>
      rw [List.findIdx?_cons, List.dropWhile_cons]
      by_cases strips : head = carriageReturn
      · rw [if_neg (by simpa using strips), if_pos (by simpa using strips), ← ih]
        cases rest.findIdx? fun value => decide (value ≠ carriageReturn) <;> rfl
      · rw [if_pos (by simpa using strips), if_neg (by simpa using strips)]
        rfl
  rw [nativeMarker, pythonMarker, trimmed]

theorem all_zip_lower {window needle : Bytes} (sameLength : window.length = needle.length) :
    ((window.zip needle).all fun pair => asciiLowerByte pair.1 = asciiLowerByte pair.2) = true ↔
      lower window = lower needle := by
  induction window generalizing needle with
  | nil =>
    rw [List.length_nil, eq_comm, List.length_eq_zero_iff] at sameLength
    rw [sameLength]
    exact iff_of_true rfl rfl
  | cons head rest ih =>
    cases needle with
    | nil => cases sameLength
    | cons first others =>
      rw [List.zip_cons_cons, List.all_cons, Bool.and_eq_true, ih (Nat.succ.inj sameLength)]
      simp [lower]

/-- The search that ignores case is a search of the lower text for the lower
pattern. -/
theorem contains_eq {needle : Bytes} (nonempty : needle ≠ []) (isLower : lower needle = needle) :
    containsAsciiCaseInsensitive bytes needle = (find? needle (lower bytes)).isSome := by
  rw [containsAsciiCaseInsensitive, if_neg nonempty]
  split
  · rename_i short
    rw [find?_of_short]
    · rfl
    · rw [lower, List.length_map]
      exact short
  · rw [← any_windows nonempty, lower, windows_map, List.any_map, Bool.eq_iff_iff,
      List.any_eq_true, List.any_eq_true]
    apply exists_congr
    intro window
    rw [and_congr_right_iff]
    intro member
    rw [all_zip_lower (length_of_mem_windows member), isLower]
    exact decide_eq_true_iff.symm

/-- The accelerator and the backend count alike in every message. -/
theorem nativeMimeScan_eq (bytes : Bytes) : nativeMimeScan bytes = pythonMimeScan bytes := by
  have header := @headerBytes_eq bytes
  have disposition := @contains_eq bytes (literal "content-disposition") (by decide) (by decide)
  have filename := @contains_eq bytes (literal "filename") (by decide) (by decide)
  have name := @contains_eq bytes (literal "name") (by decide) (by decide)
  have markers : (bytes.splitOn lineFeed).countP nativeMarker =
      ((bytes.splitOn lineFeed).filter pythonMarker).length := by
    rw [← List.countP_eq_length_filter]
    exact List.countP_congr fun line _ => by rw [nativeMarker_eq]
  have beyond : bytes.countP (fun value => ! isAscii value) =
      (bytes.filter fun value => decide (byte 0x80 ≤ value)).length := by
    rw [← List.countP_eq_length_filter]
    exact List.countP_congr fun value _ => by simp [isAscii]
  have body : bytes.length - (nativeMimeScan bytes).headerBytes =
      bytes.length - (pythonMimeScan bytes).headerBytes := by rw [header]
  simp only [nativeMimeScan, pythonMimeScan] at header body
  simp only [nativeMimeScan, pythonMimeScan, MimeScan.mk.injEq]
  refine ⟨True.intro, header, body, ?_, count_crlf.symm, beyond, (count_single 0).symm, markers, ?_⟩
  · rw [count_single]
  · rw [disposition, filename, name]

/-- The header ends after the blank line, and the body has a marker. -/
example : nativeMimeScan (literal "N: a\r\n\r\n--b") = ⟨11, 8, 3, 3, 2, 0, 0, 1, 0⟩ := by decide

end MimeScans

end Ithute
