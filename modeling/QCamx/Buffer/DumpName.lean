import QCamx.Buffer.DumpFrame
import QCamx.Lib.Printf

/-!
# The file that `dump_frame` opens

`fname` is printed into an array of 256 characters: the type of the stream, the size and the number
of the frame, the local time to the second, and an extension for the format.

* `getStreamTypeString`, `getFileTypeString`, `dumpName`;
* `dumpText_fits`: the array is long enough;
* **`dumpName_inj`**: the name tells the type, the size and the number, whatever time it was and
  whatever the format.
-/

namespace QCamx

open CString

/-! ## The name -/

/-- `get_stream_type_string`. -/
def getStreamTypeString : StreamType → CString
  | .preview => "preview".toList
  | .video => "video".toList
  | .snapshot => "snapshot".toList
  | .rawSnapshot => "raw".toList
  | .depth => "depth".toList
  | .irbg => "irbg".toList

/-- `get_file_type_string`; a format without a name of its own is the last case. -/
def getFileTypeString : Option PixelFormat → CString
  | some .y16 => "y16".toList
  | some .raw10 | some .raw16 | some .raw12 => "raw".toList
  | some .blob => "jpg".toList
  | some .implementationDefined => "ubwc".toList
  | some .ycbcr420 | none => "yuv".toList

/-- The fields of `struct tm` that are printed. -/
structure Tm where
  tmYear : Int32
  tmMon : Int32
  tmMday : Int32
  tmHour : Int32
  tmMin : Int32
  tmSec : Int32
  deriving DecidableEq, Repr

/-- `%4d%02d%02d_%02d%02d%02d`, for a local time. -/
def printTm (t : Tm) : CString :=
  printPadded 4 (t.tmYear.toInt + 1900) ++ printZeros 2 (t.tmMon.toInt + 1) ++
    printZeros 2 t.tmMday.toInt ++
    '_' :: (printZeros 2 t.tmHour.toInt ++ printZeros 2 t.tmMin.toInt ++ printZeros 2 t.tmSec.toInt)

/-- The directory of the dumps. -/
def dumpDir : CString := "/data/misc/camera/".toList

/-- What `%s/%s_w[%d]_h[%d]_id[%d]_%4d%02d%02d_%02d%02d%02d.%s` prints for a frame. -/
def dumpText (type : StreamType) (width height : Int32) (frameNum : UInt32) (t : Tm)
    (format : Option PixelFormat) : CString :=
  dumpDir ++ '/' :: (getStreamTypeString type ++
    '_' :: 'w' :: '[' :: (printInt width.toInt ++
      ']' :: '_' :: 'h' :: '[' :: (printInt height.toInt ++
        ']' :: '_' :: 'i' :: 'd' :: '[' :: (printInt frameNum.toInt32.toInt ++
          ']' :: '_' :: (printTm t ++ '.' :: getFileTypeString format)))))

/-- `sizeof(fname)`. -/
def sizeofFname : ℕ := 256

/-- The string that `snprintf` leaves in `fname`. -/
def dumpName (type : StreamType) (width height : Int32) (frameNum : UInt32) (t : Tm)
    (format : Option PixelFormat) : CString :=
  (dumpText type width height frameNum t format).take (sizeofFname - 1)

/-- The name under which `dump_frame` writes the frame of a buffer. -/
def dumpFileName (info : BufferInfo) (frameNum : UInt32) (dumpType : StreamType)
    (subformat : Implsubformat) (t : Tm) : CString :=
  dumpName dumpType info.width info.height frameNum t (dumpFormat info.format subformat)

/-! ## The array is long enough -/

theorem length_getStreamTypeString_le (type : StreamType) :
    (getStreamTypeString type).length ≤ 8 := by
  cases type <;> decide

theorem length_getFileTypeString_le (format : Option PixelFormat) :
    (getFileTypeString format).length ≤ 4 := by
  rcases format with _ | format
  · decide
  · cases format <;> decide

theorem natAbs_toInt_lt (n : Int32) : n.toInt.natAbs < 10 ^ 10 := by
  have hle := n.le_toInt
  have hlt := n.toInt_lt
  omega

theorem length_printTm_le (t : Tm) : (printTm t).length ≤ 67 := by
  have hyear : (t.tmYear.toInt + 1900).natAbs < 10 ^ 10 := by
    have hle := t.tmYear.le_toInt
    have hlt := t.tmYear.toInt_lt
    omega
  have hmon : (t.tmMon.toInt + 1).natAbs < 10 ^ 10 := by
    have hle := t.tmMon.le_toInt
    have hlt := t.tmMon.toInt_lt
    omega
  have hfour := length_printPadded_le (show 4 ≤ 11 by decide) hyear
  have htwo : ∀ {z : ℤ}, z.natAbs < 10 ^ 10 → (printZeros 2 z).length ≤ 11 :=
    length_printZeros_le (by decide)
  have h₁ := htwo hmon
  have h₂ := htwo (natAbs_toInt_lt t.tmMday)
  have h₃ := htwo (natAbs_toInt_lt t.tmHour)
  have h₄ := htwo (natAbs_toInt_lt t.tmMin)
  have h₅ := htwo (natAbs_toInt_lt t.tmSec)
  simp only [printTm, List.length_append, List.length_cons]
  omega

section Name

variable {type type' : StreamType} {width width' height height' : Int32}
  {frameNum frameNum' : UInt32} {t t' : Tm} {format format' : Option PixelFormat}

/-- **`snprintf` cuts nothing off.** -/
theorem dumpText_fits : (dumpText type width height frameNum t format).length < sizeofFname := by
  have htype := length_getStreamTypeString_le type
  have hfile := length_getFileTypeString_le format
  have hwidth := length_printInt_le (natAbs_toInt_lt width)
  have hheight := length_printInt_le (natAbs_toInt_lt height)
  have hframe := length_printInt_le (natAbs_toInt_lt frameNum.toInt32)
  have htime := length_printTm_le t
  have hdir : dumpDir.length = 18 := by decide
  simp only [dumpText, sizeofFname, List.length_append, List.length_cons, hdir]
  omega

theorem dumpName_eq_dumpText :
    dumpName type width height frameNum t format = dumpText type width height frameNum t format :=
  List.take_of_length_le (Nat.le_sub_one_of_lt dumpText_fits)

/-! ## What the name tells -/

theorem getStreamTypeString_injective : Function.Injective getStreamTypeString := by
  intro type type' h
  cases type <;> cases type' <;> first | rfl | exact absurd h (by decide)

theorem underscore_notMem_getStreamTypeString (type : StreamType) :
    '_' ∉ getStreamTypeString type := by
  cases type <;> decide

theorem toInt_toInt32_injective : Function.Injective fun n : UInt32 => n.toInt32.toInt :=
  fun _ _ h => congrArg Int32.toUInt32 (Int32.toInt_inj.mp h)

/-- **The name tells the type, the size and the number of the frame**, whatever the time and the
format. -/
theorem dumpName_inj
    (h : dumpName type width height frameNum t format =
      dumpName type' width' height' frameNum' t' format') :
    type = type' ∧ width = width' ∧ height = height' ∧ frameNum = frameNum' := by
  have hbracket : (']').isDigit = false := by decide
  rw [dumpName_eq_dumpText, dumpName_eq_dumpText, dumpText, dumpText] at h
  have htext := (List.cons.inj (List.append_cancel_left h)).2
  -- the type ends at the first underscore, a number at its bracket
  obtain ⟨htype, hrest⟩ := (append_sep_inj (underscore_notMem_getStreamTypeString type)
    (underscore_notMem_getStreamTypeString type')).mp htext
  simp only [List.cons.injEq, true_and] at hrest
  obtain ⟨hwidth, hrest⟩ := (printInt_append_inj hbracket).mp hrest
  simp only [List.cons.injEq, true_and] at hrest
  obtain ⟨hheight, hrest⟩ := (printInt_append_inj hbracket).mp hrest
  simp only [List.cons.injEq, true_and] at hrest
  obtain ⟨hframe, -⟩ := (printInt_append_inj hbracket).mp hrest
  exact ⟨getStreamTypeString_injective htype, Int32.toInt_inj.mp hwidth, Int32.toInt_inj.mp hheight,
    toInt_toInt32_injective hframe⟩

end Name

end QCamx
