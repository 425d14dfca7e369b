import LiveShader.Gpu.Recorder
import LiveShader.Proofs.Image.Readback

/-!
# Captures reproduce what was drawn

A capture copies what was drawn into a buffer whose rows are padded, and makes an image of the
bytes that the device hands back.  Whatever these bytes are, if they fill the buffer, every
point of the image is the point of the buffer at its row and column, with red in front, and no
byte of the padding matters.
-/

namespace LiveShader.Gpu

open LiveShader.Image

/-! ## Lengths of rows -/

/-- The length of a row with its padding, in 32-bit words. -/
def paddedRow (width : UInt32) : UInt32 :=
  let row := width * 4
  if row % 256 = 0 then row else row + (256 - row % 256)

/-- What a row is short of a multiple of 256, in 32-bit words. -/
theorem toNat_missing (row : UInt32) : (256 - row % 256).toNat = 256 - row.toNat % 256 := by
  have rest : (row % 256).toNat = row.toNat % 256 := UInt32.toNat_mod row 256
  rw [UInt32.toNat_sub_of_le, rest]
  · rfl
  · rw [UInt32.le_iff_toNat_le, rest]
    exact Nat.le_of_lt (Nat.mod_lt _ (by decide))

/-- If the padded row fits into 32 bits, no step of its computation leaves them. -/
theorem toNat_paddedRow {width : UInt32}
    (fits : Number.nextMultiple (4 * width.toNat) 256 < 4294967296) :
    (paddedRow width).toNat = paddedRowBytes width.toNat := by
  have below := Number.le_nextMultiple (4 * width.toNat) (by decide : 0 < 256)
  have row : (width * 4).toNat = 4 * width.toNat := by
    rw [UInt32.toNat_mul, Nat.mul_comm]
    exact Nat.mod_eq_of_lt (Nat.lt_of_le_of_lt below fits)
  have whole : width * 4 % 256 = 0 ↔ 4 * width.toNat % 256 = 0 := by
    rw [← UInt32.toNat_inj, UInt32.toNat_mod, row]
    rfl
  rw [Number.nextMultiple] at fits
  rw [paddedRowBytes, rowBytes, rowUnit, Number.nextMultiple, paddedRow]
  split
  · rename_i multiple
    have nothing := whole.mp multiple
    rw [row]
    omega
  · rename_i uneven
    have something := mt whole.mpr uneven
    rw [UInt32.toNat_add, toNat_missing, row]
    omega

namespace Recorder

/-! ## From the buffer to the image -/

/-- What a capture returns, by the format of the surface and the bytes that are handed back. -/
def captureOf (size : Size) (format : Format) (handed : Except String (Array UInt8)) :
    Except Device.FrameError Image :=
  match format.channelOrder? with
  | none => .error (.capture ("unsupported surface format " ++ format.name))
  | some order => (handed.bind (imageOf size order)).mapError .capture

theorem fst_takeReadFault (device : Recorder) :
    device.takeReadFault.1 = device.readFaults.headD none := by
  rw [takeReadFault]
  cases device.readFaults <;> rfl

theorem readFaults_recordAll (device : Recorder) (commands : List Command) :
    (device.recordAll commands).readFaults = device.readFaults := by
  induction commands generalizing device with
  | nil => rfl
  | cons command rest ih => exact ih (device.record command)

/-- What goes wrong with a read-back is queued before the capture. -/
theorem readFaults_recordCapture (device : Recorder) :
    device.recordCapture.readFaults = device.readFaults := by
  rw [recordCapture]
  exact readFaults_recordAll _ _

/-- The result of a capture follows from the format and what the device hands back. -/
theorem capture_eq {device : Recorder} {program : Program} (bound : device.bound = some program) :
    device.capture.1 =
      captureOf device.configuration.size device.configuration.format
        (readBack device.configuration.size device.takeReadFault.1) := by
  rw [capture, captureOf, bound]
  cases device.configuration.format.channelOrder? with
  | none => rfl
  | some order =>
      have faults : device.recordCapture.takeReadFault.1 = device.takeReadFault.1 := by
        rw [fst_takeReadFault, fst_takeReadFault, readFaults_recordCapture]
      dsimp only
      rw [faults]

/-- The image of a buffer that holds all of its rows. -/
def imageIn (order : ChannelOrder) (size : Size) (data : Array UInt8) : Image :=
  ⟨size.width, size.height, redFirst order (unpad data size.width size.height)⟩

theorem captureOf_of_inside {size : Size} {format : Format} {order : ChannelOrder}
    {data : Array UInt8} (ordered : format.channelOrder? = some order)
    (inside : size.height * paddedRowBytes size.width ≤ data.size) :
    captureOf size format (.ok data) = .ok (imageIn order size data) := by
  have enough : 4 * size.width * size.height ≤
      (redFirst order (unpad data size.width size.height)).size := by
    apply Nat.le_of_eq
    rw [size_redFirst, size_unpad inside, rowBytes, Nat.mul_comm size.height]
  have read : ofReadback? order size.width size.height data = some (imageIn order size data) := by
    rw [ofReadback?, ofBytes?, if_pos enough]
    rfl
  rw [captureOf, ordered]
  change (imageOf size order data).mapError Device.FrameError.capture = _
  rw [imageOf, read]
  rfl

/-- A point as a format stores it, with red in front. -/
def arranged : Format → Point → Point
  | .bgra8, point | .bgra8Encoded, point => point.swapped
  | _, point => point

theorem arranged_of_redFirst {format : Format} (ordered : format.channelOrder? = some .redFirst)
    (point : Point) : arranged format point = point := by
  cases format <;> cases ordered <;> rfl

theorem arranged_of_blueFirst {format : Format}
    (ordered : format.channelOrder? = some .blueFirst) (point : Point) :
    arranged format point = point.swapped := by
  cases format <;> cases ordered <;> rfl

/--
An image reproduces a buffer with rows of a padded length: it has the size that was asked for
and no byte more, its points are those of the buffer, and it would be the same for any buffer
that differs in the padding only.
-/
structure Reproduces (image : Image) (size : Size) (format : Format) (padded : Nat)
    (data : Array UInt8) : Prop where
  width : image.width = size.width
  height : image.height = size.height
  bytes : image.bytes.size = 4 * size.width * size.height
  points : ∀ x y, x < size.width → y < size.height →
    ∃ point, pointAt? data (y * padded + 4 * x) = some point ∧
      image.point? x y = some (arranged format point)
  padding : ∀ data' : Array UInt8, data'.size = data.size →
    (∀ y < size.height, ∀ column < 4 * size.width,
      data'[y * padded + column]? = data[y * padded + column]?) →
    captureOf size format (.ok data') = .ok image

theorem reproduces_imageIn {size : Size} {format : Format} {order : ChannelOrder}
    {data : Array UInt8} (ordered : format.channelOrder? = some order)
    (inside : size.height * paddedRowBytes size.width ≤ data.size) :
    Reproduces (imageIn order size data) size format (paddedRowBytes size.width) data := by
  have sized := size_unpad inside
  constructor
  case width => rfl
  case height => rfl
  case bytes =>
    change (redFirst order (unpad data size.width size.height)).size = _
    rw [size_redFirst, sized, rowBytes, Nat.mul_comm size.height]
  case points =>
    intro x y within above
    have placed := pointAt?_unpad inside within above
    have room := offset_lt within above
    rw [← sized] at room
    obtain ⟨point, stored⟩ : ∃ point, pointAt? data (y * paddedRowBytes size.width + 4 * x) =
        some point := by
      rw [← placed, pointAt?_eq room]
      exact ⟨_, rfl⟩
    refine ⟨point, stored, ?_⟩
    change pointAt? (redFirst order _) (4 * (y * size.width + x)) = _
    cases order with
    | redFirst => rw [redFirst, placed, stored, arranged_of_redFirst ordered]
    | blueFirst =>
        rw [pointAt?_blueFirst (Nat.mul_mod_right 4 _) room, placed, stored,
          arranged_of_blueFirst ordered]
        rfl
  case padding =>
    intro data' same agree
    rw [captureOf_of_inside ordered (same ▸ inside), imageIn, imageIn,
      unpad_congr inside same agree]

/--
A capture reproduces every point.  For any size whose padded rows fit into 32 bits, any format
with a byte for each colour and any bytes that fill the buffer, a capture returns an image,
which has the points of the buffer, with the first and the third byte exchanged exactly for the
formats that store blue first.  A device that hands these bytes back captures this image.
-/
theorem capture_reproduces {width height : UInt32} {format : Format} {data : Array UInt8}
    (fits : Number.nextMultiple (4 * width.toNat) 256 < 4294967296)
    (accepted : format ∈ [Format.rgba8, .rgba8Encoded, .bgra8, .bgra8Encoded])
    (whole : data.size = (paddedRow width).toNat * height.toNat) :
    ∃ image, captureOf ⟨width.toNat, height.toNat⟩ format (.ok data) = .ok image ∧
      Reproduces image ⟨width.toNat, height.toNat⟩ format (paddedRow width).toNat data ∧
      ∀ device : Recorder, device.bound.isSome = true → device.configuration.format = format →
        device.configuration.size = ⟨width.toNat, height.toNat⟩ →
        readBack device.configuration.size device.takeReadFault.1 = .ok data →
        device.capture.1 = .ok image := by
  rw [toNat_paddedRow fits] at whole ⊢
  have inside : height.toNat * paddedRowBytes width.toNat ≤ data.size := by
    apply Nat.le_of_eq
    rw [whole, Nat.mul_comm]
  obtain ⟨order, ordered⟩ : ∃ order, format.channelOrder? = some order := by
    simp only [List.mem_cons, List.not_mem_nil, or_false] at accepted
    rcases accepted with rfl | rfl | rfl | rfl
    · exact ⟨_, rfl⟩
    · exact ⟨_, rfl⟩
    · exact ⟨_, rfl⟩
    · exact ⟨_, rfl⟩
  have captured : captureOf ⟨width.toNat, height.toNat⟩ format (.ok data) =
      .ok (imageIn order ⟨width.toNat, height.toNat⟩ data) := captureOf_of_inside ordered inside
  refine ⟨_, captured, reproduces_imageIn ordered inside, ?_⟩
  intro device bound sameFormat sameSize handed
  obtain ⟨program, bound⟩ := Option.isSome_iff_exists.mp bound
  rw [capture_eq bound, handed, sameFormat, sameSize, captured]

/-- A point of the pattern that stands inside of it. -/
theorem pointAt?_pattern {width rows offset : Nat}
    (inside : offset + 4 ≤ paddedRowBytes width * rows) :
    pointAt? (pattern width rows) offset =
      some ⟨patternByte width offset, patternByte width (offset + 1),
        patternByte width (offset + 2), patternByte width (offset + 3)⟩ := by
  have sized : (pattern width rows).size = paddedRowBytes width * rows := by simp [pattern]
  rw [pointAt?_eq (sized ▸ inside)]
  simp [pattern]

/-- Two rows of three points, read back from a surface that stores blue first. -/
theorem capture_reproduces_threeByTwo :
    (pattern 3 2).size = 256 * 2 ∧
      pointAt? (pattern 3 2) (1 * 256 + 4 * 2) = some ⟨31, 34, 37, 40⟩ ∧
      ∃ image, captureOf ⟨3, 2⟩ .bgra8 (.ok (pattern 3 2)) = .ok image ∧
        Reproduces image ⟨3, 2⟩ .bgra8 256 (pattern 3 2) ∧
        image.point? 2 1 = some ⟨37, 34, 31, 40⟩ := by
  have sized : (pattern 3 2).size = 256 * 2 := by
    rw [pattern, Array.size_map, Array.size_range]
    rfl
  have stored : pointAt? (pattern 3 2) (1 * 256 + 4 * 2) = some ⟨31, 34, 37, 40⟩ :=
    (pointAt?_pattern (by decide)).trans rfl
  have filled : (pattern 3 2).size = (paddedRow 3).toNat * (2 : UInt32).toNat := sized
  obtain ⟨image, captured, reproduces, _⟩ :=
    @capture_reproduces 3 2 .bgra8 (pattern 3 2) (by decide) (by decide) filled
  obtain ⟨point, found, shown⟩ := reproduces.points 2 1 (by decide) (by decide)
  cases stored.symm.trans found
  exact ⟨sized, stored, image, captured, reproduces, shown⟩

end Recorder

end LiveShader.Gpu
