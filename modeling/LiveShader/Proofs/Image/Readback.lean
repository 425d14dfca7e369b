import LiveShader.Image.Readback

/-!
# Points of an image that was read back

The points of an image stand in the rows of the buffer that was read back, each row at a
multiple of the padded length.  Dropping the padding moves the bytes of a point together, and
putting red in front exchanges two bytes inside of each point, so every point of the image is
the point of the buffer at its place.
-/

namespace LiveShader.Image

/-- Four bytes that belong to one point. -/
structure Point where
  first : UInt8
  second : UInt8
  third : UInt8
  fourth : UInt8
  deriving Repr, DecidableEq

/-- The point with its first and its third byte exchanged. -/
def Point.swapped (point : Point) : Point :=
  ⟨point.third, point.second, point.first, point.fourth⟩

/-- The point in four bytes from an offset on, if there are so many. -/
def pointAt? (bytes : Array UInt8) (offset : Nat) : Option Point := do
  let first ← bytes[offset]?
  let second ← bytes[offset + 1]?
  let third ← bytes[offset + 2]?
  let fourth ← bytes[offset + 3]?
  some ⟨first, second, third, fourth⟩

/-- The point of an image in a column and a row. -/
def point? (image : Image) (x y : Nat) : Option Point :=
  pointAt? image.bytes (4 * (y * image.width + x))

theorem pointAt?_congr {bytes bytes' : Array UInt8} {offset offset' : Nat}
    (same : ∀ place < 4, bytes[offset + place]? = bytes'[offset' + place]?) :
    pointAt? bytes offset = pointAt? bytes' offset' := by
  have first := same 0 (by decide)
  have second := same 1 (by decide)
  have third := same 2 (by decide)
  have fourth := same 3 (by decide)
  rw [Nat.add_zero, Nat.add_zero] at first
  rw [pointAt?, pointAt?, first, second, third, fourth]

theorem pointAt?_eq {bytes : Array UInt8} {offset : Nat} (inside : offset + 4 ≤ bytes.size) :
    pointAt? bytes offset =
      some ⟨bytes[offset], bytes[offset + 1], bytes[offset + 2], bytes[offset + 3]⟩ := by
  simp only [pointAt?, bind, Option.bind]
  rw [Array.getElem?_eq_getElem (by omega), Array.getElem?_eq_getElem (by omega),
    Array.getElem?_eq_getElem (by omega), Array.getElem?_eq_getElem (by omega)]

/-! ## Order of the colours -/

theorem size_redFirst (order : ChannelOrder) (bytes : Array UInt8) :
    (redFirst order bytes).size = bytes.size := by
  cases order with
  | redFirst => rfl
  | blueFirst => exact Array.size_mapIdx

/-- Putting red in front exchanges the first and the third byte of every point. -/
theorem pointAt?_blueFirst {bytes : Array UInt8} {offset : Nat} (aligned : offset % 4 = 0)
    (inside : offset + 4 ≤ bytes.size) :
    pointAt? (redFirst .blueFirst bytes) offset = (pointAt? bytes offset).map Point.swapped := by
  have sized := size_redFirst .blueFirst bytes
  rw [pointAt?_eq (sized ▸ inside), pointAt?_eq inside]
  have second : (offset + 1) % 4 = 1 := by omega
  have third : (offset + 2) % 4 = 2 := by omega
  have fourth : (offset + 3) % 4 = 3 := by omega
  simp [redFirst, swappedByte, aligned, second, third, fourth, Point.swapped,
    Array.getD, show offset + 2 < bytes.size by omega, show offset < bytes.size by omega]

/-! ## Dropping the padding -/

variable {data : Array UInt8} {width height : Nat}

theorem rowBytes_le_paddedRowBytes (width : Nat) : rowBytes width ≤ paddedRowBytes width :=
  Number.le_nextMultiple (rowBytes width) (by decide)

theorem unpad_succ (data : Array UInt8) (width height : Nat) :
    unpad data width (height + 1) = unpad data width height ++ readRow data width height := by
  simp [unpad, List.range_succ]

/-- The rows of a buffer that holds all of them have their full length. -/
theorem size_readRow {row : Nat} (inside : (row + 1) * paddedRowBytes width ≤ data.size) :
    (readRow data width row).size = rowBytes width := by
  have padded := rowBytes_le_paddedRowBytes width
  rw [Nat.succ_mul] at inside
  rw [readRow, Array.size_extract]
  omega

theorem size_unpad (inside : height * paddedRowBytes width ≤ data.size) :
    (unpad data width height).size = height * rowBytes width := by
  induction height with
  | zero => simp [unpad]
  | succ height ih =>
      have before : height * paddedRowBytes width ≤ data.size :=
        Nat.le_trans (Nat.mul_le_mul_right _ (Nat.le_succ height)) inside
      rw [unpad_succ, Array.size_append, ih before, size_readRow inside, Nat.succ_mul]

/-- Without the padding a byte stands in its row and column. -/
theorem getElem?_unpad (inside : height * paddedRowBytes width ≤ data.size) {row column : Nat}
    (above : row < height) (within : column < rowBytes width) :
    (unpad data width height)[row * rowBytes width + column]? =
      data[row * paddedRowBytes width + column]? := by
  induction height with
  | zero => cases above
  | succ height ih =>
      have before : height * paddedRowBytes width ≤ data.size :=
        Nat.le_trans (Nat.mul_le_mul_right _ (Nat.le_succ height)) inside
      have sized := size_unpad before
      rw [unpad_succ]
      rcases Nat.lt_succ_iff_lt_or_eq.mp above with earlier | rfl
      · have left : row * rowBytes width + column < (unpad data width height).size := by
          have next := Nat.mul_le_mul_right (rowBytes width) (Nat.succ_le_of_lt earlier)
          rw [Nat.succ_mul] at next
          omega
        rw [Array.getElem?_append_left left, ih before earlier]
      · have right : (unpad data width row).size ≤ row * rowBytes width + column := by omega
        have padded := rowBytes_le_paddedRowBytes width
        rw [Array.getElem?_append_right right, sized, Nat.add_sub_cancel_left, readRow,
          Array.getElem?_extract]
        rw [Nat.succ_mul] at inside
        rw [if_pos (by omega)]

/-- What is left without the padding does not depend on the padding. -/
theorem unpad_congr {data' : Array UInt8} (inside : height * paddedRowBytes width ≤ data.size)
    (sized : data'.size = data.size)
    (same : ∀ row < height, ∀ column < rowBytes width,
      data'[row * paddedRowBytes width + column]? = data[row * paddedRowBytes width + column]?) :
    unpad data' width height = unpad data width height := by
  have inside' : height * paddedRowBytes width ≤ data'.size := sized ▸ inside
  apply Array.ext
  · rw [size_unpad inside, size_unpad inside']
  · intro index bound' bound
    have small : index < height * rowBytes width := size_unpad inside ▸ bound
    have wide : 0 < rowBytes width := Nat.pos_of_lt_mul_left small
    have above : index / rowBytes width < height := (Nat.div_lt_iff_lt_mul wide).mpr small
    have within : index % rowBytes width < rowBytes width := Nat.mod_lt index wide
    have placed : index / rowBytes width * rowBytes width + index % rowBytes width = index :=
      Nat.div_add_mod' index (rowBytes width)
    have left := getElem?_unpad inside' above within
    have right := getElem?_unpad inside above within
    rw [placed] at left right
    apply Option.some.inj
    rw [← Array.getElem?_eq_getElem bound', ← Array.getElem?_eq_getElem bound, left, right,
      same _ above _ within]

/-- The offset of a point among the rows without padding. -/
theorem offset_eq (width x y place : Nat) :
    4 * (y * width + x) + place = y * rowBytes width + (4 * x + place) := by
  rw [rowBytes, Nat.mul_add, Nat.mul_left_comm]
  omega

theorem offset_lt {x y : Nat} (within : x < width) (above : y < height) :
    4 * (y * width + x) + 4 ≤ height * rowBytes width := by
  have next := Nat.mul_le_mul_right (rowBytes width) (Nat.succ_le_of_lt above)
  rw [Nat.succ_mul] at next
  rw [offset_eq]
  have row : rowBytes width = 4 * width := rfl
  omega

/-- Without the padding a point stands in its row and column. -/
theorem pointAt?_unpad (inside : height * paddedRowBytes width ≤ data.size) {x y : Nat}
    (within : x < width) (above : y < height) :
    pointAt? (unpad data width height) (4 * (y * width + x)) =
      pointAt? data (y * paddedRowBytes width + 4 * x) := by
  apply pointAt?_congr
  intro place small
  have column : 4 * x + place < rowBytes width := by
    rw [rowBytes]
    omega
  rw [offset_eq, getElem?_unpad inside above column, Nat.add_assoc]

end LiveShader.Image
