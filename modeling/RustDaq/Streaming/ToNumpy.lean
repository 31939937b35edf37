import Mathlib.Algebra.Group.Nat.Basic
import RustDaq.Streaming.Event

/-!
# `Frame.to_numpy`

`Frame.to_numpy` (`streaming.py`, lines 60–92) imports numpy, looks the
dtype of `pixel_format` up in `format_map`, reads the bytes with
`np.frombuffer` and reshapes them to `(height, width)`.

`np.uint16` and `np.float32` are in the byte order of the machine, while the
`u16_be` entry is `np.dtype(">u2")`, big-endian everywhere. The model takes the
machine as a parameter (`Host`): whether `import numpy` succeeds, its byte
order, and the width of numpy's index type `npy_intp`, which bounds every shape
entry and the byte size of the reshaped view. A `float32` element is kept as
its 32-bit pattern, which is what `np.frombuffer` stores.

`Spec.decode` is the decoder §4.6 of the spec describes: it fails when
`pixel_data` is absent or the tag unknown, and otherwise reshapes the
`width * height * bytes_per_sample` bytes row-major into `height × width`.

Results:
* `Frame.toNumpy_toOption`: with numpy installed and nonnegative dimensions
  whose view fits in `npy_intp`, `to_numpy` is `Spec.decode`, for `u8` and
  `u16_be` on every machine and for `u16_le` and `f32_le` on a little-endian
  one.
* `frame_toNumpy_decodes`: `to_numpy` succeeds exactly when the buffer has
  `width * height * b` bytes for a known tag and `b * max(height, 1) *
  max(width, 1)` fits in `npy_intp`; element `(r, c)` is the word at byte
  offset `(r * width + c) * b`, and decoding inverts row-major encoding.
* `frame_toNumpy_without_numpy`: without numpy it raises `ImportError`.
* `toNumpy_big_endian_swaps_le_tags`: on a big-endian machine `u16_le` and
  `f32_le` are read big-endian, so every element comes out byte-swapped
  against the little-endian reading; nothing else changes.
-/

namespace RustDaq.Streaming

/-! ## numpy -/

inductive ByteOrder where
  | little
  | big
  deriving DecidableEq, Repr

/-- The machine `to_numpy` runs on: whether `import numpy` succeeds, the byte
    order of `np.uint16` and `np.float32` there, and the width in bits of
    numpy's index type `npy_intp` (64 on a 64-bit build, 32 on a 32-bit one). -/
structure Host where
  numpy : Bool
  byteOrder : ByteOrder
  intpBits : Nat
  deriving DecidableEq, Repr

/-- `NPY_MAX_INTP`, the largest `npy_intp`. -/
def Host.maxIntp (host : Host) : Nat := 2 ^ (host.intpBits - 1) - 1

@[simp] theorem Host.maxIntp_mk (np : Bool) (o : ByteOrder) (bits : Nat) :
    (Host.mk np o bits).maxIntp = 2 ^ (bits - 1) - 1 := rfl

/-- The element types `to_numpy` produces. -/
inductive Kind where
  | uint8
  | uint16
  | float32
  deriving DecidableEq, Repr

/-- A numpy dtype: element type, size in bytes and byte order. -/
structure Dtype where
  kind : Kind
  itemsize : Nat
  order : ByteOrder
  deriving DecidableEq, Repr

/-- The unsigned integer whose bytes are `bs`, in byte order `o`. -/
def readWord : ByteOrder → Bytes → Nat
  | .little, bs => bs.foldr (fun b acc => b.toNat + 256 * acc) 0
  | .big, bs => bs.foldl (fun acc b => 256 * acc + b.toNat) 0

/-- The `n` words of `b` bytes that `buf` holds, read in byte order `o`. -/
def words (o : ByteOrder) (b : Nat) (buf : Bytes) (n : Nat) : List Nat :=
  (List.range n).map fun i => readWord o ((buf.drop (i * b)).take b)

/-- The `ValueError`s numpy raises here: `bufferSize` is "buffer size must be
    a multiple of element size", `maxDimension` is "Maximum allowed dimension
    exceeded", `reshape n h w` is "cannot reshape array of size `n` into shape
    `(h, w)`", `unknownDims` is "can only specify one unknown dimension", and
    `tooBig` is "array is too big; `arr.size * arr.dtype.itemsize` is larger
    than the maximum possible size." -/
inductive NumpyError where
  | bufferSize
  | maxDimension
  | reshape (size : Nat) (h w : Int)
  | unknownDims
  | tooBig
  deriving DecidableEq, Repr

/-- `np.frombuffer(buf, dtype=dt)`: one element per `dt.itemsize` bytes. -/
def frombuffer (buf : Bytes) (dt : Dtype) : Except NumpyError (List Nat) :=
  if buf.length % dt.itemsize = 0 then
    .ok (words dt.order dt.itemsize buf (buf.length / dt.itemsize))
  else .error .bufferSize

/-- `dimension_from_scalar`: a shape entry converted to `npy_intp`, whose
    largest value is `maxIntp`. -/
def dimensionFromScalar (maxIntp : Nat) (x : Int) : Except NumpyError Int :=
  if -(maxIntp : Int) - 1 ≤ x ∧ x ≤ maxIntp then .ok x else .error .maxDimension

/-- `_fix_unknown_dimension` on the shape `(h, w)` of an array of `n`
    elements: a negative entry is the one dimension inferred; otherwise the
    product of the entries, computed with an overflow check, must be `n`. -/
def fixUnknownDimension (maxIntp n : Nat) (h w : Int) : Except NumpyError (Nat × Nat) :=
  if h < 0 ∧ w < 0 then .error .unknownDims
  else if h < 0 then
    if w = 0 ∨ n % w.toNat ≠ 0 then .error (.reshape n h w) else .ok (n / w.toNat, w.toNat)
  else if w < 0 then
    if h = 0 ∨ n % h.toNat ≠ 0 then .error (.reshape n h w) else .ok (h.toNat, n / h.toNat)
  else if maxIntp < h.toNat * w.toNat ∨ h.toNat * w.toNat ≠ n then .error (.reshape n h w)
  else .ok (h.toNat, w.toNat)

/-- The size check of `PyArray_NewFromDescr` on the reshaped view: the itemsize
    `b` times every nonzero dimension must not overflow `npy_intp` (each
    partial product is at most the whole, so one test stands for the check at
    each factor). -/
def checkViewSize (maxIntp b rows cols : Nat) : Except NumpyError (Nat × Nat) :=
  if maxIntp < b * max rows 1 * max cols 1 then .error .tooBig else .ok (rows, cols)

/-- `arr.reshape((h, w))` on an array of `n` elements of `b` bytes each, where
    `maxIntp` is the largest `npy_intp`. -/
def reshape (maxIntp b n : Nat) (h w : Int) : Except NumpyError (Nat × Nat) := do
  let h ← dimensionFromScalar maxIntp h
  let w ← dimensionFromScalar maxIntp w
  let (rows, cols) ← fixUnknownDimension maxIntp n h w
  checkViewSize maxIntp b rows cols

/-- A two-dimensional array, its elements in row-major order. -/
structure NDArray where
  kind : Kind
  rows : Nat
  cols : Nat
  data : List Nat
  deriving DecidableEq, Repr

/-- `arr[r, c]`. -/
def NDArray.get (a : NDArray) (r c : Nat) : Option Nat := a.data[r * a.cols + c]?

/-- The exceptions `to_numpy` raises. -/
inductive PyError where
  | importError (msg : String)
  | valueError (msg : String)
  | numpy (e : NumpyError)
  deriving DecidableEq, Repr

/-! ## The model of `to_numpy` -/

/-- `format_map.get(self.pixel_format)` (lines 80–87). A one-byte element reads
    the same in either byte order. -/
def formatMap (host : Host) (fmt : String) : Option Dtype :=
  if fmt = "u8" then some ⟨.uint8, 1, .little⟩
  else if fmt = "u16_le" then some ⟨.uint16, 2, host.byteOrder⟩
  else if fmt = "u16_be" then some ⟨.uint16, 2, .big⟩
  else if fmt = "f32_le" then some ⟨.float32, 4, host.byteOrder⟩
  else none

/-- `Frame.to_numpy` (lines 60–92). -/
def Frame.toNumpy (host : Host) (f : Frame) : Except PyError NDArray :=
  if host.numpy = false then .error (.importError "numpy is required for to_numpy()") else
  match f.pixelData with
  | none => .error (.valueError "No pixel data available (include_pixel_data=False?)")
  | some data =>
    match formatMap host f.pixelFormat with
    | none => .error (.valueError ("Unknown pixel format: " ++ f.pixelFormat))
    | some dt =>
      match frombuffer data dt with
      | .error e => .error (.numpy e)
      | .ok arr =>
        match reshape host.maxIntp dt.itemsize arr.length f.height f.width with
        | .error e => .error (.numpy e)
        | .ok (rows, cols) => .ok ⟨dt.kind, rows, cols, arr⟩

/-- With numpy installed, the `ValueError`s of `to_numpy` name what is wrong:
    the absent `pixel_data`, or the tag `format_map` lacks; every other
    failure is numpy's, on a known tag. -/
theorem Frame.toNumpy_eq_error {host : Host} (hnp : host.numpy = true) {f : Frame} {e : PyError}
    (h : f.toNumpy host = .error e) :
    (f.pixelData = none ∧ e = .valueError "No pixel data available (include_pixel_data=False?)") ∨
    (f.pixelData ≠ none ∧ formatMap host f.pixelFormat = none ∧
      e = .valueError ("Unknown pixel format: " ++ f.pixelFormat)) ∨
    ∃ dt ne, formatMap host f.pixelFormat = some dt ∧ e = .numpy ne := by
  simp only [Frame.toNumpy, hnp, Bool.true_eq_false, if_false] at h
  rcases hd : f.pixelData with _ | data <;> simp only [hd] at h
  · exact .inl ⟨rfl, (Except.error.inj h).symm⟩
  rcases hf : formatMap host f.pixelFormat with _ | dt <;> simp only [hf] at h
  · exact .inr (.inl ⟨by simp, rfl, (Except.error.inj h).symm⟩)
  refine .inr (.inr ⟨dt, ?_⟩)
  split at h
  · exact ⟨_, rfl, (Except.error.inj h).symm⟩
  · split at h
    · exact ⟨_, rfl, (Except.error.inj h).symm⟩
    · cases h

/-! ## The decoder of the spec -/

namespace Spec

/-- §4.6: `u8` is a 1-byte unsigned, `u16_le`/`u16_be` a 2-byte unsigned in
    the tag's byte order, `f32_le` a 4-byte IEEE float, little-endian. -/
def pixelFormat (fmt : String) : Option Dtype :=
  if fmt = "u8" then some ⟨.uint8, 1, .little⟩
  else if fmt = "u16_le" then some ⟨.uint16, 2, .little⟩
  else if fmt = "u16_be" then some ⟨.uint16, 2, .big⟩
  else if fmt = "f32_le" then some ⟨.float32, 4, .little⟩
  else none

/-- §4.6: decoding fails when `pixel_data` is absent, the tag unknown, or the
    buffer not `width * height * bytes_per_sample` bytes long; otherwise the
    buffer, reshaped row-major into `height × width`. -/
def decode (f : Frame) : Option NDArray :=
  match f.pixelData, pixelFormat f.pixelFormat with
  | some data, some dt =>
    if data.length = f.width.toNat * f.height.toNat * dt.itemsize then
      some ⟨dt.kind, f.height.toNat, f.width.toNat,
        words dt.order dt.itemsize data (f.height.toNat * f.width.toNat)⟩
    else none
  | _, _ => none

/-- `x` as `n` bytes, least significant first. -/
def writeLE : Nat → Nat → Bytes
  | 0, _ => []
  | n + 1, x => (x % 256).toUInt8 :: writeLE n (x / 256)

/-- `x` as `n` bytes in byte order `o`. -/
def writeWord : ByteOrder → Nat → Nat → Bytes
  | .little, n, x => writeLE n x
  | .big, n, x => (writeLE n x).reverse

/-- Row-major encoding of the elements `data` in dtype `dt`. -/
def encode (dt : Dtype) (data : List Nat) : Bytes := (data.map (writeWord dt.order dt.itemsize)).flatten

theorem pixelFormat_itemsize_pos {fmt : String} {dt : Dtype} (h : pixelFormat fmt = some dt) :
    0 < dt.itemsize := by
  unfold pixelFormat at h
  split_ifs at h <;> cases h <;> decide

end Spec

/-! ## Words -/

theorem readWord_big (bs : Bytes) : readWord .big bs = readWord .little bs.reverse := by
  simp only [readWord, List.foldr_reverse, Nat.add_comm]

theorem Spec.length_writeLE (n x : Nat) : (Spec.writeLE n x).length = n := by
  induction n generalizing x with
  | zero => rfl
  | succ n ih => simp [Spec.writeLE, ih]

@[simp] theorem Spec.length_writeWord (o : ByteOrder) (n x : Nat) :
    (Spec.writeWord o n x).length = n := by
  cases o <;> simp [Spec.writeWord, Spec.length_writeLE]

theorem readWord_writeLE (n x : Nat) : readWord .little (Spec.writeLE n x) = x % 256 ^ n := by
  induction n generalizing x with
  | zero => simp [readWord, Spec.writeLE, Nat.mod_one]
  | succ n ih =>
    simp only [readWord, Spec.writeLE, List.foldr_cons] at ih ⊢
    rw [ih, UInt8.toNat_ofNat_of_lt (Nat.mod_lt _ (by decide)), Nat.pow_succ', Nat.mod_mul]

theorem readWord_writeWord (o : ByteOrder) (n x : Nat) :
    readWord o (Spec.writeWord o n x) = x % 256 ^ n := by
  cases o
  · exact readWord_writeLE n x
  · rw [readWord_big, Spec.writeWord, List.reverse_reverse, readWord_writeLE]

/-- Block `i` of equal-length blocks, cut out of their concatenation. -/
theorem take_drop_flatten {bs : List Bytes} {b : Nat} (hb : ∀ x ∈ bs, x.length = b) :
    ∀ i (hi : i < bs.length), ((bs.flatten).drop (i * b)).take b = bs[i] := by
  induction bs with
  | nil => intro i hi; simp at hi
  | cons x bs ih =>
    intro i hi
    have hx := hb x (by simp)
    cases i with
    | zero => simp [← hx]
    | succ i =>
      simp only [List.flatten_cons, List.getElem_cons_succ]
      rw [Nat.succ_mul, Nat.add_comm, ← hx, ← List.drop_drop, List.drop_left, hx]
      exact ih (fun y hy => hb y (by simp [hy])) i (by simpa using hi)

theorem words_encode {dt : Dtype} {data : List Nat} (hx : ∀ x ∈ data, x < 256 ^ dt.itemsize) :
    words dt.order dt.itemsize (Spec.encode dt data) data.length = data := by
  apply List.ext_getElem
  · simp [words]
  · intro i h₁ h₂
    simp only [words, List.getElem_map, List.getElem_range]
    rw [Spec.encode, take_drop_flatten (by simp) i (by simpa using h₂)]
    simp [readWord_writeWord, Nat.mod_eq_of_lt (hx _ (List.getElem_mem h₂))]

theorem Spec.length_encode (dt : Dtype) (data : List Nat) :
    (Spec.encode dt data).length = data.length * dt.itemsize := by
  induction data with
  | nil => simp [Spec.encode]
  | cons x data ih =>
    simp only [Spec.encode, List.map_cons, List.flatten_cons, List.length_append,
      Spec.length_writeWord, List.length_cons] at ih ⊢
    rw [ih, Nat.succ_mul, Nat.add_comm]

theorem words_getElem? {o : ByteOrder} {b : Nat} {buf : Bytes} {n i : Nat} (hi : i < n) :
    (words o b buf n)[i]? = some (readWord o ((buf.drop (i * b)).take b)) := by
  simp [words, hi]

/-! ## The spec decoder -/

theorem Spec.decode_eq_some_iff {f : Frame} {a : NDArray} :
    Spec.decode f = some a ↔
      ∃ data dt, f.pixelData = some data ∧ Spec.pixelFormat f.pixelFormat = some dt ∧
        data.length = f.width.toNat * f.height.toNat * dt.itemsize ∧
        a = ⟨dt.kind, f.height.toNat, f.width.toNat,
          words dt.order dt.itemsize data (f.height.toNat * f.width.toNat)⟩ := by
  unfold Spec.decode
  split
  · next data dt hd hp =>
    split_ifs with hl
    · simp [hd, hp, hl, eq_comm]
    · simp [hd, hp, hl]
  · next hn =>
    simp only [reduceCtorEq, false_iff, not_exists, not_and]
    exact fun data dt hd hp _ _ => hn data dt hd hp

/-- Element `(r, c)` of a row-major array of words is word `r * cols + c`. -/
theorem NDArray.get_words {kind : Kind} {rows cols : Nat} {o : ByteOrder} {b : Nat} {buf : Bytes}
    {r c : Nat} (hr : r < rows) (hc : c < cols) :
    (NDArray.mk kind rows cols (words o b buf (rows * cols))).get r c =
      some (readWord o ((buf.drop ((r * cols + c) * b)).take b)) :=
  words_getElem? (lt_of_lt_of_le (Nat.add_lt_add_left hc _)
    (by rw [← Nat.succ_mul]; exact Nat.mul_le_mul_right _ hr))

theorem Spec.decode_encode {f : Frame} {dt : Dtype} {data : List Nat}
    (hfmt : Spec.pixelFormat f.pixelFormat = some dt)
    (hlen : data.length = f.height.toNat * f.width.toNat) (hx : ∀ x ∈ data, x < 256 ^ dt.itemsize)
    (hd : f.pixelData = some (Spec.encode dt data)) :
    Spec.decode f = some ⟨dt.kind, f.height.toNat, f.width.toNat, data⟩ := by
  have hl : (Spec.encode dt data).length = f.width.toNat * f.height.toNat * dt.itemsize := by
    rw [Spec.length_encode, hlen, Nat.mul_comm f.height.toNat]
  simp only [Spec.decode, hd, hfmt, hl, if_true, ← hlen, words_encode hx]

/-! ## numpy's index type -/

theorem dimensionFromScalar_eq_ok {m : Nat} {x y : Int} (hx : 0 ≤ x) :
    dimensionFromScalar m x = .ok y ↔ x.toNat ≤ m ∧ y = x := by
  unfold dimensionFromScalar
  split_ifs <;> simp only [Except.ok.injEq, reduceCtorEq, false_iff] <;> omega

theorem fixUnknownDimension_eq_ok {m n : Nat} {h w : Int} (hh : 0 ≤ h) (hw : 0 ≤ w)
    {p : Nat × Nat} :
    fixUnknownDimension m n h w = .ok p ↔
      h.toNat * w.toNat ≤ m ∧ h.toNat * w.toNat = n ∧ p = (h.toNat, w.toNat) := by
  simp only [fixUnknownDimension, Int.not_lt.2 hh, Int.not_lt.2 hw, false_and, if_false]
  generalize h.toNat * w.toNat = k
  split_ifs with hc
  · simp only [reduceCtorEq, false_iff]
    omega
  · simp only [Except.ok.injEq, eq_comm]
    exact ⟨fun hp => ⟨by omega, by omega, hp⟩, fun hp => hp.2.2⟩

theorem checkViewSize_eq_ok {m b r c : Nat} {p : Nat × Nat} :
    checkViewSize m b r c = .ok p ↔ b * max r 1 * max c 1 ≤ m ∧ p = (r, c) := by
  unfold checkViewSize
  generalize b * max r 1 * max c 1 = k
  split_ifs <;> simp [eq_comm] <;> omega

/-- A dimension, and the product of the two, are at most the byte size
    `checkViewSize` bounds. -/
theorem le_viewSize {b r c : Nat} (hb : 0 < b) :
    r ≤ b * max r 1 * max c 1 ∧ c ≤ b * max r 1 * max c 1 ∧ r * c ≤ b * max r 1 * max c 1 := by
  have hrc : max r 1 * max c 1 ≤ b * max r 1 * max c 1 := by
    rw [Nat.mul_assoc]
    exact Nat.le_mul_of_pos_left _ hb
  refine ⟨?_, ?_, ?_⟩
  · calc r ≤ max r 1 := le_max_left _ _
      _ ≤ max r 1 * max c 1 := Nat.le_mul_of_pos_right _ (by omega)
      _ ≤ _ := hrc
  · calc c ≤ max c 1 := le_max_left _ _
      _ ≤ max r 1 * max c 1 := Nat.le_mul_of_pos_left _ (by omega)
      _ ≤ _ := hrc
  · exact (Nat.mul_le_mul (le_max_left _ _) (le_max_left _ _)).trans hrc

/-- With nonnegative entries and elements of `b ≥ 1` bytes, `reshape` succeeds
    exactly when the shape holds the `n` elements and the view's byte size fits
    in `npy_intp`. -/
theorem reshape_eq_ok {m b n : Nat} {h w : Int} (hb : 0 < b) (hh : 0 ≤ h) (hw : 0 ≤ w)
    {p : Nat × Nat} :
    reshape m b n h w = .ok p ↔
      h.toNat * w.toNat = n ∧ b * max h.toNat 1 * max w.toNat 1 ≤ m ∧ p = (h.toNat, w.toNat) := by
  obtain ⟨h₁, h₂, h₃⟩ := le_viewSize (r := h.toNat) (c := w.toNat) hb
  simp only [reshape, except_bind_eq_ok, dimensionFromScalar_eq_ok hh, dimensionFromScalar_eq_ok hw]
  constructor
  · rintro ⟨_, ⟨-, rfl⟩, _, ⟨-, rfl⟩, q, hq, hc⟩
    obtain ⟨-, hn, rfl⟩ := (fixUnknownDimension_eq_ok hh hw).1 hq
    obtain ⟨hs, rfl⟩ := checkViewSize_eq_ok.1 hc
    exact ⟨hn, hs, rfl⟩
  · rintro ⟨hn, hs, rfl⟩
    exact ⟨h, ⟨by omega, rfl⟩, w, ⟨by omega, rfl⟩, _,
      (fixUnknownDimension_eq_ok hh hw).2 ⟨by omega, hn, rfl⟩, checkViewSize_eq_ok.2 ⟨hs, rfl⟩⟩

/-- `arr.reshape((0, 2 ** 63))` of an empty array raises: `2 ** 63` is no
    `npy_intp` on a 64-bit build. -/
example : (reshape (Host.mk true .little 64).maxIntp 1 0 0 (2 ^ 63)).toOption = none := by
  decide

/-! ## `to_numpy` is the spec decoder, within numpy's limits -/

theorem formatMap_eq_pixelFormat {host : Host} {fmt : String}
    (ho : host.byteOrder = .little ∨ (fmt ≠ "u16_le" ∧ fmt ≠ "f32_le")) :
    formatMap host fmt = Spec.pixelFormat fmt := by
  rcases ho with ho | ⟨h₁, h₂⟩
  · simp [formatMap, Spec.pixelFormat, ho]
  · simp [formatMap, Spec.pixelFormat, h₁, h₂]

/-- A buffer of `b`-byte elements holds `h * w` of them iff it has `w * h * b` bytes. -/
theorem length_eq_iff {L b h w : Nat} (hb : 0 < b) :
    (L % b = 0 ∧ h * w = L / b) ↔ L = w * h * b := by
  constructor
  · rintro ⟨hm, hd⟩
    rw [Nat.mul_comm w h, hd, Nat.div_mul_cancel (Nat.dvd_of_mod_eq_zero hm)]
  · rintro rfl
    exact ⟨Nat.mul_mod_left _ _, by rw [Nat.mul_div_cancel _ hb, Nat.mul_comm]⟩

/-- What `to_numpy` returns, with numpy installed, for a frame of nonnegative
    dimensions whose tag the machine reads in the tag's byte order: the
    spec's decoding, when the view's byte size fits in `npy_intp`. -/
theorem Frame.toNumpy_eq_ok {host : Host} (hnp : host.numpy = true) {f : Frame}
    (hw : 0 ≤ f.width) (hh : 0 ≤ f.height)
    (ho : host.byteOrder = .little ∨ (f.pixelFormat ≠ "u16_le" ∧ f.pixelFormat ≠ "f32_le"))
    {a : NDArray} :
    f.toNumpy host = .ok a ↔
      ∃ data dt, f.pixelData = some data ∧ Spec.pixelFormat f.pixelFormat = some dt ∧
        data.length = f.width.toNat * f.height.toNat * dt.itemsize ∧
        dt.itemsize * max f.height.toNat 1 * max f.width.toNat 1 ≤ host.maxIntp ∧
        a = ⟨dt.kind, f.height.toNat, f.width.toNat,
          words dt.order dt.itemsize data (f.height.toNat * f.width.toNat)⟩ := by
  unfold Frame.toNumpy
  rw [formatMap_eq_pixelFormat ho]
  simp only [hnp, Bool.true_eq_false, if_false]
  cases hd : f.pixelData with
  | none => simp
  | some data =>
    cases hp : Spec.pixelFormat f.pixelFormat with
    | none => simp
    | some dt =>
      have hb := Spec.pixelFormat_itemsize_pos hp
      simp only [frombuffer, Option.some.injEq, exists_and_left, exists_eq_left']
      by_cases hm : data.length % dt.itemsize = 0
      · simp only [hm, if_true, words, List.length_map, List.length_range]
        cases hr : reshape host.maxIntp dt.itemsize (data.length / dt.itemsize) f.height f.width with
        | error e =>
          simp only [reduceCtorEq, false_iff, not_and]
          intro hl hs
          simpa [hr] using (reshape_eq_ok hb hh hw).2 ⟨((length_eq_iff hb).2 hl).2, hs, rfl⟩
        | ok q =>
          obtain ⟨hn, hs, rfl⟩ := (reshape_eq_ok hb hh hw).1 hr
          simp only [Except.ok.injEq, eq_comm, (length_eq_iff hb).1 ⟨hm, hn⟩, hs, true_and, hn]
      · simp only [hm, if_false, reduceCtorEq, false_iff, not_and]
        exact fun hl => absurd ((length_eq_iff hb).2 hl).1 hm

theorem except_toOption_eq_some {ε α : Type} {x : Except ε α} {a : α} :
    x.toOption = some a ↔ x = .ok a := by
  cases x <;> simp [Except.toOption]

/-- The refinement: with numpy installed, for a frame of nonnegative
    dimensions whose tag the machine reads in the tag's byte order and whose
    view fits in `npy_intp`, `to_numpy` is the spec's decoder. -/
theorem Frame.toNumpy_toOption {host : Host} (hnp : host.numpy = true) {f : Frame}
    (hw : 0 ≤ f.width) (hh : 0 ≤ f.height)
    (ho : host.byteOrder = .little ∨ (f.pixelFormat ≠ "u16_le" ∧ f.pixelFormat ≠ "f32_le"))
    (hfit : ∀ dt, Spec.pixelFormat f.pixelFormat = some dt →
      dt.itemsize * max f.height.toNat 1 * max f.width.toNat 1 ≤ host.maxIntp) :
    (f.toNumpy host).toOption = Spec.decode f := by
  refine Option.ext fun a => ?_
  rw [Option.mem_def, Option.mem_def, except_toOption_eq_some, Frame.toNumpy_eq_ok hnp hw hh ho,
    Spec.decode_eq_some_iff]
  constructor
  · rintro ⟨data, dt, hd, hp, hl, -, rfl⟩
    exact ⟨data, dt, hd, hp, hl, rfl⟩
  · rintro ⟨data, dt, hd, hp, hl, rfl⟩
    exact ⟨data, dt, hd, hp, hl, hfit dt hp, rfl⟩

/-- On a machine with numpy installed, for every frame of nonnegative
    dimensions whose tag the machine reads in the tag's own byte order (every
    tag, on a little-endian machine): `to_numpy` succeeds iff `pixel_data` is
    present, the tag is known, the buffer has `width * height * b` bytes, and
    `b * max(height, 1) * max(width, 1)` fits in `npy_intp`; it then returns a
    `height × width` array whose element `(r, c)` is the word at byte offset
    `(r * width + c) * b`; and it inverts row-major encoding. -/
theorem frame_toNumpy_decodes (host : Host) (hnp : host.numpy = true) :
    (∀ f : Frame, 0 ≤ f.width → 0 ≤ f.height →
      (host.byteOrder = .little ∨ (f.pixelFormat ≠ "u16_le" ∧ f.pixelFormat ≠ "f32_le")) →
      ((∃ a, f.toNumpy host = .ok a) ↔ ∃ data dt, f.pixelData = some data ∧
          Spec.pixelFormat f.pixelFormat = some dt ∧
          data.length = f.width.toNat * f.height.toNat * dt.itemsize ∧
          dt.itemsize * max f.height.toNat 1 * max f.width.toNat 1 ≤ host.maxIntp) ∧
      ∀ a, f.toNumpy host = .ok a → ∃ data dt, f.pixelData = some data ∧
        Spec.pixelFormat f.pixelFormat = some dt ∧ a.kind = dt.kind ∧
        a.rows = f.height.toNat ∧ a.cols = f.width.toNat ∧
        ∀ r < a.rows, ∀ c < a.cols, a.get r c =
          some (readWord dt.order ((data.drop ((r * a.cols + c) * dt.itemsize)).take dt.itemsize))) ∧
    ∀ (f : Frame) (dt : Dtype) (data : List Nat), 0 ≤ f.width → 0 ≤ f.height →
      (host.byteOrder = .little ∨ (f.pixelFormat ≠ "u16_le" ∧ f.pixelFormat ≠ "f32_le")) →
      Spec.pixelFormat f.pixelFormat = some dt → data.length = f.height.toNat * f.width.toNat →
      dt.itemsize * max f.height.toNat 1 * max f.width.toNat 1 ≤ host.maxIntp →
      (∀ x ∈ data, x < 256 ^ dt.itemsize) → f.pixelData = some (Spec.encode dt data) →
      f.toNumpy host = .ok ⟨dt.kind, f.height.toNat, f.width.toNat, data⟩ := by
  refine ⟨fun f hw hh ho => ⟨⟨?_, ?_⟩, fun a ha => ?_⟩,
    fun f dt data hw hh ho hfmt hlen hfit hx hd => ?_⟩
  · rintro ⟨a, ha⟩
    obtain ⟨data, dt, hd, hp, hl, hs, -⟩ := (Frame.toNumpy_eq_ok hnp hw hh ho).1 ha
    exact ⟨data, dt, hd, hp, hl, hs⟩
  · rintro ⟨data, dt, hd, hp, hl, hs⟩
    exact ⟨_, (Frame.toNumpy_eq_ok hnp hw hh ho).2 ⟨data, dt, hd, hp, hl, hs, rfl⟩⟩
  · obtain ⟨data, dt, hd, hp, -, -, rfl⟩ := (Frame.toNumpy_eq_ok hnp hw hh ho).1 ha
    exact ⟨data, dt, hd, hp, rfl, rfl, rfl, fun r hr c hc => NDArray.get_words hr hc⟩
  · have hfit' : ∀ dt', Spec.pixelFormat f.pixelFormat = some dt' →
        dt'.itemsize * max f.height.toNat 1 * max f.width.toNat 1 ≤ host.maxIntp := by
      intro dt' hp
      rw [hfmt] at hp
      exact Option.some.inj hp ▸ hfit
    exact except_toOption_eq_some.1
      ((Frame.toNumpy_toOption hnp hw hh ho hfit').trans (Spec.decode_encode hfmt hlen hx hd))

theorem frame_toNumpy_decodes_sample :
    (⟨true, .little, 64⟩ : Host).numpy = true ∧ 0 ≤ sampleFrame.width ∧ 0 ≤ sampleFrame.height ∧
    ((∃ a, sampleFrame.toNumpy ⟨true, .little, 64⟩ = .ok a) ↔
      ∃ data dt, sampleFrame.pixelData = some data ∧
        Spec.pixelFormat sampleFrame.pixelFormat = some dt ∧
        data.length = sampleFrame.width.toNat * sampleFrame.height.toNat * dt.itemsize ∧
        dt.itemsize * max sampleFrame.height.toNat 1 * max sampleFrame.width.toNat 1 ≤
          (⟨true, .little, 64⟩ : Host).maxIntp) :=
  ⟨rfl, by decide, by decide,
    ((frame_toNumpy_decodes ⟨true, .little, 64⟩ rfl).1 sampleFrame (by decide) (by decide)
      (.inl rfl)).1⟩

/-- A well-formed frame on a machine without numpy: the spec decoder returns
    its two pixels, `to_numpy` raises `ImportError`. -/
theorem frame_toNumpy_without_numpy :
    Spec.decode sampleFrame = some ⟨.uint16, 1, 2, [1, 2]⟩ ∧
      sampleFrame.toNumpy ⟨false, .little, 64⟩ =
        .error (.importError "numpy is required for to_numpy()") :=
  ⟨rfl, rfl⟩

/-! ## The machine's byte order -/

/-- The `b`-byte word `x` with its bytes in the other order. -/
def byteSwap (b x : Nat) : Nat := readWord .little (Spec.writeLE b x).reverse

/-- What reading on a big-endian machine does to an array read on a
    little-endian one: the elements of a `u16_le` or `f32_le` frame are
    byte-swapped, the others are unchanged. -/
def swapWords (fmt : String) (a : NDArray) : NDArray :=
  if fmt = "u16_le" then { a with data := a.data.map (byteSwap 2) }
  else if fmt = "f32_le" then { a with data := a.data.map (byteSwap 4) }
  else a

theorem toUInt8_toNat (x : UInt8) : x.toNat.toUInt8 = x := by
  apply UInt8.eq_of_val_eq
  apply Fin.ext
  simp [Nat.toUInt8, UInt8.ofNat, UInt8.toNat, Fin.ofNat]

/-- A byte string is the little-endian encoding of the word it holds. -/
theorem writeLE_readWord (bs : Bytes) : Spec.writeLE bs.length (readWord .little bs) = bs := by
  induction bs with
  | nil => rfl
  | cons x bs ih =>
    simp only [readWord, List.foldr_cons, List.length_cons, Spec.writeLE] at ih ⊢
    generalize bs.foldr (fun b acc => b.toNat + 256 * acc) 0 = acc at ih ⊢
    have hx : x.toNat < 256 := x.toNat_lt_size
    have hm : (x.toNat + 256 * acc) % 256 = x.toNat := by omega
    have hd : (x.toNat + 256 * acc) / 256 = acc := by omega
    rw [hm, hd, ih, toUInt8_toNat]

theorem readWord_big_eq_byteSwap (bs : Bytes) :
    readWord .big bs = byteSwap bs.length (readWord .little bs) := by
  rw [byteSwap, writeLE_readWord, readWord_big]

/-- `n` words of `b` bytes read big-endian are the words read little-endian,
    byte-swapped. -/
theorem words_big (b : Nat) (buf : Bytes) (n : Nat) (h : n * b ≤ buf.length) :
    words .big b buf n = (words .little b buf n).map (byteSwap b) := by
  simp only [words, List.map_map]
  refine List.map_congr_left fun i hi => ?_
  have hi := List.mem_range.1 hi
  have hlen : ((buf.drop (i * b)).take b).length = b := by
    have : (i + 1) * b ≤ n * b := Nat.mul_le_mul_right _ hi
    simp only [List.length_take, List.length_drop, Nat.succ_mul] at this ⊢
    omega
  simp only [Function.comp, readWord_big_eq_byteSwap, hlen]

theorem frombuffer_big (buf : Bytes) (k : Kind) (b : Nat) :
    frombuffer buf ⟨k, b, .big⟩ = (frombuffer buf ⟨k, b, .little⟩).map (List.map (byteSwap b)) := by
  unfold frombuffer
  split
  · simp [words_big b buf _ (Nat.div_mul_le_self _ _), Except.map]
  · rfl

/-- How `to_numpy` depends on the machine: on a big-endian machine with numpy
    it gives, for every frame, what it gives on a little-endian one, with the
    elements of a `u16_le` or `f32_le` frame byte-swapped; the same errors, and
    the same arrays for `u8` and `u16_be`. -/
theorem toNumpy_big_endian_swaps_le_tags (f : Frame) (bits : Nat) :
    f.toNumpy ⟨true, .big, bits⟩ = (f.toNumpy ⟨true, .little, bits⟩).map (swapWords f.pixelFormat) := by
  unfold Frame.toNumpy
  simp only [Bool.true_eq_false, if_false]
  cases f.pixelData with
  | none => rfl
  | some data =>
    simp only
    by_cases hle : f.pixelFormat = "u16_le" ∨ f.pixelFormat = "f32_le"
    · -- the two tags whose dtype follows the machine
      rcases hle with h | h <;> simp [formatMap, h, frombuffer_big, swapWords] <;>
        cases frombuffer data _ <;> simp only [Except.map, List.length_map] <;>
        cases reshape _ _ _ f.height f.width <;> rfl
    · -- the others read the same on both machines
      have hmap : formatMap ⟨true, .big, bits⟩ f.pixelFormat =
          formatMap ⟨true, .little, bits⟩ f.pixelFormat := by
        simp [formatMap, not_or.1 hle]
      have hsw : swapWords f.pixelFormat = id := funext fun a => by simp [swapWords, not_or.1 hle]
      rw [hmap, hsw, Except.map_id, id, Host.maxIntp_mk, Host.maxIntp_mk]

end RustDaq.Streaming
