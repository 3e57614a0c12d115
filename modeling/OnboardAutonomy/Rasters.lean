import Mathlib.Data.List.Basic
import Mathlib.Data.List.Flatten

/-! Buffers that a program fills element by element, pixel after pixel and row after row. -/

namespace Rasters

variable {α : Type}

/-- Elements set one after the other, from an offset on. What is set behind the end is lost. -/
def put (data : List α) (offset : Nat) : List α → List α
  | [] => data
  | element :: block => put (data.set offset element) (offset + 1) block

theorem put_append (data : List α) (offset : Nat) (block more : List α) :
    put data offset (block ++ more) = put (put data offset block) (offset + block.length) more := by
  induction block generalizing data offset with
  | nil => rfl
  | cons element block ih =>
      rw [List.cons_append, put, put, ih, List.length_cons, Nat.add_assoc, Nat.add_comm 1]

theorem put_behind (before data block : List α) (h : block.length ≤ data.length) :
    put (before ++ data) before.length block = before ++ block ++ data.drop block.length := by
  induction block generalizing before data with
  | nil => rw [put, List.append_nil, List.length_nil, List.drop_zero]
  | cons element block ih =>
      cases data with
      | nil => exact absurd h (Nat.not_succ_le_zero _)
      | cons first data =>
          have hset : (before ++ first :: data).set before.length element = (before ++ [element]) ++ data := by
            rw [List.set_append_right _ _ (Nat.le_refl _), Nat.sub_self, List.set_cons_zero,
              List.append_cons]
          have hlength : before.length + 1 = (before ++ [element]).length := by
            rw [List.length_append, List.length_singleton]
          rw [put, hset, hlength, ih _ _ (Nat.le_of_succ_le_succ h), List.length_cons, List.drop_succ_cons,
            List.append_assoc before, List.singleton_append]

/-- Nothing is left of what was there before. -/
theorem put_whole {data block : List α} (h : block.length = data.length) : put data 0 block = block := by
  have hput := put_behind [] data block (Nat.le_of_eq h)
  rwa [List.nil_append, List.nil_append, h, List.drop_length, List.append_nil] at hput

theorem length_flatMap {size : Nat} {block : Nat → List α} (hsize : ∀ i, (block i).length = size) (n : Nat) :
    ((List.range n).flatMap block).length = size * n := by
  induction n with
  | zero => rfl
  | succ n ih =>
      rw [List.range_succ, List.flatMap_append, List.length_append, ih, List.flatMap_singleton, hsize,
        Nat.mul_succ]

/-- A loop over blocks of one size. -/
theorem foldl_put {size : Nat} {block : Nat → List α} (hsize : ∀ i, (block i).length = size) (data : List α)
    (offset n : Nat) :
    (List.range n).foldl (fun data i => put data (offset + size * i) (block i)) data =
      put data offset ((List.range n).flatMap block) := by
  induction n with
  | zero => rfl
  | succ n ih =>
      rw [List.range_succ, List.foldl_append, ih, List.flatMap_append, put_append, length_flatMap hsize,
        List.flatMap_singleton]
      rfl

/-- The pixels of a picture, row after row. -/
def rows (width height : Nat) (pixel : Nat → Nat → List α) : List α :=
  (List.range height).flatMap fun y => (List.range width).flatMap fun x => pixel y x

theorem length_rows {size : Nat} {pixel : Nat → Nat → List α} (hsize : ∀ y x, (pixel y x).length = size)
    (width height : Nat) : (rows width height pixel).length = size * width * height :=
  length_flatMap (fun y => length_flatMap (hsize y) width) height

/-- The loop over the rows and, in each, over its pixels. -/
theorem foldl_rows {size : Nat} {pixel : Nat → Nat → List α} (hsize : ∀ y x, (pixel y x).length = size)
    (data : List α) (width height : Nat) :
    (List.range height).foldl (fun data y =>
        (List.range width).foldl (fun data x => put data (size * (y * width + x)) (pixel y x)) data) data =
      put data 0 (rows width height pixel) := by
  rw [rows, ← foldl_put (fun y => length_flatMap (hsize y) width)]
  congr 1
  funext data y
  rw [Nat.zero_add, Nat.mul_assoc, Nat.mul_comm width, ← foldl_put (hsize y)]
  congr 1
  funext data x
  rw [Nat.mul_add]

/-! ### Pictures of three planes -/

/-- A picture with a brightness for each pixel and two colour differences for each square of four. -/
structure Planes where
  width : Nat
  height : Nat
  luma : List UInt8
  u : List UInt8
  v : List UInt8

/-- A colour of BT.601 in 256ths, rounded and cut off at the ends. -/
def channel (value : Int) : UInt8 := UInt8.ofNat (max 0 (min 255 (value / 256))).toNat

/-- Red, green, blue and full opacity. -/
def colour (luma u v : UInt8) : List UInt8 :=
  let c : Int := max 0 (luma.toNat - 16)
  let d : Int := u.toNat - 128
  let e : Int := v.toNat - 128
  [channel (298 * c + 409 * e + 128), channel (298 * c - 100 * d - 208 * e + 128),
    channel (298 * c + 516 * d + 128), 255]

namespace Planes

/-- The planes of a buffer in which they follow each other. -/
def ofBytes (width height : Nat) (bytes : List UInt8) : Planes where
  width := width
  height := height
  luma := bytes.take (width * height)
  u := (bytes.drop (width * height)).take (width / 2 * (height / 2))
  v := bytes.drop (width * height + width / 2 * (height / 2))

def pixel (picture : Planes) (y x : Nat) : List UInt8 :=
  let chroma := y / 2 * (picture.width / 2) + x / 2
  colour (picture.luma[y * picture.width + x]?.getD 0) (picture.u[chroma]?.getD 0) (picture.v[chroma]?.getD 0)

/-- The picture in red, green, blue and opacity. -/
def rgba (picture : Planes) : List UInt8 := rows picture.width picture.height picture.pixel

theorem length_pixel (picture : Planes) (y x : Nat) : (picture.pixel y x).length = 4 := rfl

theorem length_rgba (picture : Planes) : picture.rgba.length = 4 * picture.width * picture.height :=
  length_rows picture.length_pixel picture.width picture.height

end Planes

end Rasters
