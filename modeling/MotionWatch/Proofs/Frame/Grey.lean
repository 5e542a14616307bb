import MotionWatch.Frame.Convert
import MotionWatch.Proofs.Raster

/-!
# The grey picture of a frame

* `create_eq_ok_iff`: when a frame is made.
* `length_toRgb`, `length_lumas`: a frame that can be converted has three bytes and one grey value
  for every pixel, and `countable_of_toRgb`: there are not too many to count.
* `Frame.grey?`: the grey values as a raster; `grey?_eq_some_iff`.
* `Frame.Paintable`, `Frame.flat`: frames of one colour, and the sizes of which there are any.
-/

namespace MotionWatch

theorem length_bytesOfPixels (ps : List Rgb) : (bytesOfPixels ps).length = ps.length * 3 := by
  induction ps with
  | nil => rfl
  | cons p ps ih =>
    rw [bytesOfPixels, List.flatMap_cons, List.length_append, List.length_cons, Nat.succ_mul,
      Nat.add_comm]
    exact congrArg (· + 3) ih

/-- A list without four first bytes has fewer. -/
theorem length_lt_of_no_pair {bytes : List UInt8}
    (h : ∀ y₀ u y₁ v rest, bytes = y₀ :: u :: y₁ :: v :: rest → False) : bytes.length < 4 := by
  match bytes, h with
  | [], _ | [_], _ | [_, _], _ | [_, _, _], _ => simp
  | y₀ :: u :: y₁ :: v :: rest, h => exact (h y₀ u y₁ v rest rfl).elim

theorem length_pixelsOfYuyv (bytes : List UInt8) :
    (pixelsOfYuyv bytes).length = bytes.length / 4 * 2 := by
  fun_induction pixelsOfYuyv bytes with
  | case1 y₀ u y₁ v rest ih =>
    simp only [List.length_cons, ih]
    omega
  | case2 bytes hshort => rw [Nat.div_eq_of_lt (length_lt_of_no_pair hshort), List.length_nil]

/-! ## Making frames -/

namespace IsFrame

variable {width height : Nat} {encoding : Encoding} {data : List UInt8}

end IsFrame

namespace Frame

variable {decode : Decoder} {f g : Frame} {rgb : List UInt8}

/-- A stream that can be converted is a picture of the size that the frame claims. -/
theorem exists_picture_of_toRgb (hencoding : f.encoding = .jpeg) (hrgb : f.toRgb decode = .ok rgb) :
    ∃ picture, decode f.data = some picture ∧ picture.width = f.width ∧
      picture.height = f.height ∧ rgb = bytesOfPixels picture.pixels := by
  unfold toRgb at hrgb
  rw [hencoding] at hrgb
  dsimp only at hrgb
  split at hrgb
  · cases hrgb
  next picture hpicture =>
  split at hrgb
  · next hdim =>
    obtain ⟨hwidth, hheight⟩ := Prod.mk.inj hdim
    exact ⟨picture, hpicture, hwidth, hheight, (Except.ok.inj hrgb).symm⟩
  · cases hrgb

/-- **A frame that can be converted has three bytes for every pixel.** -/
theorem length_toRgb (hrgb : f.toRgb decode = .ok rgb) :
    rgb.length = f.width * f.height * 3 := by
  cases hencoding : f.encoding with
  | rgb =>
    unfold toRgb at hrgb
    rw [hencoding] at hrgb
    obtain rfl := Except.ok.inj hrgb
    exact f.checked.length _ (by rw [hencoding]; rfl)
  | yuyv =>
    unfold toRgb at hrgb
    rw [hencoding] at hrgb
    obtain rfl := Except.ok.inj hrgb
    have hlength : f.data.length = f.width * f.height * 2 :=
      f.checked.length _ (by rw [hencoding]; rfl)
    -- The width is even, so the bytes are whole pairs.
    obtain ⟨half, hhalf⟩ := Nat.dvd_of_mod_eq_zero (f.checked.even hencoding)
    have hdata : f.data.length = half * f.height * 4 := by
      rw [hlength, hhalf, Nat.mul_comm 2 half, Nat.mul_right_comm half, Nat.mul_assoc]
    rw [length_bytesOfPixels, length_pixelsOfYuyv, hdata, Nat.mul_div_cancel _ (by decide), hhalf,
      Nat.mul_comm 2 half, Nat.mul_right_comm half]
  | jpeg =>
    obtain ⟨picture, -, hwidth, hheight, rfl⟩ := exists_picture_of_toRgb hencoding hrgb
    rw [length_bytesOfPixels, picture.complete, hwidth, hheight]

/-- The bytes of a frame that can be converted can be counted. -/
theorem countable_of_toRgb (hrgb : f.toRgb decode = .ok rgb) :
    f.width * f.height * 3 ≤ maxCount := by
  by_cases hencoding : f.encoding = .jpeg
  · obtain ⟨picture, -, hwidth, hheight, -⟩ := exists_picture_of_toRgb hencoding hrgb
    rw [← hwidth, ← hheight, ← picture.complete]
    exact picture.countable
  · exact f.checked.countable hencoding

theorem area_le_of_toRgb (hrgb : f.toRgb decode = .ok rgb) : f.area ≤ maxCount := by
  have hcount := countable_of_toRgb hrgb
  unfold area
  omega

theorem length_lumas (hrgb : f.toRgb decode = .ok rgb) :
    (lumasOfRgb rgb).length = f.width * f.height := by
  rw [lumasOfRgb, List.length_map, length_pixelsOfRgb, length_toRgb hrgb,
    Nat.mul_div_cancel _ (by decide)]

/-- The grey values as a raster, if the frame can be converted. -/
def grey? (decode : Decoder) (f : Frame) : Option (Raster UInt8) :=
  (f.luma decode).toOption.map fun values => ⟨f.width, f.height, values.toArray⟩

/-- A frame has grey values if it can be converted. -/
theorem grey?_eq_some_iff {grey : Raster UInt8} : f.grey? decode = some grey ↔
    ∃ rgb, f.toRgb decode = .ok rgb ∧ grey = ⟨f.width, f.height, (lumasOfRgb rgb).toArray⟩ := by
  unfold grey? luma
  cases f.toRgb decode with
  | error e => exact iff_of_false nofun fun ⟨_, h, _⟩ => nomatch h
  | ok rgb =>
    refine ⟨fun h => ⟨rgb, rfl, (Option.some.inj h).symm⟩, ?_⟩
    rintro ⟨rgb', hrgb', rfl⟩
    rw [← Except.ok.inj hrgb']
    rfl

/-! ## Frames of one colour -/

/-- A size of which there are frames with three bytes for every pixel. -/
def Paintable (width height : Nat) : Prop :=
  0 < width ∧ 0 < height ∧ width * height * 3 ≤ maxCount

theorem Paintable.isFrame {width height : Nat} (h : Paintable width height) (v : UInt8) :
    IsFrame width height .rgb (.replicate (width * height * 3) v) where
  width_pos := h.1
  height_pos := h.2.1
  even := nofun
  length := fun n hn => List.length_replicate.trans (Option.some.inj hn)
  countable := fun _ => h.2.2
  ne_nil := by
    have hpos := Nat.mul_pos h.1 h.2.1
    exact List.ne_nil_of_length_pos (by rw [List.length_replicate]; omega)

theorem paintable_one : Paintable 1 1 := ⟨Nat.one_pos, Nat.one_pos, by decide⟩

theorem paintable_two : Paintable 2 2 := ⟨Nat.two_pos, Nat.two_pos, by decide⟩

/-- A frame all of whose bytes are the same. -/
def flat (ts : Nat) {width height : Nat} (h : Paintable width height) (v : UInt8) : Frame :=
  ⟨ts, width, height, .rgb, .replicate (width * height * 3) v, h.isFrame v⟩

end Frame

end MotionWatch
