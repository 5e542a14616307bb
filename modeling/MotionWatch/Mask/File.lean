import MotionWatch.Image.Picture
import MotionWatch.Mask.Basic

/-!
# Masks from picture files

* `SelectionMask.ofPicture`: the pixels of at least medium grey are selected.
* `SelectionMask.load`: the mask in a file.
-/

namespace MotionWatch.SelectionMask

/-- The mask that selects the pixels with a grey value of at least 128. -/
def ofPicture (p : Picture) : Except MaskError SelectionMask :=
  ofBits p.width p.height (p.pixels.map fun c => decide (128 ≤ c.luma))

/-- The mask in a file, if a picture could be read from it. -/
def load (path : String) (picture : Option Picture) : Except MaskError SelectionMask :=
  match picture with
  | some p => ofPicture p
  | none => .error (.unreadable path)

end MotionWatch.SelectionMask
