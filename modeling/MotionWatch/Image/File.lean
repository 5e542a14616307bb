import MotionWatch.Image.Jpeg
import MotionWatch.Image.Netpbm
import MotionWatch.Image.Png

/-!
# Picture files

The extension of its name tells how a picture file is read, in any case.

* `fileExtension?`: the part of a name behind its last point.
* `PictureFormat.ofFileName?`, `PictureFormat.decode`: how a file is read.
* `readPicture`: the picture in a file.
-/

namespace MotionWatch

/-- The part of a file name behind its last point. A point at the start only hides the file. -/
def fileExtension? (path : String) : Option String :=
  let name := (path.toList.reverse.takeWhile (· ≠ '/'))
  match name.dropWhile (· ≠ '.') with
  | _ :: _ :: _ => some (.ofList (name.takeWhile (· ≠ '.')).reverse)
  | _ => none

/-- The known formats of pictures. -/
inductive PictureFormat where
  | netpbm
  | png
  | jpeg
  deriving DecidableEq, Repr

namespace PictureFormat

/-- The format that goes with an extension. -/
def ofExtension? (extension : String) : Option PictureFormat :=
  let e := String.ofList (extension.toList.map Char.toLower)
  if e = "pbm" ∨ e = "pgm" ∨ e = "ppm" ∨ e = "pnm" ∨ e = "pam" then some netpbm
  else if e = "png" ∨ e = "apng" then some png
  else if e = "jpg" ∨ e = "jpeg" ∨ e = "jfif" then some jpeg
  else none

/-- The format that goes with the name of a file. -/
def ofFileName? (path : String) : Option PictureFormat := fileExtension? path >>= ofExtension?

/-- Reads a file of the format. -/
def decode : PictureFormat → List UInt8 → Option Picture
  | netpbm => decodeNetpbm
  | png => decodePng
  | jpeg => decodeJpeg

end PictureFormat

/-- The picture in a file, if the file exists and its format is known. -/
def readPicture (path : String) (content : Option (List UInt8)) : Option Picture := do
  (← PictureFormat.ofFileName? path).decode (← content)

end MotionWatch
