import MotionWatch.Text.Blank

/-!
# Lists of settings on one line

A detector takes its settings as one line such as `threshold=16, min_size=0.1`. Entries are
separated by commas, and an entry is split at its first equals sign.

* `entry`: one entry as a key and a value, both stripped.
* `KeyValue.parse`: all entries of a line, in order, blank ones left out.
* `KeyValue.render`: the line with the given pairs.
-/

namespace MotionWatch.Text

namespace KeyValue

/-- An entry as key and value. Without an equals sign the value is empty. -/
def entry (cs : List Char) : List Char × List Char :=
  match cs.dropWhile (· ≠ '=') with
  | [] => (cs, [])
  | _ :: value => (strip (cs.takeWhile (· ≠ '=')), strip value)

/-- The pairs of a line, over characters. -/
def parseChars (cs : List Char) : List (List Char × List Char) :=
  (((cs.splitOn ',').map strip).filter (fun e => !e.isEmpty)).map entry

/-- The pairs of a line, in order. -/
def parse (line : String) : List (String × String) :=
  (parseChars line.toList).map fun (k, v) => (.ofList k, .ofList v)

/-- One pair as it is written. -/
def renderEntry (p : List Char × List Char) : List Char := p.1 ++ '=' :: p.2

/-- The line that holds exactly these pairs. -/
def renderChars (ps : List (List Char × List Char)) : List Char :=
  [','].intercalate (ps.map renderEntry)

/-- The line that holds exactly these pairs. -/
def render (ps : List (String × String)) : String :=
  .ofList (renderChars (ps.map fun (k, v) => (k.toList, v.toList)))

end KeyValue

end MotionWatch.Text
