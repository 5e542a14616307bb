/-!
# Noise

Numbers that look random, so that what simulated devices deliver is never the same twice. They
are a function of a position, which is all that there is to their state.

* `noise`: the number at a position.
-/

namespace MotionWatch

/-- Mixes the bits of a number, so that neighbours have nothing in common. -/
def scramble (x : UInt64) : UInt64 :=
  let x := (x + 1) * 0x9e3779b97f4a7c15
  let x := (x ^^^ (x >>> 30)) * 0xbf58476d1ce4e5b9
  let x := (x ^^^ (x >>> 27)) * 0x94d049bb133111eb
  x ^^^ (x >>> 31)

/-- A number up to a limit that depends on a position only. -/
def noise (limit position : Nat) : Nat := (scramble (.ofNat position)).toNat % (limit + 1)

end MotionWatch
