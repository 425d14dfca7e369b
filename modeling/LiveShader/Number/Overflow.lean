/-!
# Counters that overflow

A counter of 32 bits has no value behind the last one.  A computation that would have to
advance it does not return, which is something else than to return an error.
-/

namespace LiveShader

/-- Why a computation has no result. -/
inductive Halt (error : Type) where
  /-- It returns an error. -/
  | refused (cause : error)
  /-- A counter overflows, and it does not return. -/
  | overflow
  deriving Repr, DecidableEq

/-- The same with another error. -/
def Halt.map {error other : Type} (change : error → other) : Halt error → Halt other
  | .refused cause => .refused (change cause)
  | .overflow => .overflow

namespace Number

/-- The number behind a 32-bit number; the last one has none. -/
def succ? (number : UInt32) : Option UInt32 :=
  if number.toNat + 1 < 4294967296 then some (number + 1) else none

end Number

end LiveShader
