/-!
# Durations

Lengths of time in whole nanoseconds.  What is written down or waited for is whole milliseconds: a
duration that is written down loses the rest, one that is waited for is rounded up.
-/

namespace SmbExchange

structure Duration where
  nanoseconds : Nat
  /-- There are fewer than two to the sixty-fourth seconds. -/
  isBounded : nanoseconds < UInt64.size * 1_000_000_000
  deriving DecidableEq, Repr

namespace Duration

def ofMilliseconds (count : UInt64) : Duration :=
  ⟨count.toNat * 1_000_000, by have hcount := count.toNat_lt_size; omega⟩

def ofMicroseconds (count : UInt64) : Duration :=
  ⟨count.toNat * 1_000, by have hcount := count.toNat_lt_size; omega⟩

def milliseconds (duration : Duration) : Nat :=
  duration.nanoseconds / 1_000_000

def seconds (duration : Duration) : Nat :=
  duration.nanoseconds / 1_000_000_000

/-- The milliseconds after which the duration is over. -/
def ticks (duration : Duration) : Nat :=
  (duration.nanoseconds + 999_999) / 1_000_000

@[simp]
theorem milliseconds_ofMilliseconds (count : UInt64) :
    (ofMilliseconds count).milliseconds = count.toNat := by
  simp [ofMilliseconds, milliseconds]

end Duration

end SmbExchange
