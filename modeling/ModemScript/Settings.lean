import ModemScript.Terminator

/-!
# Settings of a station

Which device is used and how: its speed and flow control, the text that ends a
command, and how long replies are waited for. A reply has no end mark, so it is
taken to be over when the device has been quiet for the window, the time in which
a given number of bits would have been sent.
-/

namespace ModemScript

/-- A length of time in nanoseconds. -/
abbrev Nanoseconds := Nat

namespace Nanoseconds

/-- Nanoseconds in a millisecond and in a second. -/
def perMillisecond : Nat := 1_000_000

def perSecond : Nat := 1_000_000_000

/-- The longest time there is: the last nanosecond before `2 ^ 64` seconds. -/
def longest : Nanoseconds := UInt64.size * perSecond - 1

/-- The whole number nearest to `n / d`; of two equally near, the even one. -/
def roundDiv (n d : Nat) : Nat :=
  let q := n / d
  let r := n % d
  if 2 * r < d then q
  else if 2 * r > d then q + 1
  else q + q % 2

/-- A number of seconds to the nearest nanosecond. A negative number or none at all is no
time, and from `2 ^ 64` seconds on it is the longest. -/
def ofSeconds (x : Float) : Nanoseconds :=
  let bits := x.toBits.toNat
  let fraction := bits % 1 <<< 52
  let exponent := bits >>> 52 % 1 <<< 11
  let isNegative := bits >>> 63 == 1
  if exponent == 2047 then if fraction == 0 && !isNegative then longest else 0
  else if isNegative then 0
  else
    -- The value is `m * 2 ^ e / 2 ^ 1075`.
    let (m, e) := if exponent == 0 then (fraction, 1) else (fraction + 1 <<< 52, exponent)
    let n := m <<< e
    let d := 1 <<< 1075
    if UInt64.size * d ≤ n then longest else roundDiv (n * perSecond) d

/-- The first full millisecond by which the time is over. -/
def ceilMilliseconds (t : Nanoseconds) : Nat := (t + perMillisecond - 1) / perMillisecond

end Nanoseconds

/-- How a station talks to its device. -/
structure Settings where
  device : Option String
  baudRate : Option Nat
  /-- The seconds that a reply is waited for unless its command says otherwise. -/
  timeout : Nat
  terminator : Terminator
  rtsCts : Bool
  dsrDtr : Bool
  /-- The window in bits: divided by the baud rate it is a time in seconds. -/
  windowBits : Float

namespace Settings

/-- The seconds of waiting that hold when nothing else is said. -/
def defaultTimeout : Nat := 10

/-- The speed that is reckoned with while none is known. -/
def fallbackBaudRate : Nat := 9600

def new (device : Option String) (baudRate : Option Nat) : Settings where
  device := device
  baudRate := baudRate
  timeout := defaultTimeout
  terminator := .crlf
  rtsCts := false
  dsrDtr := false
  windowBits := 100

/-- The settings with another time of waiting. No time brings back the usual one. -/
def withTimeout (s : Settings) (seconds : Int) : Settings :=
  { s with timeout := if 0 < seconds then seconds.toNat else defaultTimeout }

/-- Whether there is a device to open and a speed to open it with. -/
def isComplete (s : Settings) : Bool := s.device.isSome && s.baudRate.isSome

/-- How long a device must be quiet until its reply counts as complete. -/
def window (s : Settings) : Nanoseconds :=
  let rate := (s.baudRate.filter (0 < ·)).getD fallbackBaudRate
  .ofSeconds (s.windowBits / Float.ofNat rate)

end Settings

end ModemScript
