import ModemScript.Settings

/-!
# Simulated devices

A device is what stands at the other end of the line. Here it is given by its
behaviour alone: what it does, and how its state changes, when it is opened,
closed, written to, read, or asked how many bytes are waiting. Every call sees
the time in milliseconds. Nothing else is asked of a device, so what is proved of
a station with any device holds whatever the device does.
-/

namespace ModemScript

/-- The behaviour of a device with states of type `σ`. -/
structure Device (σ : Type) where
  /-- Told that it is being opened, which it may refuse with a message. A device that has no
  opinion is not told. -/
  onOpen : Option (Settings → Nat → σ → Except String Unit × σ)
  /-- Told that it has been closed. -/
  onClose : Option (Nat → σ → σ)
  write : List UInt8 → Nat → σ → Except String Unit × σ
  /-- Asked for at most so many bytes; what it gives beyond them is dropped. -/
  read : Nat → Nat → σ → List UInt8 × σ
  /-- How many bytes it says are waiting. -/
  available : Nat → σ → Nat × σ

end ModemScript
