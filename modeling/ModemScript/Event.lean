/-!
# Events

What can be seen of a run from outside, in the order in which it happens.
-/

namespace ModemScript

inductive Event where
  /-- A device was told that it is being opened, whether or not it then refused. -/
  | opened (device : String) (baudRate : Nat) (rtsCts dsrDtr : Bool)
  /-- A device was told that it has been closed. -/
  | closed
  /-- A text was to go over an open line, whether or not the device then took it. -/
  | sent (text : String)
  | printed (text : String)
  | assigned (key value : String)
  /-- A command line was run and printed something. -/
  | ran (commandLine : String) (output : String)
  | wrote (path content : String)
  deriving DecidableEq, Repr

end ModemScript
