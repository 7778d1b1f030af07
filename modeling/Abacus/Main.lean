import Abacus.Console

/-! The command line. -/

namespace Abacus.Console

/-- An input with a newline for every line end, however it is written: as a newline, as a carriage
return, or as the two of them. -/
def received : Text → Text
  | '\r' :: '\n' :: rest | '\r' :: rest => '\n' :: received rest
  | char :: rest => char :: received rest
  | [] => []

example : received "1\r2\r\n3\n".toList = "1\n2\n3\n".toList := rfl

end Abacus.Console

open Abacus Abacus.Console in
def main (arguments : List String) : IO UInt32 := do
  let request := Request.ofTexts (arguments.map String.toList)
  let input ← if request.readsInput then (← IO.getStdin).readToEnd else pure ""
  let transcript := answer request (received input.toList)
  IO.print (String.ofList transcript.text)
  match transcript.ending with
  | .ok code => return code.toUInt32
  | .error failure =>
    IO.eprintln (String.ofList failure.message)
    return 1
