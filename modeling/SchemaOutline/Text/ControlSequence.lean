/-!
# Control sequences

A control sequence tells a terminal what to do: an escape and an opening bracket, parameters, and a
letter. Text that does not go to a terminal is printed without them.
-/

set_option autoImplicit false

namespace SchemaOutline.Text

def isParameter (c : Char) : Bool := c.isDigit || c == ';' || c == '?'

def behindSequence? : List Char → Option (List Char)
  | '\x1b' :: '[' :: rest =>
    match rest.dropWhile isParameter with
    | final :: after => if final.isAlpha then some after else none
    | [] => none
  | _ => none

def withoutSequencesWithin : Nat → List Char → List Char
  | 0, cs => cs
  | _, [] => []
  | fuel + 1, c :: rest =>
    match behindSequence? (c :: rest) with
    | some after => withoutSequencesWithin fuel after
    | none => c :: withoutSequencesWithin fuel rest

def withoutSequences (cs : List Char) : List Char := withoutSequencesWithin cs.length cs

end SchemaOutline.Text
