/-
  Questions put to the user on a console.

  Each question takes one line of the input, which ends behind its line feed or where the input
  ends.  Only a line that says yes confirms.  A line that is not UTF-8 declines, with a warning.
-/
import DaemonWatch.Text.Utf8
import DaemonWatch.Wording

namespace DaemonWatch.Console

/-- What came of a question: what was shown, whether the user confirmed, and whether the line could
not be read. -/
structure Outcome where
  shown : String
  confirmed : Bool
  warned : Bool
  deriving Repr, DecidableEq

/-- The question as it is shown, below the text if there is one. -/
def question (text info : String) : String :=
  (if text.isEmpty then "" else text ++ "\n") ++ info ++ " [y/N] "

/-- The bytes of the first line, its line feed included, and those behind it. -/
def takeLine : List UInt8 → List UInt8 × List UInt8
  | [] => ([], [])
  | b :: rest =>
    if b = 0x0A then ([b], rest)
    else
      let (line, rest) := takeLine rest
      (b :: line, rest)

/-- Asks a question and takes a line of the input. -/
def ask (input : List UInt8) (text info : String) : Outcome × List UInt8 :=
  let (line, rest) := takeLine input
  let read := Text.whole? (Text.Utf8.decode line)
  ({ shown := question text info
     confirmed := (read.map Wording.isAffirmative).getD false
     warned := read.isNone }, rest)

/-- Asks questions, each a text and what is asked below it, one after the other. -/
def askEach (input : List UInt8) : List (String × String) → List Outcome × List UInt8
  | [] => ([], input)
  | (text, info) :: later =>
    let (outcome, rest) := ask input text info
    let (outcomes, rest) := askEach rest later
    (outcome :: outcomes, rest)

end DaemonWatch.Console
