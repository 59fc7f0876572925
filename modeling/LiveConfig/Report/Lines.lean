import LiveConfig.Value.Flatten

/-!
# Printing lines

Lines are made and printed one after another, so that those before a line that cannot be made or
printed are printed nevertheless.  The output is taken for no terminal: the sequences that set
colours and the like are left out, and a carriage return with a line feed is a line feed.
-/

namespace LiveConfig

/-- A line without its end, or why it cannot be made. -/
abbrev Line := Except Failure Text

namespace Report

/-- Whether a code point is a character between two others. -/
def isBetween (low high : Char) : CodePoint → Bool
  | .char c => low ≤ c && c ≤ high
  | .surrogate _ => false

/--
The rest after the terminal sequence that starts here, if one does: the mark of its start,
parameters, intermediate characters and the final one, each kind in a range of its own.
-/
def skipSequence? : List CodePoint → Option (List CodePoint)
  | .char '\x1b' :: .char '[' :: rest =>
    match (rest.dropWhile (isBetween '0' '?')).dropWhile (isBetween ' ' '/') with
    | p :: rest => if isBetween '@' '~' p then some rest else none
    | [] => none
  | _ => none

/-- Some code points without terminal sequences, of which there are at most `n`. -/
def dropSequences : Nat → List CodePoint → List CodePoint
  | 0, ps => ps
  | _ + 1, [] => []
  | n + 1, p :: ps =>
    match skipSequence? (p :: ps) with
    | some rest => dropSequences n rest
    | none => p :: dropSequences n ps

/-- A text without terminal sequences. -/
def withoutSequences (t : Text) : Text :=
  ⟨dropSequences t.points.length t.points⟩

/-- A text as it is printed; surrogates keep it from that. -/
def printed (t : Text) : Except Failure String :=
  let t := withoutSequences t
  match Text.Utf8.unwritable? t with
  | some surrogates => .error (.unwritable surrogates)
  | none => .ok t.plain

/-- Prints lines after some output, up to the first one that cannot be made or printed. -/
def printAfter (output : String) : List Line → String × Option Failure
  | [] => (output, none)
  | line :: rest =>
    match line >>= printed with
    | .ok s => printAfter (output ++ s ++ "\n") rest
    | .error failure => (output, some failure)

/-- Some characters without every carriage return that a line feed follows. -/
def dropReturns : List Char → List Char
  | '\r' :: '\n' :: cs => '\n' :: dropReturns cs
  | c :: cs => c :: dropReturns cs
  | [] => []

/-- Output with line feeds for line ends. -/
def withLineFeeds (output : String) : String :=
  String.ofList (dropReturns output.toList)

/-- Prints lines: the output, and the failure that ended it. -/
def printAll (lines : List Line) : String × Option Failure :=
  let (output, failure) := printAfter "" lines
  (withLineFeeds output, failure)

/-- The line that reports a failure to the user. -/
def errorLine (failure : Failure) : Text :=
  withoutSequences ("Error: " ++ failure.message) ++ "\n"

end Report

end LiveConfig
