import Chronicle.Shell.Basic
import Chronicle.Shell.Format
import Chronicle.Text.Lines

/-!
The utilities of the shell: each takes arguments and an input, writes to the two outputs and has a
status.
-/

namespace Chronicle.Shell

/-- What a utility has written, and its status. -/
structure Effect where
  writes : List (Output × List UInt8)
  status : Nat
deriving DecidableEq, Repr, Inhabited

namespace Effect

def quiet (status : Nat) : Effect := ⟨[], status⟩

def prints (bs : List UInt8) : Effect := ⟨[(.standard, bs)], 0⟩

def printsText (s : String) : Effect := prints (Text.Utf8.encode s)

def complains (s : String) (status : Nat) : Effect :=
  ⟨[(.error, Text.Utf8.encode (s ++ "\n"))], status⟩

end Effect

namespace Utility

/-- A number written in decimal digits. -/
def nat? (s : String) : Option Nat :=
  let cs := s.toList
  if !cs.isEmpty && cs.all Char.isDigit then some (Format.intOf s).toNat else none

def int? (s : String) : Option Int :=
  match s.toList with
  | '-' :: cs => (nat? (String.ofList cs)).map fun n => -(n : Int)
  | _ => (nat? s).map fun n => (n : Int)

/-- Whether an argument is a set of flags for `echo`. -/
def isEchoFlag (s : String) : Bool :=
  match s.toList with
  | '-' :: c :: cs => (c :: cs).all fun c => c = 'n' || c = 'e' || c = 'E'
  | _ => false

def echo (arguments : List String) : Effect :=
  let flags := arguments.takeWhile isEchoFlag
  let has (c : Char) : Bool := flags.any fun f => f.toList.contains c
  let text := " ".intercalate (arguments.drop flags.length)
  let body := if has 'e' then Format.unescape text.length text.toList else Text.Utf8.encode text
  .prints (if has 'n' then body else body ++ [10])

def printf (arguments : List String) : Effect :=
  match arguments with
  | [] => .complains "printf: usage: printf [-v var] format [arguments]" 2
  | "--" :: format :: rest => .prints (Format.print rest.length format.toList rest)
  | format :: rest => .prints (Format.print rest.length format.toList rest)

/-- The numbers from `first` on in steps until `last` is passed; `fuel` bounds their number. -/
def countUp (fuel : Nat) (first step last : Int) : List Int :=
  match fuel with
  | 0 => []
  | fuel + 1 =>
    if (0 < step ∧ last < first) ∨ (step < 0 ∧ first < last) then []
    else first :: countUp fuel (first + step) step last

def sequence (first step last : Int) : Effect :=
  if step = 0 then .complains "seq: invalid Zero increment value: '0'" 1
  else
    let numbers := countUp ((last - first).natAbs / step.natAbs + 1) first step last
    .printsText (String.join (numbers.map fun n => toString n ++ "\n"))

def seq (arguments : List String) : Effect :=
  match arguments.mapM int? with
  | some [last] => sequence 1 1 last
  | some [first, last] => sequence first 1 last
  | some [first, step, last] => sequence first step last
  | _ => .complains "seq: missing operand" 1

/-- The whole lines of an input, each with its end. -/
def fullLines (current : List UInt8) : List UInt8 → List (List UInt8)
  | [] => if current.isEmpty then [] else [current.reverse]
  | b :: bs => if b = 10 then (b :: current).reverse :: fullLines [] bs else fullLines (b :: current) bs

/-- The number of an option such as `-n 3`, `-n3` or `-3`, when there is no file. -/
def count? (letter : Char) (arguments : List String) : Option Nat :=
  match arguments with
  | [] => some 10
  | [a] =>
    match a.toList with
    | '-' :: c :: cs => nat? (String.ofList (if c = letter then cs else c :: cs))
    | _ => none
  | [a, n] => if a = String.ofList ['-', letter] then nat? n else none
  | _ => none

def head (arguments : List String) (input : List UInt8) : Effect :=
  match count? 'n' arguments, count? 'c' arguments with
  | some n, _ => .prints ((fullLines [] input).take n).flatten
  | none, some n => .prints (input.take n)
  | none, none => .complains "head: invalid option" 1

def tail (arguments : List String) (input : List UInt8) : Effect :=
  let lines := fullLines [] input
  match count? 'n' arguments, count? 'c' arguments with
  | some n, _ => .prints (lines.drop (lines.length - n)).flatten
  | none, some n => .prints (input.drop (input.length - n))
  | none, none => .complains "tail: invalid option" 1

def wc (arguments : List String) (input : List UInt8) : Effect :=
  match arguments with
  | ["-l"] => .printsText (toString (input.count 10) ++ "\n")
  | ["-c"] => .printsText (toString input.length ++ "\n")
  | _ => .complains "wc: invalid option" 1

/-- The contents of a file named on the command line; there are none but the empty device. -/
def cat (arguments : List String) (input : List UInt8) : Effect :=
  if arguments.isEmpty then .prints input
  else
    let parts := arguments.map fun a =>
      if a = "-" then Effect.prints input
      else if a = "/dev/null" then .quiet 0
      else .complains ("cat: " ++ a ++ ": No such file or directory") 1
    ⟨parts.flatMap (·.writes), if parts.all (·.status = 0) then 0 else 1⟩

/-- Comparisons of texts and numbers. -/
def test (arguments : List String) : Effect :=
  let truth (b : Bool) : Effect := .quiet (if b then 0 else 1)
  let compare (a b : String) (p : Int → Int → Bool) : Effect :=
    match int? a, int? b with
    | some x, some y => truth (p x y)
    | _, _ => .quiet 2
  match arguments with
  | [] => truth false
  | ["-n", s] => truth (!s.isEmpty)
  | ["-z", s] => truth s.isEmpty
  | [s] => truth (!s.isEmpty)
  | [a, "=", b] => truth (a == b)
  | [a, "==", b] => truth (a == b)
  | [a, "!=", b] => truth (a != b)
  | [a, "-eq", b] => compare a b fun x y => x == y
  | [a, "-ne", b] => compare a b fun x y => x != y
  | [a, "-lt", b] => compare a b fun x y => decide (x < y)
  | [a, "-le", b] => compare a b fun x y => decide (x ≤ y)
  | [a, "-gt", b] => compare a b fun x y => decide (y < x)
  | [a, "-ge", b] => compare a b fun x y => decide (y ≤ x)
  | _ => .quiet 2

end Utility

/-- Runs a utility by its name. -/
def runUtility (name : String) (arguments : List String) (input : List UInt8) : Effect :=
  match name with
  | "true" => .quiet 0
  | ":" => .quiet 0
  | "false" => .quiet 1
  | "sleep" => .quiet 0
  | "echo" => Utility.echo arguments
  | "printf" => Utility.printf arguments
  | "seq" => Utility.seq arguments
  | "cat" => Utility.cat arguments input
  | "head" => Utility.head arguments input
  | "tail" => Utility.tail arguments input
  | "wc" => Utility.wc arguments input
  | "test" => Utility.test arguments
  | "[" => Utility.test arguments.dropLast
  | _ => .complains ("bash: line 1: " ++ name ++ ": command not found") 127

end Chronicle.Shell
