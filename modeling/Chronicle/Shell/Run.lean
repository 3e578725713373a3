import Chronicle.Shell.Reader
import Chronicle.Shell.Utility

/-!
Running a command line.  A command reads its input as a whole and writes in an order; it ends by
itself, by leaving the shell, or by a signal to the shell.

The modules of `Chronicle.Shell` stand in for the few parts of a shell and its utilities that sessions
run from the command line call on.  They are there so that the program runs: `runLine` is only what the
program gives to `Headless.run` for its argument `exec`, and no result speaks of them.  What is proved
about commands holds for every `exec`, whatever a command line does (`ProcessRun`).
-/

namespace Chronicle.Shell

/-- The variables of a shell, and the status of its last command. -/
structure Env where
  bindings : List (String × String)
  status : Nat
deriving DecidableEq, Repr, Inhabited

namespace Env

def start : Env := ⟨[], 0⟩

def get (x : Env) (name : String) : String := (x.bindings.lookup name).getD ""

def set (x : Env) (name value : String) : Env :=
  { x with bindings := (name, value) :: x.bindings }

/-- The text that stands for the number of the shell's process. -/
def processText : String := "1"

def expandPart (x : Env) : Part → String
  | .text cs => String.ofList cs
  | .variable name => x.get name
  | .status => toString x.status
  | .process => processText

/-- The text of a word. -/
def expand (x : Env) (w : Word) : String := String.join (w.map x.expandPart)

/-- The texts of words.  One that is only a variable without a value is left out. -/
def expandAll (x : Env) (ws : List Word) : List String :=
  ws.filterMap fun w =>
    match w with
    | [.variable name] => if (x.get name).isEmpty then none else some (x.get name)
    | w => some (x.expand w)

end Env

/-- Whether the shell goes on. -/
inductive Flow where
  | next
  | leave
  | killed
deriving DecidableEq, Repr, Inhabited

/-- What a command has done. -/
structure Done where
  writes : List (Output × List UInt8)
  env : Env
  flow : Flow
deriving DecidableEq, Repr, Inhabited

/-- The shell after a utility. -/
def afterEffect (x : Env) (e : Effect) : Done := ⟨e.writes, { x with status := e.status }, .next⟩

/-- Leaves the shell with a status of eight bits. -/
def leave (x : Env) (arguments : List String) : Done :=
  match arguments with
  | [] => ⟨[], x, .leave⟩
  | n :: _ =>
    match Utility.int? n with
    | some n => ⟨[], { x with status := (n % 256).toNat }, .leave⟩
    | none =>
      let e := Effect.complains ("bash: line 1: exit: " ++ n ++ ": numeric argument required") 2
      { afterEffect x e with flow := .leave }

/-- Sends a signal; one to the shell ends it, unless it only asks whether the shell is there. -/
def kill (x : Env) (arguments : List String) : Done :=
  if arguments.contains Env.processText then
    if arguments.head? = some "-0" then afterEffect x (.quiet 0) else ⟨[], x, .killed⟩
  else afterEffect x (.quiet 1)

/-- Runs a command given as texts. -/
def runTexts (x : Env) (input : List UInt8) : List String → Done
  | [] => ⟨[], { x with status := 0 }, .next⟩
  | "exit" :: arguments => leave x arguments
  | "kill" :: arguments => kill x arguments
  | "exec" :: [] => ⟨[], x, .next⟩
  | "exec" :: name :: arguments =>
    { afterEffect x (runUtility name arguments input) with flow := .leave }
  | name :: arguments => afterEffect x (runUtility name arguments input)

/-- Where an output goes after redirections, which are done from left to right. -/
def targetOf (rs : List Redirection) (o : Output) : Target :=
  let targets := rs.foldl (fun (targets : Target × Target) r =>
    let target := match r.target with
      | .output .standard => targets.1
      | .output .error => targets.2
      | .discard => .discard
    match r.source with
    | .standard => (target, targets.2)
    | .error => (targets.1, target)) (.output .standard, .output .error)
  match o with
  | .standard => targets.1
  | .error => targets.2

/-- What is written after redirections. -/
def redirectWrites (rs : List Redirection) (ws : List (Output × List UInt8)) :
    List (Output × List UInt8) :=
  ws.filterMap fun w =>
    match targetOf rs w.1 with
    | .output o => some (o, w.2)
    | .discard => none

/-- The bytes written to one output. -/
def writtenTo (o : Output) (ws : List (Output × List UInt8)) : List UInt8 :=
  ws.flatMap fun w => if w.1 = o then w.2 else []

/-- What a part of a command line that ran in a shell of its own leaves of its end. -/
def forgetLeave : Flow → Flow
  | .leave => .next
  | f => f

mutual

/-- Runs a command; `fuel` bounds how deep it is. -/
def run (fuel : Nat) (x : Env) (input : List UInt8) (c : Command) : Done :=
  match fuel with
  | 0 => ⟨[], x, .next⟩
  | fuel + 1 =>
    match c with
    | .nothing => ⟨[], x, .next⟩
    | .simple assignments words =>
      let y := assignments.foldl (fun y (name, w) => y.set name (y.expand w)) x
      runTexts y input (y.expandAll words)
    | .redirect body rs =>
      let d := run fuel x input body
      { d with writes := redirectWrites rs d.writes }
    | .sequence first second => runIf fuel x input first second fun _ => true
    | .both first second => runIf fuel x input first second (· == 0)
    | .either first second => runIf fuel x input first second (· != 0)
    | .pipe first second =>
      let d := run fuel x input first
      let e := run fuel x (writtenTo .standard d.writes) second
      let flow := if d.flow = .killed then .killed else forgetLeave e.flow
      ⟨d.writes.filter (·.1 = .error) ++ e.writes, { x with status := e.env.status }, flow⟩
    | .negate body =>
      let d := run fuel x input body
      { d with env := { d.env with status := if d.env.status = 0 then 1 else 0 } }
    | .subshell body =>
      let d := run fuel x input body
      ⟨d.writes, { x with status := d.env.status }, forgetLeave d.flow⟩
    | .loop name items body => runLoop fuel x input name (x.expandAll items) body

/-- Runs a command, and another after it when its status is right. -/
def runIf (fuel : Nat) (x : Env) (input : List UInt8) (first second : Command)
    (goesOn : Nat → Bool) : Done :=
  match fuel with
  | 0 => ⟨[], x, .next⟩
  | fuel + 1 =>
    let d := run fuel x input first
    if d.flow = .next && goesOn d.env.status then
      let e := run fuel d.env input second
      { e with writes := d.writes ++ e.writes }
    else d

/-- Runs a command once for every value of a variable. -/
def runLoop (fuel : Nat) (x : Env) (input : List UInt8) (name : String) (values : List String)
    (body : Command) : Done :=
  match fuel, values with
  | 0, _ => ⟨[], x, .next⟩
  | _, [] => ⟨[], x, .next⟩
  | fuel + 1, v :: values =>
    let d := run fuel (x.set name v) input body
    if d.flow = .next then
      let e := runLoop fuel d.env input name values body
      { e with writes := d.writes ++ e.writes }
    else d

end

/-- The end of a shell. -/
def Done.ending (d : Done) : ProcessEnd :=
  match d.flow with
  | .killed => .killed
  | _ => .exited d.env.status

/-- Runs a command line with no input.  One that cannot be read has the status two. -/
def runLine (line : String) : ProcessRun :=
  match Reader.read? line with
  | none => ⟨[], .exited 2⟩
  | some c =>
    let d := run (16 * line.length + 16) .start [] c
    ⟨d.writes, d.ending⟩

end Chronicle.Shell
