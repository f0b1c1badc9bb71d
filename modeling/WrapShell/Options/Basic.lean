import WrapShell.Text.Basic
/-!
# Options

The arguments of a program are switches and operands. A grammar says which switches there are
and whether operands are admitted; reading stops at the first argument that does not fit. The
word `help` asks for the usage wherever it stands in front of `--`.
-/

namespace WrapShell

/-- What a switch takes from the arguments behind it. -/
inductive Takes where
  | nothing
  /-- One value, which must pass a check, and only once. -/
  | value (check : Text → Option Text)
  /-- A value, each time it is given. -/
  | values

/-- A switch of a program. -/
structure Switch where
  long : Text
  short : Option Char
  takes : Takes
  description : Text

/-- What stands for the operands of a program. -/
structure Operand where
  name : Text
  /-- Whether all arguments from the first operand on are operands; otherwise there is at most
  one. -/
  greedy : Bool
  description : Text

/-- The arguments that a program takes. -/
structure Grammar where
  summary : Text
  switches : List Switch
  operand : Option Operand

/-- The arguments that a program was given. -/
structure Given where
  /-- Values by the long name of their switch. A switch that takes nothing has an empty one. -/
  values : List (Text × Text) := []
  operands : List Text := []
  deriving DecidableEq, Repr

namespace Given

/-- Adds a switch with its value. -/
def put (g : Given) (long value : Text) : Given := { g with values := g.values ++ [(long, value)] }

/-- Whether a switch was given. -/
def has (g : Given) (long : Text) : Bool := (g.values.lookup long).isSome

/-- The value of a switch. -/
def value? (g : Given) (long : Text) : Option Text := g.values.lookup long

/-- All values of a switch, in order. -/
def valuesOf (g : Given) (long : Text) : List Text := (g.values.filter (·.1 == long)).map Prod.snd

end Given

/-- Why arguments are not taken. -/
inductive Refusal where
  /-- The usage is asked for. -/
  | help
  | argumentsAfterHelp
  | unrecognized (argument : Text)
  | noValue (argument : Text)
  | badValue (argument value problem : Text)
  deriving DecidableEq, Repr

namespace Grammar

/-- The words that ask for the usage. -/
def helpWords : List Text := ["--help", "help"]

/-- The switch that an argument names. -/
def switch? (g : Grammar) (argument : Text) : Option Switch :=
  g.switches.find? fun s => argument == '-' :: '-' :: s.long || s.short.any fun c => argument == ['-', c]

/-- Reads arguments. `ended` tells that switches are no longer looked for, `help` that the usage
was asked for. -/
def readFrom (g : Grammar) (ended help : Bool) (given : Given) : List Text → Except Refusal Given
  | [] => if help then .error .help else .ok given
  | a :: rest =>
    if !ended && helpWords.contains a then g.readFrom ended true given rest
    else if !ended && a.head? == some '-' then
      if a = ['-', '-'] then g.readFrom true help given rest
      else if help then .error .argumentsAfterHelp
      else
        match g.switch? a with
        | none => .error (.unrecognized a)
        | some s =>
          match s.takes with
          | .nothing => g.readFrom ended help (given.put s.long []) rest
          | .values =>
            match rest with
            | [] => .error (.noValue a)
            | v :: others => g.readFrom ended help (given.put s.long v) others
          | .value check =>
            match rest with
            | [] => .error (.noValue a)
            | v :: others =>
              if given.has s.long then .error (.badValue a v "duplicate values provided")
              else
                match check v with
                | some problem => .error (.badValue a v problem)
                | none => g.readFrom ended help (given.put s.long v) others
    else
      match g.operand with
      | none => .error (.unrecognized a)
      | some o =>
        if o.greedy || given.operands.isEmpty then
          g.readFrom (ended || o.greedy) help { given with operands := given.operands ++ [a] } rest
        else .error (.unrecognized a)

/-- Reads the arguments of a program. -/
def read (g : Grammar) (arguments : List Text) : Except Refusal Given := g.readFrom false false {} arguments

end Grammar

end WrapShell
