import Linewise.CommandLine.Options

/-!
Reading the command line, in two steps. First each argument is taken for a flag, a parameter, a
rule, or something unknown. Then these are put together from left to right, and the first one that
is wrong decides the error. A parameter that waits for a value is looked at only once the next
argument is known.
-/
namespace Linewise.CommandLine

inductive Argument
  | flag (f : Flag)
  | notice (n : Notice)
  /-- A parameter with a value in the same argument. -/
  | joined (p : Parameter) (value : String)
  /-- A parameter whose value was sought in the next argument. -/
  | apart (p : Parameter) (value : Option String)
  | rule (text : String)
  | wrong (error : UsageError)
deriving DecidableEq, Repr

namespace Argument

/-- The part of a text before the first equality sign, and the part after it, if there is one. -/
private def cutAtEquals (s : List Char) : String × Option String :=
  (String.ofList (s.takeWhile (· ≠ '=')),
    match s.dropWhile (· ≠ '=') with
    | [] => none
    | _ :: value => some (String.ofList value))

/-- What an argument with a long name is, given its characters after the hyphens. A parameter alone
still needs a value. -/
def ofLong (s : List Char) : Argument ⊕ Parameter :=
  let (name, value) := cutAtEquals s
  match Meaning.ofLong? name, value with
  | none, _ => .inl (.wrong (.unexpectedArgument ("--" ++ name)))
  | some (.parameter p), some value => .inl (.joined p value)
  | some (.parameter p), none => .inr p
  | some m, some value => .inl (.wrong (.unexpectedValue value m))
  | some (.flag f), none => .inl (.flag f)
  | some (.notice n), none => .inl (.notice n)

/-- What an argument with short names is, given its characters after the hyphen. What follows a
parameter is its value, without an equality sign in front. -/
def ofShort : List Char → List Argument × Option Parameter
  | [] => ([], none)
  | c :: s =>
      match Meaning.ofShort? c with
      | none => ([.wrong (.unexpectedArgument (String.ofList ['-', c]))], none)
      | some (.flag f) => ((.flag f :: (ofShort s).1), (ofShort s).2)
      | some (.notice n) => ([.notice n], none)
      | some (.parameter p) =>
          match s with
          | [] => ([], some p)
          | '=' :: value => ([.joined p (String.ofList value)], none)
          | value => ([.joined p (String.ofList value)], none)

/-- Whether an argument may be the value of the parameter before it. -/
def isValue (text : String) : Bool := text == "-" || !text.startsWith "-"

def ofText (text : String) : List Argument × Option Parameter :=
  match text.toList with
  | '-' :: '-' :: s =>
      match ofLong s with
      | .inl a => ([a], none)
      | .inr p => ([], some p)
  | '-' :: c :: s => ofShort (c :: s)
  | _ => ([.rule text], none)

/-- What the arguments are. After two hyphens alone there are only rules. -/
def ofTexts : List String → List Argument
  | [] => []
  | "--" :: texts => texts.map .rule
  | text :: texts =>
      match ofText text with
      | (arguments, none) => arguments ++ ofTexts texts
      | (arguments, some p) =>
          match texts with
          | [] => arguments ++ [.apart p none]
          | value :: rest =>
              if isValue value then arguments ++ .apart p (some value) :: ofTexts rest
              else arguments ++ .apart p none :: ofTexts (value :: rest)

end Argument

namespace Options

def isSet (o : Options) : Flag → Bool
  | .write => o.write
  | .json => o.json
  | .interactive => o.interactive

def set (o : Options) (f : Flag) : Except UsageError Options :=
  if o.isSet f then .error (.repeated (.flag f))
  else
    match f with
    | .write => .ok { o with write := true }
    | .json => .ok { o with json := true }
    | .interactive => .ok { o with interactive := true }

/-- Gives a parameter its value. The path of a file and the choice of color must not be empty. -/
def give (o : Options) (p : Parameter) (value : String) : Except UsageError Options :=
  match p with
  | .input =>
      if o.input.isSome then .error (.repeated (.parameter p))
      else if value = "" then .error (.missingValue p)
      else .ok { o with input := some value }
  | .status =>
      if o.status.isSome then .error (.repeated (.parameter p))
      else .ok { o with status := some value }
  | .color =>
      if o.color.isSome then .error (.repeated (.parameter p))
      else if value = "" then .error (.missingValue p)
      else
        match ColorChoice.named? value with
        | some choice => .ok { o with color := some choice }
        | none => .error (.badColor value)

end Options

inductive Request
  | run (options : Options)
  | print (notice : Notice)
deriving DecidableEq, Repr

namespace Request

def collect (o : Options) : List Argument → Except UsageError Request
  | [] => .ok (.run o)
  | .apart _ _ :: .wrong e :: _ => .error e
  | .apart p none :: _ => .error (.missingValue p)
  | .apart p (some value) :: arguments => do collect (← o.give p value) arguments
  | .joined p value :: arguments => do collect (← o.give p value) arguments
  | .flag f :: arguments => do collect (← o.set f) arguments
  | .rule text :: arguments => collect { o with rules := o.rules ++ [text] } arguments
  | .notice n :: _ => .ok (.print n)
  | .wrong e :: _ => .error e

/-- Whether the flags exclude each other, as an error that names the first one first. -/
def conflict? (o : Options) (arguments : List Argument) : Option UsageError :=
  if o.interactive ∧ o.write then
    if arguments.find? (fun a => a = .flag .interactive ∨ a = .flag .write) = some (.flag .write)
    then some (.conflict .write .interactive)
    else some (.conflict .interactive .write)
  else none

/-- Whether something that the options need is missing: a rule, unless one is to be edited, and a
file to write to. -/
def lacksRequired (o : Options) : Bool :=
  (o.rules.isEmpty && !o.interactive) || (o.write && o.input.isNone)

/-- What the arguments of a command line ask for. -/
def ofArguments (texts : List String) : Except UsageError Request :=
  let arguments := Argument.ofTexts texts
  match collect {} arguments with
  | .ok (.run o) =>
      match conflict? o arguments with
      | some e => .error e
      | none => if lacksRequired o then .error .missingRequired else .ok (.run o)
  | result => result

end Request

end Linewise.CommandLine
