import Linewise.Prompt.Screen
import Mathlib.Data.List.TakeWhile
import Mathlib.Logic.Function.Basic

/-!
A terminal that reads characters. It has rows of some width without end and obeys the control
sequences by which a prompt moves its cursor and clears rows. The characters of a command are one
step, as long as the texts among them are printable, so from there on drawing is about commands.
-/
namespace Linewise.Prompt

/-- What a terminal is in the middle of reading. -/
inductive Terminal.Input
  | text
  /-- After an escape. -/
  | escape
  /-- In a control sequence, after some parameters. -/
  | sequence (parameters : List Char)
deriving DecidableEq, Repr

/-- Rows and columns are counted from 0. After the last cell of a row has been written the column is
the width, until the cursor moves or the next character wraps to a row of its own. -/
structure Terminal where
  width : Nat
  cells : Nat → Nat → Char
  row : Nat
  column : Nat
  input : Terminal.Input

/-- Control characters: those of ASCII, its delete, and their extension. -/
def isControlChar (c : Char) : Bool :=
  c.toNat < 0x20 || (0x7F ≤ c.toNat && c.toNat < 0xA0)

/-- Text that a terminal shows as it stands, one character to a cell. -/
def Printable (s : List Char) : Prop := ∀ c ∈ s, isControlChar c = false

instance (s : List Char) : Decidable (Printable s) := List.decidableBAll _ s

/-- A row that shows a text and is blank after it. -/
def rowOf (s : List Char) : Nat → Char := fun column => s.getD column ' '

namespace Terminal

def put (t : Terminal) (c : Char) : Terminal :=
  let t := if t.column < t.width then t else { t with row := t.row + 1, column := 0 }
  { t with
    cells := Function.update t.cells t.row (Function.update (t.cells t.row) t.column c)
    column := t.column + 1 }

def moveUp (t : Terminal) (n : Nat) : Terminal :=
  { t with row := t.row - n, column := min t.column (t.width - 1) }

def moveDown (t : Terminal) (n : Nat) : Terminal :=
  { t with row := t.row + n, column := min t.column (t.width - 1) }

def moveTo (t : Terminal) (column : Nat) : Terminal :=
  { t with column := min column (t.width - 1) }

def clearRow (t : Terminal) : Terminal :=
  { t with cells := Function.update t.cells t.row (rowOf []) }

/-- The number in front of the parameters of a sequence; 0 if there is none. -/
def parameter (parameters : List Char) : Nat :=
  Nat.ofDigitChars 10 (parameters.takeWhile Char.isDigit) 0

/-- Obeys a control sequence. Movements by 0 are movements by 1. Colors and questions leave the cells
as they are, and so do sequences that no prompt writes. -/
def perform (t : Terminal) (parameters : List Char) (final : Char) : Terminal :=
  let n := parameter parameters
  match final with
  | 'A' => t.moveUp (max n 1)
  | 'B' => t.moveDown (max n 1)
  | 'G' => t.moveTo (max n 1 - 1)
  | 'K' => if n = 2 then t.clearRow else t
  | _ => t

def read (t : Terminal) (c : Char) : Terminal :=
  match t.input with
  | .text =>
      if c = '\x1B' then { t with input := .escape }
      else if c = '\r' then { t with column := 0 }
      else if c = '\n' then { t with row := t.row + 1 }
      else if isControlChar c then t
      else t.put c
  | .escape => { t with input := if c = '[' then .sequence [] else .text }
  | .sequence parameters =>
      if Key.endsSequence c then { t with input := .text }.perform parameters c
      else { t with input := .sequence (parameters ++ [c]) }

def readAll (t : Terminal) (s : List Char) : Terminal := s.foldl read t

/-- What a terminal does with the characters of a command. -/
def obey (t : Terminal) : Command → Terminal
  | .print text => text.foldl put t
  | .nextRow => { t with row := t.row + 1, column := 0 }
  | .column n => t.moveTo n
  | .up n => t.moveUp (max n 1)
  | .down n => t.moveDown (max n 1)
  | .clearRow => t.clearRow
  | .red | .plain | .askPosition => t

def obeyAll (t : Terminal) (commands : List Command) : Terminal := commands.foldl obey t

section

variable (t : Terminal)

@[simp] theorem put_input (c : Char) : (t.put c).input = t.input := by
  unfold put
  split <;> rfl

@[simp] theorem put_width (c : Char) : (t.put c).width = t.width := by
  unfold put
  split <;> rfl

theorem foldl_put_input (s : List Char) : (s.foldl put t).input = t.input := by
  induction s generalizing t with
  | nil => rfl
  | cons c s ih => rw [List.foldl_cons, ih, put_input]

@[simp] theorem obey_input (c : Command) : (t.obey c).input = t.input := by
  cases c with
  | print s => exact foldl_put_input t s
  | _ => rfl

@[simp] theorem obeyAll_nil : t.obeyAll [] = t := rfl

@[simp] theorem obeyAll_cons (c : Command) (cs : List Command) :
    t.obeyAll (c :: cs) = (t.obey c).obeyAll cs := rfl

@[simp] theorem obeyAll_append (cs cs' : List Command) :
    t.obeyAll (cs ++ cs') = (t.obeyAll cs).obeyAll cs' := List.foldl_append

theorem readAll_append (s s' : List Char) : t.readAll (s ++ s') = (t.readAll s).readAll s' :=
  List.foldl_append

theorem read_of_printable {c : Char} (hc : isControlChar c = false) (ht : t.input = .text) :
    t.read c = t.put c := by
  have hne : ∀ d : Char, isControlChar d = true → c ≠ d := by
    rintro d hd rfl
    rw [hc] at hd
    cases hd
  simp only [read, ht, if_neg (hne '\x1B' (by decide)), if_neg (hne '\r' (by decide)),
    if_neg (hne '\n' (by decide)), hc, Bool.false_eq_true, if_false]

theorem readAll_printable {s : List Char} (hs : Printable s) (ht : t.input = .text) :
    t.readAll s = s.foldl put t := by
  induction s generalizing t with
  | nil => rfl
  | cons c s ih =>
      rw [readAll, List.foldl_cons, read_of_printable t (hs c List.mem_cons_self) ht,
        List.foldl_cons]
      exact ih (t.put c) (fun d hd => hs d (List.mem_cons_of_mem c hd)) (by rw [put_input, ht])

theorem readAll_parameters {parameters : List Char} (read : List Char)
    (h : ∀ c ∈ parameters, Key.endsSequence c = false) :
    readAll { t with input := .sequence read } parameters =
      { t with input := .sequence (read ++ parameters) } := by
  induction parameters generalizing read with
  | nil => simp [readAll]
  | cons c parameters ih =>
      have hc := h c List.mem_cons_self
      have hread : Terminal.read { t with input := .sequence read } c =
          { t with input := .sequence (read ++ [c]) } := by
        simp [Terminal.read, hc]
      rw [readAll, List.foldl_cons, hread]
      have := ih (read ++ [c]) fun d hd => h d (List.mem_cons_of_mem c hd)
      simpa [readAll] using this

/-- A sequence is obeyed once its last character has been read. -/
theorem readAll_control {parameters : List Char} {final : Char} (ht : t.input = .text)
    (h : ∀ c ∈ parameters, Key.endsSequence c = false) (hfinal : Key.endsSequence final = true) :
    t.readAll ('\x1B' :: '[' :: parameters ++ [final]) = t.perform parameters final := by
  have hstart : t.readAll ['\x1B', '['] = { t with input := .sequence [] } := by
    simp [readAll, read, ht]
  have hsplit : '\x1B' :: '[' :: parameters ++ [final] =
      ['\x1B', '['] ++ (parameters ++ [final]) := rfl
  have hinput : { t with input := Input.text } = t := by rw [← ht]
  rw [hsplit, readAll_append, hstart, readAll_append, readAll_parameters t [] h]
  simp [readAll, read, hfinal, hinput]

theorem endsSequence_of_isDigit {c : Char} (h : c.isDigit = true) :
    Key.endsSequence c = false := by
  have h₉ := (Char.isDigit_iff_toNat.1 h).2
  change c.toNat ≤ 57 at h₉
  simp only [Key.endsSequence, Bool.and_eq_false_iff, decide_eq_false_iff_not]
  exact .inl (by omega)

theorem isDigit_of_mem_toString {n : Nat} {c : Char} (h : c ∈ (toString n).toList) :
    c.isDigit = true := by
  rw [Nat.toString_eq_ofList_toDigits, String.toList_ofList] at h
  exact Nat.isDigit_of_mem_toDigits (by decide) (by decide) h

theorem parameter_toString (n : Nat) : parameter (toString n).toList = n := by
  rw [parameter, List.takeWhile_eq_self_iff.2 fun _ => isDigit_of_mem_toString,
    Nat.toString_eq_ofList_toDigits, String.toList_ofList, Nat.ofDigitChars_ten_toDigits]

theorem readAll_number {n : Nat} {final : Char} (ht : t.input = .text)
    (hfinal : Key.endsSequence final = true) :
    t.readAll ('\x1B' :: '[' :: (toString n).toList ++ [final]) =
      t.perform (toString n).toList final :=
  readAll_control t ht (fun _ hc => endsSequence_of_isDigit (isDigit_of_mem_toString hc)) hfinal

end

end Terminal

/-- Whether the text that a command prints is printable. -/
def Command.Prints : Command → Prop
  | print text => Printable text
  | _ => True

namespace Terminal

variable (t : Terminal)

/-- A terminal obeys a command by reading its characters. -/
theorem readAll_encode {c : Command} (colored : Bool) (hc : c.Prints) (ht : t.input = .text) :
    t.readAll (c.encode colored) = t.obey c := by
  cases c with
  | print text => exact readAll_printable t hc ht
  | nextRow => simp [Command.encode, readAll, read, ht, obey]
  | column n =>
      refine (readAll_number t ht (by decide)).trans ?_
      have hcolumn : max (n + 1) 1 - 1 = n := by omega
      simp only [perform, parameter_toString, obey, hcolumn]
  | up n =>
      refine (readAll_number t ht (by decide)).trans ?_
      simp only [perform, parameter_toString, obey]
  | down n =>
      refine (readAll_number t ht (by decide)).trans ?_
      simp only [perform, parameter_toString, obey]
  | clearRow => exact (readAll_control t ht (by simp [Key.endsSequence]) (by decide)).trans rfl
  | red =>
      cases colored
      · exact (readAll_control t ht (by simp [Key.endsSequence]) (by decide)).trans rfl
      · exact (readAll_control t ht (by simp [Key.endsSequence]) (by decide)).trans rfl
  | plain => exact (readAll_control t ht (by simp [Key.endsSequence]) (by decide)).trans rfl
  | askPosition => exact (readAll_control t ht (by simp [Key.endsSequence]) (by decide)).trans rfl

theorem readAll_flatMap_encode {cs : List Command} (colored : Bool) (hcs : ∀ c ∈ cs, c.Prints)
    (ht : t.input = .text) : t.readAll (cs.flatMap (·.encode colored)) = t.obeyAll cs := by
  induction cs generalizing t with
  | nil => rfl
  | cons c cs ih =>
      rw [List.flatMap_cons, readAll_append, readAll_encode t colored (hcs c List.mem_cons_self) ht,
        obeyAll_cons]
      exact ih (t.obey c) (fun d hd => hcs d (List.mem_cons_of_mem c hd)) (by rw [obey_input, ht])

/-- A full row wraps only at the next character, so going to a column of it stays on it. -/
example :
    let t : Terminal := ⟨3, fun _ _ => ' ', 0, 0, .text⟩
    let t' := t.readAll ('a' :: 'b' :: 'c' :: (Command.column 1).encode false ++ ['d'])
    (t'.row, t'.column) = (0, 2) ∧ (List.range 4).map (t'.cells 0) = ['a', 'd', 'c', ' '] := by
  decide

end Terminal
end Linewise.Prompt
