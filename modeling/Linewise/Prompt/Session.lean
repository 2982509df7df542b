import Linewise.Prompt.Screen

/-!
A session at the prompt. Keys edit a rule, and after each of them the screen is drawn anew, until
one commits the rule or cancels the session; then the screen is cleared.
-/
namespace Linewise.Prompt

/-- What a key asks of a session, its effect on the edited rule apart. -/
inductive Action
  | go
  | commit
  | cancel
deriving DecidableEq, Repr

/-- The key with a letter and the control key, and no other. -/
def Key.isControl (k : Key) (letter : Char) : Bool :=
  k.code == .char letter && k.ctrl && !k.shift && !k.alt

def Key.action (k : Key) : Action :=
  if k.code = .escape ∨ k.isControl 'c' then .cancel
  else if k.code = .enter then .commit
  else .go

structure Session where
  trial : Trial
  window : Window
  editor : Editor
  json : Bool
  /-- How many rows below the prompt have been drawn. -/
  below : Nat

namespace Session

def start (trial : Trial) (window : Window) : Session := ⟨trial, window, .empty, false, 0⟩

/-- The effect of a key on the rule and on the form of the output. -/
def press (s : Session) (k : Key) : Session :=
  { s with editor := s.editor.press k, json := s.json ^^ k.isControl 'j' }

def preview (s : Session) : Except ReadError Document := s.trial.preview s.editor.text

def shown (s : Session) : List Row := s.window.show s.json s.preview

def drawn (s : Session) : Session × List Command :=
  ({ s with below := s.shown.length }, draw s.below s.editor s.shown)

def cleared (s : Session) : List Command := clearBelow s.below ++ clearPrompt

/-- How a session ends: with a rule, or with none. -/
inductive Ending
  | committed (rule : List Char)
  | cancelled
deriving DecidableEq, Repr

/-- A session after a key, or its end, and what the terminal is told. -/
def step (s : Session) (k : Key) : List Command × (Session ⊕ Ending) :=
  let s := s.press k
  match k.action with
  | .go => (s.drawn.2, .inl s.drawn.1)
  | .commit => (s.cleared, .inr (.committed s.editor.text))
  | .cancel => (s.cleared, .inr .cancelled)

/-- Feeds keys until the session ends, if they end it. -/
def feed (s : Session) : List Key → List Command × (Session ⊕ Ending)
  | [] => ([], .inl s)
  | k :: keys =>
      match s.step k with
      | (commands, .inl s) =>
          let (more, result) := s.feed keys
          (commands ++ more, result)
      | (commands, .inr ending) => (commands, .inr ending)

/-- A whole session: the first drawing, and then the keys. -/
def run (s : Session) (keys : List Key) : List Command × (Session ⊕ Ending) :=
  let (commands, result) := s.drawn.1.feed keys
  (s.drawn.2 ++ commands, result)

end Session

end Linewise.Prompt
