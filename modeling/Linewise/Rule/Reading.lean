/-!
Outcomes of reading the front of a text. A reader may succeed, may refuse so that another reader is
tried in its place, or may fail for good, once what it read could not have been anything else.
-/
namespace Linewise

/-- What a rule should have had where reading stopped. -/
inductive Expected
  | rule
  | pattern
  | startPattern
  | slash
  | closingSlash
  | colon
  | openBrace
  | ruleOrCloseBrace
  | lineNumber
  | lineSpec
  | statusCode
deriving DecidableEq, Repr

def Expected.description : Expected → String
  | rule => "rule"
  | pattern => "<pattern>"
  | startPattern => "<start pattern>"
  | slash => "'/'"
  | closingSlash => "closing '/'"
  | colon => "':'"
  | openBrace => "'\x7b'"
  | ruleOrCloseBrace => "rule or closing '\x7d'"
  | lineNumber => "<line number>"
  | lineSpec => "<line number or range>"
  | statusCode => "<status code>"

/-- The outcome of a reader, with the text that was left when it stopped. -/
inductive Reading (α : Type)
  | read (value : α) (rest : List Char)
  | refused (rest : List Char)
  | failed (rest : List Char) (expected : Expected)
deriving Repr

namespace Reading

variable {α β : Type}

def map (f : α → β) : Reading α → Reading β
  | read a rest => read (f a) rest
  | refused rest => refused rest
  | failed rest e => failed rest e

/-- Continues with the value and the text left after it. -/
def andThen (r : Reading α) (f : α → List Char → Reading β) : Reading β :=
  match r with
  | read a rest => f a rest
  | refused rest => refused rest
  | failed rest e => failed rest e

/-- Tries another reader where the first one refused. -/
def orElse (r : Reading α) (other : Unit → Reading α) : Reading α :=
  match r with
  | read a rest => read a rest
  | refused _ => other ()
  | failed rest e => failed rest e

/-- Makes a refusal final. -/
def orFail (r : Reading α) (expected : Expected) : Reading α :=
  match r with
  | refused rest => failed rest expected
  | r => r

/-- Whether no other reader is tried. -/
def Decides : Reading α → Prop
  | refused _ => False
  | _ => True

theorem refused_orElse (rest : List Char) (other : Unit → Reading α) :
    (refused rest).orElse other = other () := rfl

theorem orElse_of_decides {r : Reading α} (h : r.Decides) (other : Unit → Reading α) :
    r.orElse other = r := by
  cases r with
  | read _ _ | failed _ _ => rfl
  | refused _ => exact h.elim

theorem decides_orFail (r : Reading α) (e : Expected) : (r.orFail e).Decides := by
  cases r <;> trivial

theorem Decides.map {r : Reading α} (h : r.Decides) (f : α → β) : (r.map f).Decides := by
  cases r <;> trivial

theorem Decides.andThen {r : Reading α} (h : r.Decides) {f : α → List Char → Reading β}
    (hf : ∀ a rest, (f a rest).Decides) : (r.andThen f).Decides := by
  cases r with
  | read a rest => exact hf a rest
  | refused _ | failed _ _ => exact h

theorem orFail_eq_read {r : Reading α} {e : Expected} {a : α} {rest : List Char} :
    r.orFail e = read a rest ↔ r = read a rest := by
  cases r <;> simp [orFail]

theorem map_eq_read {r : Reading α} {f : α → β} {b : β} {rest : List Char} :
    r.map f = read b rest ↔ ∃ a, r = read a rest ∧ f a = b := by
  cases r with
  | read a rest' =>
      constructor
      · intro h
        cases h
        exact ⟨a, rfl, rfl⟩
      · rintro ⟨_, h, rfl⟩
        cases h
        rfl
  | refused _ | failed _ _ => simp [map]

end Reading

end Linewise
