import Linewise.Proofs.Rule.Escape
import Linewise.Proofs.Rule.Numeral
import Linewise.Proofs.Rule.Start

/-!
Rules as text. `Rule.WellFormed` says which rules can be written at all, and `Written` says in which
ways: with any layout, any separators, any zeros before a number, with or without an empty `else`,
with or without the slash that closes a replacement. Both are about the rule and its text alone; that
reading undoes writing is proved from them, not built into them.
-/
namespace Linewise

/-- A pattern is paired text with at least one character, and no slash in it is escaped. -/
def IsPattern (p : String) : Prop := p ≠ "" ∧ Escapable (fun _ => false) p.toList

/-- A replacement is paired text, in which nothing outside a pair ends it. At top level one more
backslash may stand at its end. -/
def IsReplacement : Scope → String → Prop
  | .top, t =>
      Escapable Scope.top.endsText t.toList ∨ Dangling (Escapable Scope.top.endsText) t.toList
  | .block, t => Escapable Scope.block.endsText t.toList

/-- The text of a line has no escapes, so nothing in it may end it. -/
def IsLineText (scope : Scope) (t : String) : Prop := ∀ c ∈ t.toList, scope.endsText c = false

def IsStatusCode (code : String) : Prop :=
  code ≠ "" ∧ ∀ c ∈ code.toList, isWhite c = false ∧ c ≠ '{'

instance (code : String) : Decidable (IsStatusCode code) :=
  @instDecidableAnd _ _ _ (List.decidableBAll _ code.toList)

/-- Only a single position may count from the end. -/
def LineSpec.WellFormed : LineSpec → Prop
  | index n => n.natAbs ≤ maxLineNumber
  | range a b => 0 ≤ a ∧ a ≤ maxLineNumber ∧ 0 ≤ b ∧ b ≤ maxLineNumber

mutual

/-- A rule that has a text of its own in the given scope. -/
def Rule.WellFormed (scope : Scope) : Rule String → Prop
  | .substitute p t _ => IsPattern p ∧ IsReplacement scope t
  | .setLine n t => n.natAbs ≤ maxLineNumber ∧ IsLineText scope t
  | .keepMatching p => IsPattern p
  | .keepLines spec => spec.WellFormed
  | .keepAll | .arrange _ => True
  | .ifMatch p body => IsPattern p ∧ Rule.AllWellFormed body
  | .between a b body => IsPattern a ∧ IsPattern b ∧ Rule.AllWellFormed body
  | .onStatus code body otherwise =>
      IsStatusCode code ∧ Rule.AllWellFormed body ∧ Rule.AllWellFormed otherwise
  | .idle => False

/-- The rules of a block. -/
def Rule.AllWellFormed : List (Rule String) → Prop
  | [] => True
  | r :: rs => r.WellFormed .block ∧ Rule.AllWellFormed rs

end

/-- What may follow the text of a rule. -/
inductive Ending
  /-- A slash, a brace or a digit ends the text. -/
  | closed
  /-- The text goes on to a separator, a closing brace or the end of the input. -/
  | loose
  /-- The text goes on to the end of the input. -/
  | last
deriving DecidableEq, Repr

def Ending.Before : Ending → List Char → Prop
  | closed, _ => True
  | loose, rest => ∀ c ∈ rest.head?, isSeparator c = true ∨ c = '}'
  | last, rest => rest = []

/-- How free text ends that nothing closes. -/
def Scope.textEnding : Scope → Ending
  | top => .last
  | block => .loose

/-- The two words in front of a choice of lines. -/
def IsPrintWord (word : List Char) : Prop := word = ['p'] ∨ word = ['p', 'r', 'i', 'n', 't']

def IsLayout (w : List Char) : Prop := ∀ c ∈ w, isLayout c = true

def IsSeparators (w : List Char) : Prop := ∀ c ∈ w, isSeparator c = true

instance (w : List Char) : Decidable (IsLayout w) := List.decidableBAll _ w

instance (w : List Char) : Decidable (IsSeparators w) := List.decidableBAll _ w

mutual

/-- The texts of a rule in a scope, and how they end. -/
inductive Written : Scope → Rule String → Ending → List Char → Prop
  | substituteClosed {scope : Scope} {p t : String} {everywhere : Bool} :
      Escapable scope.endsText t.toList →
      Written scope (.substitute p t everywhere) .closed
        ([if everywhere then 'g' else 's', '/'] ++
          (escapeSlashes p.toList ++ '/' :: (escapeSlashes t.toList ++ ['/'])))
  | substituteOpen {scope : Scope} {p t : String} {everywhere : Bool} :
      Escapable scope.endsText t.toList →
      Written scope (.substitute p t everywhere) scope.textEnding
        ([if everywhere then 'g' else 's', '/'] ++
          (escapeSlashes p.toList ++ '/' :: escapeSlashes t.toList))
  /-- A slash would be taken as the partner of the last backslash. -/
  | substituteDangling {scope : Scope} {p t : String} {everywhere : Bool} :
      Dangling (Escapable scope.endsText) t.toList →
      Written scope (.substitute p t everywhere) .last
        ([if everywhere then 'g' else 's', '/'] ++
          (escapeSlashes p.toList ++ '/' :: escapeSlashes t.toList))
  | setLine {scope : Scope} {n : Int} {t : String} {d : List Char} :
      IsSignedNumeral n d →
      Written scope (.setLine n t) scope.textEnding (['s', ':'] ++ (d ++ ':' :: t.toList))
  | keepMatching {scope : Scope} {p : String} {word : List Char} :
      IsPrintWord word →
      Written scope (.keepMatching p) .closed (word ++ '/' :: (escapeSlashes p.toList ++ ['/']))
  | keepIndex {scope : Scope} {n : Int} {word d : List Char} :
      IsPrintWord word → IsSignedNumeral n d →
      Written scope (.keepLines (.index n)) .closed (word ++ ':' :: d)
  | keepRange {scope : Scope} {a b : Nat} {word d e : List Char} :
      IsPrintWord word → IsNumeral a d → IsNumeral b e →
      Written scope (.keepLines (.range a b)) .closed (word ++ ':' :: (d ++ '-' :: e))
  | keepAll {scope : Scope} : Written scope .keepAll .loose ['p', 'r', 'i', 'n', 't']
  | arrange {scope : Scope} (how : Arrangement) : Written scope (.arrange how) .loose how.word
  | ifMatch {scope : Scope} {p : String} {body : List (Rule String)} {w v : List Char} :
      IsLayout w → WrittenBody body v →
      Written scope (.ifMatch p body) .closed
        (['i', 'f', '/'] ++ (escapeSlashes p.toList ++ '/' :: (w ++ '{' :: v)))
  | between {scope : Scope} {a b : String} {body : List (Rule String)} {w v : List Char} :
      IsLayout w → WrittenBody body v →
      Written scope (.between a b body) .closed
        (['b', 'e', 't', 'w', 'e', 'e', 'n', '/'] ++
          (escapeSlashes a.toList ++ '/' ::
            (escapeSlashes b.toList ++ '/' :: (w ++ '{' :: v))))
  | onStatus {scope : Scope} {code : String} {body : List (Rule String)} {w v : List Char} :
      IsLayout w → WrittenBody body v →
      Written scope (.onStatus code body []) .closed
        (['s', 't', 'a', 't', 'u', 's', ':'] ++ (code.toList ++ (w ++ '{' :: v)))
  | onStatusElse {scope : Scope} {code : String} {body otherwise : List (Rule String)}
      {w v w₁ w₂ v' : List Char} :
      IsLayout w → WrittenBody body v → IsLayout w₁ → IsLayout w₂ → WrittenBody otherwise v' →
      Written scope (.onStatus code body otherwise) .closed
        (['s', 't', 'a', 't', 'u', 's', ':'] ++
          (code.toList ++ (w ++ '{' :: (v ++ (w₁ ++ (['e', 'l', 's', 'e'] ++
            (w₂ ++ '{' :: v')))))))

/-- The texts of the rules of a block, after the opening brace and with the closing one. Rules may
touch where the first one needs nothing after it. -/
inductive WrittenBody : List (Rule String) → List Char → Prop
  | nil {w : List Char} : IsSeparators w → WrittenBody [] (w ++ ['}'])
  | cons {r : Rule String} {rs : List (Rule String)} {e : Ending} {w u v : List Char} :
      IsSeparators w → Written .block r e u → e.Before v → WrittenBody rs v →
      WrittenBody (r :: rs) (w ++ (u ++ v))

end

/-- The texts that stand for a rule on its own, with layout around it. -/
def Rule.WrittenAs (r : Rule String) (source : String) : Prop :=
  ∃ w u w' e, IsLayout w ∧ IsLayout w' ∧ Written .top r e u ∧ e.Before w' ∧
    source.toList = w ++ (u ++ w')

theorem isLayout_nil : IsLayout [] := by decide

theorem isSeparators_nil : IsSeparators [] := by decide

theorem IsSeparators.append {w w' : List Char} (hw : IsSeparators w) (hw' : IsSeparators w') :
    IsSeparators (w ++ w') :=
  List.forall_mem_append.2 ⟨hw, hw'⟩

namespace Ending

variable {e : Ending}

theorem before_nil : e.Before [] := by
  cases e <;> simp [Before]

theorem before_cons (he : e ≠ .last) {c : Char} (hc : isSeparator c = true ∨ c = '}')
    (s : List Char) : e.Before (c :: s) := by
  cases e with
  | closed => trivial
  | loose => exact fun d hd => by cases hd; exact hc
  | last => exact absurd rfl he

theorem before_brace (he : e ≠ .last) : e.Before ['}'] := before_cons he (.inr rfl) []

theorem before_semicolon (he : e ≠ .last) (s : List Char) : e.Before (';' :: s) :=
  before_cons he (.inl (by decide)) s

theorem before_separators_append {w s : List Char} (hw : IsSeparators w) (hs : e.Before s)
    (he : e ≠ .last) : e.Before (w ++ s) := by
  cases w with
  | nil => exact hs
  | cons c w => exact before_cons he (.inl (hw c List.mem_cons_self)) _

theorem before_separators {w : List Char} (hw : IsSeparators w) (he : e = .last → w = []) :
    e.Before w := by
  cases w with
  | nil => exact before_nil
  | cons c w =>
      refine before_cons (fun h => ?_) (.inl (hw c List.mem_cons_self)) w
      cases he h

end Ending

/-- A rule that is alone in its block. -/
theorem WrittenBody.single {r : Rule String} {e : Ending} {u : List Char}
    (h : Written .block r e u) (he : e ≠ .last) : WrittenBody [r] (u ++ ['}']) :=
  .cons (w := []) isSeparators_nil h (Ending.before_brace he) (.nil (w := []) isSeparators_nil)

end Linewise
