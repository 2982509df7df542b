import Linewise.Pattern.Basic
import Linewise.Warning

/-!
From texts of rules to rules that can run. Both steps keep the number and order of the rules and
collect warnings: reading does so for each text that is no rule, compiling for each pattern that is
none, in the order in which the patterns stand in the text.
-/
namespace Linewise

/-- Reads each text as a rule, the first of which has the given number. -/
def Rule.readAll (number : Nat) : List String → List (Rule String) × List Warning
  | [] => ([], [])
  | source :: sources =>
      let (rules, warnings) := readAll (number + 1) sources
      match Rule.read source with
      | .ok r => (r :: rules, warnings)
      | .error e => (.idle :: rules, .unreadableRule number source e :: warnings)

/-- Compiles a pattern. One that cannot be compiled never matches. -/
def Pattern.compileOrNever (source : String) : Pattern × List Warning :=
  match Pattern.compile source with
  | .ok p => (p, [])
  | .error e => (.never, [.badPattern source e])

mutual

def Rule.compile : Rule String → Rule Pattern × List Warning
  | .substitute source replacement everywhere =>
      let (p, ws) := Pattern.compileOrNever source
      (.substitute p replacement everywhere, ws)
  | .setLine n text => (.setLine n text, [])
  | .keepMatching source =>
      let (p, ws) := Pattern.compileOrNever source
      (.keepMatching p, ws)
  | .keepLines spec => (.keepLines spec, [])
  | .keepAll => (.keepAll, [])
  | .arrange how => (.arrange how, [])
  | .ifMatch source body =>
      let (p, ws) := Pattern.compileOrNever source
      let (rules, ws') := Rule.compileAll body
      (.ifMatch p rules, ws ++ ws')
  | .between start stop body =>
      let (p, ws) := Pattern.compileOrNever start
      let (q, ws') := Pattern.compileOrNever stop
      let (rules, ws'') := Rule.compileAll body
      (.between p q rules, ws ++ (ws' ++ ws''))
  | .onStatus code body otherwise =>
      let (rules, ws) := Rule.compileAll body
      let (others, ws') := Rule.compileAll otherwise
      (.onStatus code rules others, ws ++ ws')
  | .idle => (.idle, [])

def Rule.compileAll : List (Rule String) → List (Rule Pattern) × List Warning
  | [] => ([], [])
  | r :: rs =>
      let (r', ws) := r.compile
      let (rs', ws') := Rule.compileAll rs
      (r' :: rs', ws ++ ws')

end

theorem Rule.compileAll_fst (rs : List (Rule String)) :
    (Rule.compileAll rs).1 = rs.map fun r => r.compile.1 := by
  induction rs with
  | nil => rfl
  | cons r rs ih => simp [Rule.compileAll, ih]

end Linewise
