import Linewise.Prompt.Session
import Linewise.Proofs.Prompt.Editing
import Linewise.Proofs.Prompt.Terminal
import Mathlib.Data.List.GetD
import Mathlib.Data.List.Infix

/-!
What a terminal shows while a rule is edited. A drawing knows of the screen before it only how many
rows below the prompt were used. So there is one thing to keep: the cursor is on the row of the
prompt, and no row is in use beyond those that were counted.
-/
namespace Linewise.Prompt

def Row.text : Row → List Char
  | output text | fault text => text

/-- Some cells down to a row, from there on a row for each line, and blank rows after the last. -/
def screen (above : Nat → Nat → Char) (top : Nat) (lines : List (List Char)) : Nat → Nat → Char :=
  fun row => if row < top then above row else rowOf (lines.getD (row - top) [])

/-- Cells down to a row, and blank rows below it. -/
def blankBelow (cells : Nat → Nat → Char) (top : Nat) : Nat → Nat → Char :=
  fun row => if top < row then rowOf [] else cells row

theorem getD_append_singleton {α : Type} (l : List α) (a d : α) (i : Nat) :
    (l ++ [a]).getD i d = if i = l.length then a else l.getD i d := by
  obtain h | rfl | h := Nat.lt_trichotomy i l.length
  · rw [List.getD_append _ _ _ _ h, if_neg (by omega)]
  · simp
  · rw [List.getD_eq_default _ _ (by rw [List.length_append]; exact h), if_neg (by omega),
      List.getD_eq_default _ _ (by omega)]

theorem update_rowOf (s : List Char) (c : Char) :
    Function.update (rowOf s) s.length c = rowOf (s ++ [c]) := by
  funext column
  rw [Function.update_apply, rowOf, rowOf, getD_append_singleton]

section

variable (above : Nat → Nat → Char) (top : Nat) (lines : List (List Char))

theorem screen_of_le {row : Nat} (h : top + lines.length ≤ row) :
    screen above top lines row = rowOf [] := by
  rw [screen, if_neg (by omega), List.getD_eq_default _ _ (by omega)]

theorem update_screen (line : List Char) :
    Function.update (screen above top lines) (top + lines.length) (rowOf line) =
      screen above top (lines ++ [line]) := by
  funext row
  rw [Function.update_apply]
  by_cases hrow : row < top
  · rw [if_neg (by omega), screen, screen, if_pos hrow, if_pos hrow]
  · rw [screen, screen, if_neg hrow, if_neg hrow, getD_append_singleton]
    by_cases hlast : row = top + lines.length
    · rw [if_pos hlast, if_pos (by omega)]
    · rw [if_neg hlast, if_neg (by omega)]

@[simp] theorem screen_screen (lines' : List (List Char)) :
    screen (screen above top lines) top lines' = screen above top lines' := by
  funext row
  by_cases hrow : row < top
  · simp only [screen, if_pos hrow]
  · simp only [screen, if_neg hrow]

end

theorem blankBelow_eq {cells cells' : Nat → Nat → Char} {top : Nat}
    (h : ∀ row ≤ top, cells row = cells' row) : blankBelow cells top = blankBelow cells' top := by
  funext row
  rw [blankBelow, blankBelow]
  split
  · rfl
  · exact h row (by omega)

theorem blankBelow_eq_self {cells : Nat → Nat → Char} {top : Nat}
    (h : ∀ row, top < row → cells row = rowOf []) : blankBelow cells top = cells := by
  funext row
  rw [blankBelow]
  split
  · exact (h row ‹_›).symm
  · rfl

theorem update_blankBelow (cells : Nat → Nat → Char) (top : Nat) :
    Function.update (blankBelow cells top) top (rowOf []) = screen cells top [] := by
  funext row
  rw [Function.update_apply, blankBelow, screen]
  obtain h | h | h := Nat.lt_trichotomy row top
  · rw [if_neg (by omega), if_neg (by omega), if_pos h]
  · rw [if_pos h, if_neg (by omega)]
    rfl
  · rw [if_neg (by omega), if_pos h, if_neg (by omega)]
    rfl

namespace Terminal

variable (t : Terminal)

theorem put_of_lt (c : Char) (h : t.column < t.width) :
    t.put c =
      { t with
        cells := Function.update t.cells t.row (Function.update (t.cells t.row) t.column c)
        column := t.column + 1 } := by
  rw [put, if_pos h]

/-- A text that fits into its row extends what the row shows. -/
theorem foldl_put (before text : List Char) (hrow : t.cells t.row = rowOf before)
    (hcolumn : t.column = before.length) (hfits : (before ++ text).length ≤ t.width) :
    text.foldl put t =
      { t with
        cells := Function.update t.cells t.row (rowOf (before ++ text))
        column := (before ++ text).length } := by
  induction text generalizing t before with
  | nil =>
      rw [List.append_nil, ← hrow, Function.update_eq_self, ← hcolumn]
      rfl
  | cons c text ih =>
      have hlt : t.column < t.width := by
        rw [List.length_append, List.length_cons] at hfits
        omega
      rw [List.append_cons] at hfits ⊢
      have hput : t.put c =
          { t with
            cells := Function.update t.cells t.row (rowOf (before ++ [c]))
            column := (before ++ [c]).length } := by
        rw [put_of_lt t c hlt, hrow, hcolumn, update_rowOf, List.length_append,
          List.length_singleton]
      have hrow' : (t.put c).cells (t.put c).row = rowOf (before ++ [c]) := by
        rw [hput]
        exact Function.update_self ..
      rw [List.foldl_cons, ih (t.put c) (before ++ [c]) hrow' (by rw [hput]) (by rwa [put_width]),
        hput, Function.update_idem]

section

variable {above : Nat → Nat → Char} {top : Nat} {lines : List (List Char)}

/-- A line that is printed on the row below a screen becomes its last one. -/
theorem obey_print (line : List Char) (hcells : t.cells = screen above top lines)
    (hrow : t.row = top + lines.length) (hcolumn : t.column = 0) (hfits : line.length ≤ t.width) :
    t.obey (.print line) =
      { t with cells := screen above top (lines ++ [line]), column := line.length } := by
  have hblank : t.cells t.row = rowOf [] := by
    rw [hcells, hrow, screen_of_le above top lines (Nat.le_refl _)]
  rw [obey, foldl_put t [] line hblank hcolumn hfits, List.nil_append, hcells, hrow, update_screen]

theorem obeyAll_row (r : Row) (hcells : t.cells = screen above top lines)
    (hrow : t.row + 1 = top + lines.length) (hfits : r.text.length ≤ t.width) :
    t.obeyAll r.commands =
      { t with
        cells := screen above top (lines ++ [r.text])
        row := t.row + 1
        column := r.text.length } := by
  have hprint := obey_print { t with row := t.row + 1, column := 0 } r.text hcells hrow rfl hfits
  cases r with
  | output s => exact hprint
  | fault s => exact hprint

theorem obeyAll_rows (rows : List Row) (hcells : t.cells = screen above top lines)
    (hrow : t.row + 1 = top + lines.length) (hfits : ∀ r ∈ rows, r.text.length ≤ t.width) :
    ∃ column, t.obeyAll (rows.flatMap Row.commands) =
      { t with
        cells := screen above top (lines ++ rows.map Row.text)
        row := t.row + rows.length
        column := column } := by
  induction rows generalizing t lines with
  | nil => exact ⟨t.column, by simp [← hcells]⟩
  | cons r rows ih =>
      obtain ⟨column, h⟩ := ih
        { t with
          cells := screen above top (lines ++ [r.text])
          row := t.row + 1
          column := r.text.length }
        rfl (by rw [List.length_append, List.length_singleton, ← Nat.add_assoc, ← hrow])
        fun r' hr' => hfits r' (List.mem_cons_of_mem r hr')
      refine ⟨column, ?_⟩
      rw [List.flatMap_cons, obeyAll_append,
        obeyAll_row t r hcells hrow (hfits r List.mem_cons_self), h]
      simp [Nat.add_comm, Nat.add_left_comm]

end

/-- Rows are cleared from the last one up, each before the cursor leaves it. -/
theorem obeyAll_clearRows {top n : Nat} (hrow : t.row = top + n)
    (hblank : ∀ row, top + n < row → t.cells row = rowOf []) :
    ∃ column, t.obeyAll (List.replicate n [.clearRow, .up 1]).flatten =
      { t with cells := blankBelow t.cells top, row := top, column := column } := by
  induction n generalizing t with
  | zero =>
      obtain rfl : t.row = top := hrow
      have hcells : blankBelow t.cells t.row = t.cells := blankBelow_eq_self hblank
      exact ⟨t.column, by rw [hcells]; rfl⟩
  | succ n ih =>
      let t' := (t.obey .clearRow).obey (.up 1)
      have hcells (row : Nat) : t'.cells row = if row = t.row then rowOf [] else t.cells row :=
        Function.update_apply ..
      have hrow' : t'.row = top + n := by simp [t', obey, moveUp, clearRow, hrow]
      have hblank' : ∀ row, top + n < row → t'.cells row = rowOf [] := by
        intro row hlt
        rw [hcells]
        split
        · rfl
        · exact hblank row (by omega)
      have hkept : blankBelow t'.cells top = blankBelow t.cells top :=
        blankBelow_eq fun row hle => by rw [hcells, if_neg (by omega)]
      obtain ⟨column, h⟩ := ih t' hrow' hblank'
      rw [hkept] at h
      refine ⟨column, ?_⟩
      rw [List.replicate_succ, List.flatten_cons, obeyAll_append]
      exact h

theorem obeyAll_clearBelow {n : Nat} (hblank : ∀ row, t.row + n < row → t.cells row = rowOf []) :
    ∃ column, t.obeyAll (clearBelow n) =
      { t with cells := blankBelow t.cells t.row, column := column } := by
  cases n with
  | zero => exact obeyAll_clearRows t rfl hblank
  | succ n =>
      have hrow : (t.obey (.down (n + 1))).row = t.row + (n + 1) := by simp [obey, moveDown]
      obtain ⟨column, h⟩ := obeyAll_clearRows (t.obey (.down (n + 1))) hrow hblank
      exact ⟨column, h⟩

/-- A terminal whose row and those below it are blank, with the cursor in front. -/
def cleared : Terminal := { t with cells := screen t.cells t.row [], column := 0 }

/-- The row of the prompt and those below it are cleared, if no more of them are in use than were
counted. -/
theorem obeyAll_clear {n : Nat} (hblank : ∀ row, t.row + n < row → t.cells row = rowOf []) :
    t.obeyAll (clearBelow n ++ clearPrompt) = t.cleared := by
  obtain ⟨column, hbelow⟩ := obeyAll_clearBelow t hblank
  rw [obeyAll_append, hbelow]
  simp only [clearPrompt, obeyAll_cons, obeyAll_nil, obey, moveTo, clearRow, Nat.zero_min,
    update_blankBelow, cleared]

/-- A drawing leaves its lines on a screen that is blank otherwise, and the cursor in the prompt. -/
theorem obeyAll_draw {before : Nat} {e : Editor} {rows : List Row}
    (hblank : ∀ row, t.row + before < row → t.cells row = rowOf [])
    (hprompt : promptText.length + e.text.length < t.width)
    (hrows : ∀ r ∈ rows, r.text.length ≤ t.width) :
    t.obeyAll (draw before e rows) =
      { t with
        cells := screen t.cells t.row ((promptText ++ e.text) :: rows.map Row.text)
        column := promptText.length + e.cursor } := by
  have hfits : (promptText ++ e.text).length ≤ t.width := by
    rw [List.length_append]
    omega
  have hcursor : promptText.length + e.cursor ≤ t.width - 1 := by
    have := e.cursor_le
    omega
  have hprint := t.cleared.obey_print (promptText ++ e.text) rfl rfl rfl hfits
  obtain ⟨column, hbelow⟩ := obeyAll_rows
    { t.cleared with
      cells := screen t.cells t.row [promptText ++ e.text]
      column := (promptText ++ e.text).length } rows rfl rfl hrows
  rw [draw, obeyAll_append, obeyAll_append, obeyAll_append, obeyAll_append, obeyAll_clear t hblank]
  simp only [obeyAll_cons, obeyAll_nil]
  rw [hprint, List.nil_append, hbelow]
  cases rows with
  | nil => simp [cleared, obey, moveTo, hcursor]
  | cons r rows => simp [cleared, obey, moveTo, moveUp, hcursor]

end Terminal

theorem length_truncate_le (width : Nat) (line : List Char) :
    (truncate width line).length ≤ width := by
  unfold truncate
  split
  · assumption
  · split
    · rw [List.length_append, List.length_take]
      simp only [List.length_cons, List.length_nil]
      omega
    · exact List.length_take_le width line

theorem Window.length_show_le (w : Window) (json : Bool) (outcome : Except ReadError Document) :
    (w.show json outcome).length ≤ w.rowsBelow := by
  cases outcome with
  | ok d =>
      rw [Window.show, List.length_map]
      exact List.length_take_le ..
  | error e =>
      rw [Window.show, List.length_singleton, rowsBelow]
      omega

theorem Window.length_text_le {w : Window} {json : Bool} {outcome : Except ReadError Document}
    {r : Row} (h : r ∈ w.show json outcome) : r.text.length ≤ w.columns := by
  cases outcome with
  | ok d =>
      obtain ⟨line, -, rfl⟩ := List.mem_map.1 h
      exact length_truncate_le w.columns line
  | error e =>
      rw [List.mem_singleton.1 h]
      exact length_truncate_le w.columns (faultLine e)

/-- The number that is written in a command. Columns are counted from 1 there. -/
def Command.number : Command → Nat
  | column n => n + 1
  | up n | down n => n
  | _ => 0

/-- Whether a command prints what is printable, and keeps the cursor within the columns of a window
and the rows below its prompt. -/
def Command.Within (w : Window) : Command → Prop
  | print text => Printable text
  | column n => n < w.columns
  | up n | down n => n ≤ w.rowsBelow
  | _ => True

section

variable {w : Window}

theorem Command.Within.prints {c : Command} (h : c.Within w) : c.Prints := by
  cases c with
  | print text => exact h
  | _ => trivial

theorem Command.Within.number_lt {c : Command} (h : c.Within w) (hcolumns : w.columns < 2 ^ 16)
    (hrows : w.rows < 2 ^ 16) : c.number < 2 ^ 16 := by
  have hbelow : w.rowsBelow < 2 ^ 16 := by
    rw [Window.rowsBelow]
    omega
  cases c with
  | column n => exact Nat.lt_of_le_of_lt h hcolumns
  | up n | down n => exact Nat.lt_of_le_of_lt h hbelow
  | _ => exact Nat.two_pow_pos 16

theorem within_clear {n : Nat} (hcolumns : 0 < w.columns) (hn : n ≤ w.rowsBelow) :
    ∀ c ∈ clearBelow n ++ clearPrompt, c.Within w := by
  intro c hc
  obtain hc | hc := List.mem_append.1 hc
  · rw [clearBelow] at hc
    split at hc
    · cases hc
    · obtain rfl | hc := List.mem_cons.1 hc
      · exact hn
      · obtain ⟨pair, hpair, hc⟩ := List.mem_flatten.1 hc
        rw [List.eq_of_mem_replicate hpair] at hc
        have hone : 1 ≤ w.rowsBelow := by omega
        simp only [List.mem_cons, List.not_mem_nil, or_false] at hc
        obtain rfl | rfl := hc
        · trivial
        · exact hone
  · simp only [clearPrompt, List.mem_cons, List.not_mem_nil, or_false] at hc
    obtain rfl | rfl := hc
    · exact hcolumns
    · trivial

theorem Row.within_commands {r : Row} (h : Printable r.text) : ∀ c ∈ r.commands, c.Within w := by
  intro c hc
  cases r with
  | output text =>
      simp only [commands, List.mem_cons, List.not_mem_nil, or_false] at hc
      obtain rfl | rfl := hc
      · trivial
      · exact h
  | fault text =>
      simp only [commands, List.mem_cons, List.not_mem_nil, or_false] at hc
      obtain rfl | rfl | rfl | rfl := hc
      · trivial
      · trivial
      · exact h
      · trivial

theorem within_draw {before : Nat} {e : Editor} {rows : List Row} (hbefore : before ≤ w.rowsBelow)
    (hprompt : promptText.length + e.text.length < w.columns) (htext : Printable e.text)
    (hrows : rows.length ≤ w.rowsBelow) (hprintable : ∀ r ∈ rows, Printable r.text) :
    ∀ c ∈ draw before e rows, c.Within w := by
  intro c hc
  simp only [draw, List.mem_append, List.mem_singleton] at hc
  obtain ((((hc | hc) | rfl) | hc) | hc) | rfl := hc
  · exact within_clear (by omega) hbefore c (List.mem_append_left _ hc)
  · exact within_clear (by omega) hbefore c (List.mem_append_right _ hc)
  · intro d hd
    obtain hd | hd := List.mem_append.1 hd
    · exact (by decide : Printable promptText) d hd
    · exact htext d hd
  · obtain ⟨r, hr, hc⟩ := List.mem_flatMap.1 hc
    exact Row.within_commands (hprintable r hr) c hc
  · split at hc
    · cases hc
    · rw [List.mem_singleton.1 hc]
      exact hrows
  · have := e.cursor_le
    change promptText.length + e.cursor < w.columns
    omega

end

namespace Session

/-- Whether the prompt with the rule leaves the cursor a column behind it, and all that is drawn is
printable. -/
structure Fits (s : Session) : Prop where
  prompt : promptText.length + s.editor.text.length < s.window.columns
  text : Printable s.editor.text
  rows : ∀ r ∈ s.shown, Printable r.text

instance (s : Session) : Decidable s.Fits :=
  decidable_of_iff (promptText.length + s.editor.text.length < s.window.columns ∧
      Printable s.editor.text ∧ ∀ r ∈ s.shown, Printable r.text)
    ⟨fun h => ⟨h.1, h.2.1, h.2.2⟩, fun h => ⟨h.prompt, h.text, h.rows⟩⟩

/-- The rows of the prompt and below it, as a session draws them. -/
def lines (s : Session) : List (List Char) :=
  (promptText ++ s.editor.text) :: s.shown.map Row.text

/-- A terminal on which a session has been drawn. -/
def on (s : Session) (t : Terminal) : Terminal :=
  { t with
    cells := screen t.cells t.row s.lines
    column := promptText.length + s.editor.cursor }

/-- Whether all rows that have been drawn are counted. -/
def Counted (s : Session) : Prop := s.below = s.shown.length

section

variable {s : Session} {t : Terminal}

theorem shown_drawn (s : Session) : s.drawn.1.shown = s.shown := rfl

theorem counted_drawn (s : Session) : s.drawn.1.Counted := by
  rw [Counted, shown_drawn]
  rfl

theorem Counted.below_le (h : s.Counted) : s.below ≤ s.window.rowsBelow := by
  rw [h]
  exact Window.length_show_le ..

theorem Counted.blank (h : s.Counted) (t : Terminal) :
    ∀ row, t.row + s.below < row → (s.on t).cells row = rowOf [] := by
  intro row hrow
  apply screen_of_le
  rw [lines, List.length_cons, List.length_map, ← h]
  omega

/-- A drawing does not depend on what was drawn before it, if that was counted. -/
theorem obeyAll_drawn (hblank : ∀ row, t.row + s.below < row → t.cells row = rowOf [])
    (hwidth : t.width = s.window.columns) (hfits : s.Fits) :
    t.obeyAll s.drawn.2 = s.on t := by
  have hprompt := hfits.prompt
  rw [← hwidth] at hprompt
  refine t.obeyAll_draw hblank hprompt fun r hr => ?_
  rw [hwidth]
  exact Window.length_text_le hr

theorem on_drawn (s : Session) (t : Terminal) : s.drawn.1.on t = s.on t := rfl

theorem Fits.of_drawn (h : s.drawn.1.Fits) : s.Fits := ⟨h.prompt, h.text, h.rows⟩

theorem within_drawn (hbelow : s.below ≤ s.window.rowsBelow) (hfits : s.Fits) :
    ∀ c ∈ s.drawn.2, c.Within s.window :=
  within_draw hbelow hfits.prompt hfits.text (Window.length_show_le ..) hfits.rows

variable {k : Key}

theorem step_cases (s : Session) (k : Key) :
    s.step k = ((s.press k).drawn.2, .inl (s.press k).drawn.1) ∨
      ∃ ending, s.step k = ((s.press k).cleared, .inr ending) := by
  unfold step
  cases k.action with
  | go => exact .inl rfl
  | commit => exact .inr ⟨_, rfl⟩
  | cancel => exact .inr ⟨_, rfl⟩

theorem obeyAll_press_drawn (hs : s.Counted) (hwidth : t.width = s.window.columns)
    (hfits : (s.press k).Fits) : (s.on t).obeyAll (s.press k).drawn.2 = (s.press k).on t := by
  refine (obeyAll_drawn (s := s.press k) (t := s.on t) (hs.blank t) hwidth hfits).trans ?_
  simp [on]

theorem obeyAll_press_cleared (hs : s.Counted) :
    (s.on t).obeyAll (s.press k).cleared = t.cleared := by
  refine ((s.on t).obeyAll_clear (hs.blank t)).trans ?_
  simp [on, Terminal.cleared]

theorem feed_cons_inl {commands : List Command} {s' : Session}
    (h : s.step k = (commands, .inl s')) (keys : List Key) :
    s.feed (k :: keys) = (commands ++ (s'.feed keys).1, (s'.feed keys).2) := by
  rw [feed, h]

theorem feed_cons_inr {commands : List Command} {ending : Ending}
    (h : s.step k = (commands, .inr ending)) (keys : List Key) :
    s.feed (k :: keys) = (commands, .inr ending) := by
  rw [feed, h]

/-- Whether a session fits its window whenever it is drawn as the keys are fed to it. -/
def FitsAlong (s : Session) (keys : List Key) : Prop :=
  ∀ ks, ks <+: keys → ∀ s', (s.feed ks).2 = .inl s' → s'.Fits

theorem FitsAlong.fits {keys : List Key} (h : s.FitsAlong keys) : s.Fits :=
  h [] List.nil_prefix s rfl

theorem FitsAlong.of_cons {keys : List Key} {commands : List Command} {s' : Session}
    (h : s.FitsAlong (k :: keys)) (hstep : s.step k = (commands, .inl s')) : s'.FitsAlong keys := by
  intro ks hks s'' hs''
  apply h (k :: ks) (List.cons_prefix_cons.2 ⟨rfl, hks⟩)
  rw [feed_cons_inl hstep]
  exact hs''

/-- What a run of a session leaves of a terminal. -/
def leaves (t : Terminal) : Session ⊕ Ending → Terminal
  | .inl s => s.on t
  | .inr _ => t.cleared

theorem obeyAll_feed {keys : List Key} (hs : s.Counted) (hwidth : t.width = s.window.columns)
    (hfits : s.FitsAlong keys) :
    (s.on t).obeyAll (s.feed keys).1 = leaves t (s.feed keys).2 := by
  induction keys generalizing s with
  | nil => rfl
  | cons k keys ih =>
      obtain hstep | ⟨ending, hstep⟩ := s.step_cases k
      · have hfits' := hfits.of_cons hstep
        rw [feed_cons_inl hstep, Terminal.obeyAll_append,
          obeyAll_press_drawn hs hwidth hfits'.fits.of_drawn, ← on_drawn]
        exact ih (s.press k).counted_drawn hwidth hfits'
      · rw [feed_cons_inr hstep]
        exact obeyAll_press_cleared hs

theorem within_feed {keys : List Key} (hs : s.Counted) (hfits : s.FitsAlong keys) :
    ∀ c ∈ (s.feed keys).1, c.Within s.window := by
  induction keys generalizing s with
  | nil =>
      intro c hc
      cases hc
  | cons k keys ih =>
      obtain hstep | ⟨ending, hstep⟩ := s.step_cases k
      · have hfits' := hfits.of_cons hstep
        rw [feed_cons_inl hstep]
        intro c hc
        obtain hc | hc := List.mem_append.1 hc
        · exact within_drawn (s := s.press k) hs.below_le hfits'.fits.of_drawn c hc
        · exact ih (s.press k).counted_drawn hfits' c hc
      · rw [feed_cons_inr hstep]
        exact within_clear (Nat.zero_lt_of_lt hfits.fits.prompt) hs.below_le

theorem foldl_press_below (s : Session) (n : Nat) (keys : List Key) :
    keys.foldl press { s with below := n } = { keys.foldl press s with below := n } := by
  induction keys generalizing s with
  | nil => rfl
  | cons k keys ih => exact ih (s.press k)

/-- A session that goes on is as its keys have left it, and its rows have been counted. -/
theorem feed_inl {keys : List Key} {s' : Session} (hs : s.Counted)
    (h : (s.feed keys).2 = .inl s') :
    s'.Counted ∧ s' = { keys.foldl press s with below := s'.below } := by
  induction keys generalizing s with
  | nil =>
      cases h
      exact ⟨hs, rfl⟩
  | cons k keys ih =>
      obtain hstep | ⟨ending, hstep⟩ := s.step_cases k
      · rw [feed_cons_inl hstep] at h
        obtain ⟨hcounted, heq⟩ := ih (s.press k).counted_drawn h
        refine ⟨hcounted, ?_⟩
        rw [heq]
        exact congrArg (fun s : Session => { s with below := s'.below })
          (foldl_press_below (s.press k) _ keys)
      · rw [feed_cons_inr hstep] at h
        cases h

theorem isPrefix_feed {ks keys : List Key} (h : ks <+: keys) :
    (s.feed ks).1 <+: (s.feed keys).1 := by
  induction keys generalizing s ks with
  | nil => rw [List.prefix_nil.1 h]
  | cons k keys ih =>
      cases ks with
      | nil => exact List.nil_prefix
      | cons k' ks =>
          obtain ⟨rfl, hks⟩ := List.cons_prefix_cons.1 h
          obtain hstep | ⟨ending, hstep⟩ := s.step_cases k'
          · rw [feed_cons_inl hstep, feed_cons_inl hstep]
            exact (List.prefix_append_right_inj _).2 (ih hks)
          · rw [feed_cons_inr hstep, feed_cons_inr hstep]

theorem obeyAll_run {keys : List Key}
    (hblank : ∀ row, t.row + s.below < row → t.cells row = rowOf [])
    (hwidth : t.width = s.window.columns) (hfits : s.drawn.1.FitsAlong keys) :
    t.obeyAll (s.run keys).1 = leaves t (s.run keys).2 := by
  refine (t.obeyAll_append s.drawn.2 _).trans ?_
  rw [obeyAll_drawn hblank hwidth hfits.fits.of_drawn, ← on_drawn]
  exact obeyAll_feed s.counted_drawn hwidth hfits

theorem within_run {keys : List Key} (hbelow : s.below ≤ s.window.rowsBelow)
    (hfits : s.drawn.1.FitsAlong keys) : ∀ c ∈ (s.run keys).1, c.Within s.window := by
  intro c hc
  obtain hc | hc := List.mem_append.1 hc
  · exact within_drawn hbelow hfits.fits.of_drawn c hc
  · exact within_feed s.counted_drawn hfits c hc

theorem run_inl {keys : List Key} {s' : Session} (h : (s.run keys).2 = .inl s') :
    s'.Counted ∧ s' = { keys.foldl press s with below := s'.below } := by
  obtain ⟨hcounted, heq⟩ := feed_inl s.counted_drawn h
  refine ⟨hcounted, heq.trans ?_⟩
  exact congrArg (fun s : Session => { s with below := s'.below }) (foldl_press_below s _ keys)

theorem Fits.of_run {keys : List Key} {s' : Session} (hfits : (keys.foldl press s).Fits)
    (h : (s.run keys).2 = .inl s') : s'.Fits := by
  rw [(run_inl h).2]
  exact ⟨hfits.prompt, hfits.text, hfits.rows⟩

end

/-- Whenever a session has drawn itself, its row shows the prompt and the rule, the counted rows
below it the preview or the error, and the rest below is blank. When it has ended, its own row is
blank too. What was above stays. -/
theorem run_redraws (trial : Trial) (window : Window) (colored : Bool) (t : Terminal)
    (keys : List Key) (hinput : t.input = .text) (hwidth : t.width = window.columns)
    (hblank : ∀ row, t.row < row → t.cells row = rowOf [])
    (hfits : ∀ ks, ks <+: keys → ∀ s, ((start trial window).run ks).2 = .inl s → s.Fits) :
    ∀ ks, ks <+: keys →
      let out := (start trial window).run ks
      let t' := t.readAll (out.1.flatMap (·.encode colored))
      out.1 <+: ((start trial window).run keys).1 ∧
      (window.columns < 2 ^ 16 → window.rows < 2 ^ 16 → ∀ c ∈ out.1, c.number < 2 ^ 16) ∧
      t'.row = t.row ∧
      (∀ s, out.2 = .inl s →
        s = { ks.foldl press (start trial window) with below := s.shown.length } ∧
        s.below ≤ window.rowsBelow ∧
        t'.column = promptText.length + s.editor.cursor ∧
        t'.cells =
          screen t.cells t.row ((promptText ++ s.editor.text) :: s.shown.map Row.text)) ∧
      ∀ ending, out.2 = .inr ending →
        t'.column = 0 ∧ t'.cells = screen t.cells t.row [] := by
  intro ks hks out t'
  have halong : (start trial window).drawn.1.FitsAlong ks :=
    fun ks' hks' => hfits ks' (hks'.trans hks)
  have hwithin : ∀ c ∈ out.1, c.Within window := within_run (Nat.zero_le _) halong
  have hleft : t' = leaves t out.2 :=
    (t.readAll_flatMap_encode colored (fun c hc => (hwithin c hc).prints) hinput).trans
      (obeyAll_run hblank hwidth halong)
  refine ⟨(List.prefix_append_right_inj _).2 (isPrefix_feed hks),
    fun hcolumns hrows c hc => (hwithin c hc).number_lt hcolumns hrows, ?_, ?_, ?_⟩
  · rw [hleft]
    cases out.2 with
    | inl s => rfl
    | inr ending => rfl
  · intro s hs
    obtain ⟨hcounted, heq⟩ := run_inl hs
    have hwindow : s.window = window := by
      rw [heq, foldl_press_frame]
      rfl
    rw [hleft, hs]
    refine ⟨?_, ?_, rfl, rfl⟩
    · rw [← show s.below = s.shown.length from hcounted]
      exact heq
    · rw [← hwindow]
      exact hcounted.below_le
  · intro ending hending
    rw [hleft, hending]
    exact ⟨rfl, rfl⟩

/-- The output, its form in JSON, an error, and the end. -/
theorem run_redraws_json_and_fault :
    let first := start ⟨[], none, ["b", "a"]⟩ ⟨24, 24, 3⟩
    let t : Terminal := ⟨24, fun _ _ => ' ', 3, 0, .text⟩
    let keys : List Key := [⟨.char 'j', true, false, false⟩, ⟨.char '2', false, false, false⟩,
      ⟨.enter, false, false, false⟩]
    let after (n : Nat) := t.readAll ((first.run (keys.take n)).1.flatMap (·.encode false))
    (∀ ks, ks <+: keys → ∀ s, (first.run ks).2 = .inl s → s.Fits) ∧
      (after 1).cells =
        screen t.cells 3 (promptText :: ["[", "  \"b\",", "  \"a\"", "]"].map String.toList) ∧
      (after 2).cells =
        screen t.cells 3 [promptText ++ ['2'], "      ^ expected rule".toList] ∧
      (after 3).cells = screen t.cells 3 [] ∧ (after 3).column = 0 := by
  intro first t keys after
  let json := first.press ⟨.char 'j', true, false, false⟩
  let fault := json.press ⟨.char '2', false, false, false⟩
  have hjson : json.shown = (["[", "  \"b\",", "  \"a\"", "]"].map (.output ·.toList)) := by cbv
  have hfault : fault.shown = [.fault "      ^ expected rule".toList] := by cbv
  have hfits : ∀ ks, ks <+: keys → ∀ s, (first.run ks).2 = .inl s → s.Fits := by
    intro ks hks s hs
    rw [← List.mem_inits] at hks
    simp only [keys, List.inits, List.map_cons, List.map_nil, List.mem_cons, List.not_mem_nil,
      or_false] at hks
    obtain rfl | rfl | rfl | rfl := hks
    · exact Fits.of_run (s := first) (by decide) hs
    · have hfits : json.Fits := ⟨by decide, by decide, by rw [hjson]; decide⟩
      refine Fits.of_run ?_ hs
      exact hfits
    · have hfits : fault.Fits := ⟨by decide, by decide, by rw [hfault]; decide⟩
      refine Fits.of_run ?_ hs
      exact hfits
    · cases hs
  have hrun := fun n => run_redraws ⟨[], none, ["b", "a"]⟩ ⟨24, 24, 3⟩ false t keys rfl rfl
    (fun _ _ => rfl) hfits (keys.take n) (List.take_prefix n keys)
  obtain ⟨-, -, -, hdrawn₁, -⟩ := hrun 1
  obtain ⟨-, -, -, hdrawn₂, -⟩ := hrun 2
  obtain ⟨-, -, -, -, hended⟩ := hrun 3
  refine ⟨hfits, ?_, ?_, (hended _ rfl).2, (hended _ rfl).1⟩
  · rw [(hdrawn₁ json.drawn.1 rfl).2.2.2, shown_drawn, hjson]
    rfl
  · rw [(hdrawn₂ fault.drawn.1 rfl).2.2.2, shown_drawn, hfault]
    rfl

end Session
end Linewise.Prompt
