import BracketCue.Proofs.Terminal.Writes

/-!
# The display

The model cursor together with what is on the screen: an operation that writes a character puts it
where the cursor stands, with the highlight on or off, and takes the cursor one column further.

* `Display.run_eq`: a run of operations puts its writes on the sheet, one after the other.
* `foldl_put_apply`: the last write at a place decides what stands there.
-/
namespace BracketCue.Terminal

/-- What stands at each place of the screen. -/
abbrev Sheet := Place → Mark

def Sheet.put (s : Sheet) (w : Write) : Sheet :=
  fun p => if p = w.place then w.mark else s p

/-- A cursor on a sheet. -/
structure Display where
  cursor : Cursor
  sheet : Sheet

namespace Display

def step (d : Display) (op : Op) : Display where
  cursor := d.cursor.step op
  sheet :=
    match op with
    | .highlight c => d.sheet.put ⟨d.cursor.place, c, true⟩
    | .unhighlight c => d.sheet.put ⟨d.cursor.place, c, false⟩
    | _ => d.sheet

def run (d : Display) (ops : List Op) : Display :=
  ops.foldl step d

theorem step_eq (d : Display) (op : Op) :
    d.step op = ⟨d.cursor.step op, (d.cursor.writes [op]).foldl Sheet.put d.sheet⟩ := by
  cases op <;> rfl

theorem run_eq (d : Display) (ops : List Op) :
    d.run ops = ⟨d.cursor.run ops, (d.cursor.writes ops).foldl Sheet.put d.sheet⟩ := by
  induction ops generalizing d with
  | nil => rfl
  | cons op rest ih =>
    have split : d.cursor.writes (op :: rest) =
        d.cursor.writes [op] ++ (d.cursor.step op).writes rest := d.cursor.writes_append [op] rest
    rw [split, List.foldl_append]
    exact (ih (d.step op)).trans (by rw [step_eq]; rfl)

end Display

theorem foldl_put_apply (ws : List Write) (s : Sheet) (p : Place) :
    ws.foldl Sheet.put s p =
      ((ws.filter (·.place = p)).getLast?.map (·.mark)).getD (s p) := by
  induction ws generalizing s with
  | nil => rfl
  | cons w rest ih =>
    rw [List.foldl_cons, ih]
    by_cases hp : w.place = p
    · rw [List.filter_cons_of_pos (by simpa using hp), List.getLast?_cons]
      cases (rest.filter (·.place = p)).getLast? with
      | none => simp [Sheet.put, hp]
      | some w' => rfl
    · rw [List.filter_cons_of_neg (by simpa using hp)]
      simp [Sheet.put, Ne.symm hp]

end BracketCue.Terminal
