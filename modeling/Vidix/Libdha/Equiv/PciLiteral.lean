import Vidix.Libdha.PciLiteral
import Vidix.Libdha.Equiv.PciIds
import Vidix.Util.Table

/-!
# Correctness of the names in the tables

`literal_roundTrips_iff`: the literal that is written for a line stands for its name iff there is no
backslash in the name.

`kill_double_quoting` escapes the quotes of a name (`killDoubleQuoting_eq`), and the id and the two
spaces before it are cut off where they end, so the row of a line holds the escaped name between two
quotes (`rows_line`).  The rest is what `readLiteral_escapeQuotes_iff` says of escaped texts.
-/

namespace Vidix.Libdha.PciDb2c

open Util

/-! ### The row of a line -/

theorem rows_append (ws vs : List Write) : rows (ws ++ vs) = rows ws ++ rows vs :=
  List.filterMap_append

/-- The row that is written for a name. -/
def NameLine.row (l : NameLine) : Text :=
  match l with
  | vendor v => rowStart v.id.text ++ quoteChar :: (escapeQuotes v.name ++ quoteChar :: l.rest)
  | device id name => rowStart id.text ++ quoteChar :: (escapeQuotes name ++ quoteChar :: l.rest)

theorem rows_emit_vendor (s : State) (item : Item) :
    rows (emit s (.vendor item)).2 =
      [rowStart item.id ++ quoteChar :: (item.name ++ quoteChar :: vendorRowEnd item.id)] := by
  rw [rows, emit, List.filterMap_append, List.filterMap_append]
  cases s.firstPass <;> rfl

/-- Subdevices have no rows. -/
theorem rows_run_of_onlySubdevices {es : List Entry} (hes : OnlySubdevices es) (s : State) :
    rows (run s es) = [] := by
  induction es generalizing s with
  | nil => rfl
  | cons e es ih =>
    obtain ⟨item, rfl⟩ := hes e List.mem_cons_self
    exact ih (fun e he => hes e (List.mem_cons_of_mem _ he)) _

/-- **One row is written for a line, with its name escaped.** -/
theorem rows_line (zeroIsFirst : Bool) (s : State) (l : NameLine) :
    rows (run s (entries zeroIsFirst l.line)) = [l.row] := by
  cases l with
  | vendor v =>
    rw [NameLine.line, entries_vendor, run, rows_append, rows_emit_vendor]
    split_ifs <;> rfl
  | device id name =>
    obtain ⟨es, hes, heq⟩ := entries_device zeroIsFirst id name
    have hes := rows_run_of_onlySubdevices hes (emit s (.device (deviceItem (id, name)))).1
    rw [NameLine.line, heq, run, rows_append]
    exact congrArg ([NameLine.row (.device id name)] ++ ·) hes

/-! ### The literal of a row -/

/-- The first quote of a row is the one after its id. -/
theorem dropWhile_rowStart (id : Id) (s : Text) :
    (rowStart id.text ++ quoteChar :: s).dropWhile (· ≠ quoteChar) = quoteChar :: s := by
  have hstart : ∀ c ∈ rowStart id.text, decide (c ≠ quoteChar) = true := by
    intro c hc
    refine decide_eq_true ?_
    rintro rfl
    rw [rowStart, List.mem_append, List.mem_append] at hc
    rcases hc with (hc | hc) | hc
    · exact absurd hc (by decide)
    · exact id.notMem (c := quoteChar) (by decide) hc
    · exact absurd hc (by decide)
  rw [List.dropWhile_append_of_pos hstart, List.dropWhile_cons, if_neg (by decide)]

theorem literalOf_row (l : NameLine) :
    literalOf l.row = readLiteral (escapeQuotes l.name ++ quoteChar :: l.rest) := by
  cases l with
  | vendor v => rw [literalOf, NameLine.row, dropWhile_rowStart]; rfl
  | device id name => rw [literalOf, NameLine.row, dropWhile_rowStart]; rfl

/-- **The literal of a line stands for its name, and ends where it should, iff the name holds no
backslash.** -/
theorem literal_roundTrips_iff (zeroIsFirst : Bool) (s : State) (l : NameLine)
    (hline : newlineChar ∉ l.name) : RoundTrips zeroIsFirst s l ↔ backslashChar ∉ l.name := by
  refine Iff.trans ?_ (readLiteral_escapeQuotes_iff hline l.rest)
  rw [RoundTrips, rows_line, ← literalOf_row]
  constructor
  · rintro ⟨row, hrow, hliteral⟩
    rwa [List.singleton_inj.1 hrow]
  · intro hliteral
    exact ⟨l.row, rfl, hliteral⟩

/-- A device whose name ends with a backslash, and one with quotes in its name. -/
def backslashLine : NameLine :=
  .device ⟨['0', '0', '0', '1'], by decide, forall_mem_of_all (by decide)⟩ ['A', backslashChar]

def quotedLine : NameLine :=
  .device ⟨['0', '0', '0', '2'], by decide, forall_mem_of_all (by decide)⟩
    ['B', quoteChar, 'C', quoteChar]

theorem literal_roundTrips_quoted :
    RoundTrips true State.init quotedLine ↔ backslashChar ∉ quotedLine.name :=
  literal_roundTrips_iff true State.init quotedLine (by decide)

/-- The literal runs over the end of its row. -/
theorem literal_swallows_row :
    literalOf backslashLine.row = none ∧ ¬ RoundTrips true State.init backslashLine := by
  have hescape : readEscape (quoteChar :: rowEnd) = some ([quoteChar], rowEnd) := rfl
  have hrest : readLiteral rowEnd = none :=
    readLiteral_eq_none_of_line (s := [' ', '}', ',']) (forall_mem_of_all (by decide)) []
  have hliteral : literalOf backslashLine.row = none := by
    rw [literalOf_row]
    change readLiteral ('A' :: backslashChar :: quoteChar :: rowEnd) = none
    rw [readLiteral_cons (by decide) (by decide) (by decide), readLiteral_backslash hescape, hrest]
    rfl
  refine ⟨hliteral, ?_⟩
  rintro ⟨row, hrow, hread⟩
  rw [rows_line] at hrow
  rw [← List.singleton_inj.1 hrow, hliteral] at hread
  cases hread

end Vidix.Libdha.PciDb2c
