import LiftRig.CommandLine.Run
import Mathlib.Data.List.Forall2

/-!
# What a report holds

A snapshot is reported as a table, or as JSON. Here it is said what either holds, apart from how it
is printed. Main statement: the report has one row or one record for each reading, in their order,
which tells the reading, and it is the only text of this kind. How JSON is printed is left open.
-/

namespace LiftRig.CommandLine

variable {r : Rig.Reading} {readings : List Rig.Reading}

/-- A word fills a column, with blanks for what it leaves of the width. -/
def Fills (width : Nat) (word column : String) : Prop :=
  ∃ blanks : Nat, column = word ++ String.ofList (List.replicate blanks ' ') ∧
    word.length + blanks = max width word.length

/-- What the columns of the table say of a reading, each with its width. -/
def columns (r : Rig.Reading) : List (Nat × String) :=
  [(10, r.channel.text), (18, r.channel.name?.getD "-"), (6, r.port.name),
    (7, r.port.signal.text), (6, r.port.direction.text)]

/-- A row tells a reading: the columns, and the value last, with a blank between each two. -/
def IsRow (r : Rig.Reading) (row : String) : Prop :=
  ∃ filled, List.Forall₂ (fun column text => Fills column.1 column.2 text) (columns r) filled ∧
    row = String.intercalate " " (filled ++ [toString r.value.toNat])

/-- The fields of a record tell a reading. -/
structure IsRecord (r : Rig.Reading) (fields : List (String × Data)) : Prop where
  names : fields.map Prod.fst = ["channel", "name", "port", "kind", "direction", "value"]
  channel : fields.lookup "channel" = some (.text r.channel.text)
  name : fields.lookup "name" = some ((r.channel.name?.map Data.text).getD .null)
  port : fields.lookup "port" = some (.text r.port.name)
  kind : fields.lookup "kind" = some (.text r.port.signal.text)
  direction : fields.lookup "direction" = some (.text r.port.direction.text)
  value : fields.lookup "value" = some (.int r.value.toNat)

/-- A text reports readings: as JSON by a list of records, and else by a line for each row. -/
def Reports (pretty : Data → String) (json : Bool) (readings : List Rig.Reading) (text : String) :
    Prop :=
  if json then ∃ records, List.Forall₂ IsRecord readings records ∧
    text = pretty (.list (records.map .record)) ++ "\n"
  else ∃ rows, List.Forall₂ IsRow readings rows ∧ text = String.join (rows.map (· ++ "\n"))

/-- Lists are related by a function exactly if one is the image of the other. -/
theorem forall₂_iff_eq_map {α β : Type} {R : α → β → Prop} {f : α → β}
    (h : ∀ a b, R a b ↔ b = f a) {l : List α} {l' : List β} :
    List.Forall₂ R l l' ↔ l' = l.map f := by
  have hR : R = fun a b => f a = b := by
    ext a b
    rw [h, eq_comm]
  rw [hR, ← List.forall₂_map_left_iff, List.forall₂_eq_eq_eq, eq_comm]

theorem fills_iff (width : Nat) (word column : String) :
    Fills width word column ↔ column = Text.padLeftAligned width word := by
  constructor
  · rintro ⟨blanks, rfl, hwidth⟩
    obtain rfl : blanks = width - word.length := by omega
    rfl
  · rintro rfl
    exact ⟨width - word.length, rfl, by omega⟩

theorem isRow_iff {row : String} : IsRow r row ↔ row = readingRow r := by
  have hfilled : ∀ filled,
      List.Forall₂ (fun column text => Fills column.1 column.2 text) (columns r) filled ↔
        filled = (columns r).map fun column => Text.padLeftAligned column.1 column.2 :=
    fun _ => forall₂_iff_eq_map fun (column : Nat × String) => fills_iff column.1 column.2
  constructor
  · rintro ⟨filled, hcolumns, rfl⟩
    obtain rfl := (hfilled filled).1 hcolumns
    rfl
  · rintro rfl
    exact ⟨_, (hfilled _).2 rfl, rfl⟩

theorem isRecord_iff {fields : List (String × Data)} :
    IsRecord r fields ↔ fields = readingFields r := by
  constructor
  · rintro ⟨hnames, hchannel, hname, hport, hkind, hdirection, hvalue⟩
    match fields, hnames with
    | [(_, _), (_, _), (_, _), (_, _), (_, _), (_, _)], hnames =>
      simp only [List.map_cons, List.map_nil, List.cons.injEq, and_true] at hnames
      obtain ⟨rfl, rfl, rfl, rfl, rfl, rfl⟩ := hnames
      simp [Registry.lookup_cons_ite] at hchannel hname hport hkind hdirection hvalue
      simp [readingFields, hchannel, hname, hport, hkind, hdirection, hvalue]
  · rintro rfl
    constructor <;> rfl

/-- The report tells each reading once, and no other text does. -/
theorem reports_iff {pretty : Data → String} {json : Bool} {text : String} :
    Reports pretty json readings text ↔ text = statusReport pretty json readings := by
  have hrows : ∀ rows, List.Forall₂ IsRow readings rows ↔ rows = readings.map readingRow :=
    fun _ => forall₂_iff_eq_map fun r _ => isRow_iff (r := r)
  have hrecords : ∀ records, List.Forall₂ IsRecord readings records ↔
      records = readings.map readingFields :=
    fun _ => forall₂_iff_eq_map fun r _ => isRecord_iff (r := r)
  cases json with
  | true =>
    have hreport : statusReport pretty true readings =
        pretty (.list ((readings.map readingFields).map .record)) ++ "\n" := by
      rw [List.map_map]
      rfl
    simp only [Reports, if_true, hrecords, exists_eq_left, hreport]
  | false =>
    have hreport : statusReport pretty false readings =
        String.join ((readings.map readingRow).map (· ++ "\n")) := by
      rw [List.map_map]
      rfl
    simp only [Reports, Bool.false_eq_true, if_false, hrows, exists_eq_left, hreport]

end LiftRig.CommandLine
