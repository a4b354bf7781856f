/-!
# Structured data

Values as configuration files and exchanged records hold them, and the reading of
scalars, choices and records from them. Two families of files write the same data in
slightly different ways; a `Form` states where they differ. A record may also be given as
the list of its fields in order. Main statement: the number of a word reads back as that word.
-/

namespace LiftRig

/-- A value of structured data. -/
inductive Data where
  | null
  | bool (value : Bool)
  | int (value : Int)
  /-- A number without an integer value, as written. -/
  | real (written : String)
  /-- A date, a time or both, as written. -/
  | moment (written : String)
  | text (value : String)
  | list (items : List Data)
  /-- Named fields; no name occurs twice. -/
  | record (fields : List (String × Data))
deriving Repr, Inhabited

namespace Data

/-- How a family of files writes what the families write differently. -/
structure Form where
  /-- Content that a choice without content may carry when it is written as a record. -/
  isVoid : Data → Bool
  /-- Whether a list that stands for a record may be longer than the record. -/
  longLists : Bool

/-- Exchanged records: a choice may carry a null, and lists fit exactly. -/
def exchanged : Form where
  isVoid
    | .null => true
    | _ => false
  longLists := false

/-- Configuration files: a choice may carry an empty list or record, and what a list
holds beyond the fields of a record is ignored. -/
def filed : Form where
  isVoid
    | .list [] => true
    | .record [] => true
    | _ => false
  longLists := true

/-! ## Scalars -/

/-- A truth value. -/
def bool? : Data → Option Bool
  | .bool b => some b
  | _ => none

/-- A text. -/
def text? : Data → Option String
  | .text s => some s
  | _ => none

/-- A natural number below the bound. -/
def below? (bound : Nat) : Data → Option Nat
  | .int n => if 0 ≤ n ∧ n < bound then some n.toNat else none
  | _ => none

/-- Number of a byte. -/
def byte? (d : Data) : Option UInt8 := (d.below? UInt8.size).map UInt8.ofNat

/-- Number of sixteen bits. -/
def word16? (d : Data) : Option UInt16 := (d.below? UInt16.size).map UInt16.ofNat

/-- Number of 32 bits. -/
def word32? (d : Data) : Option UInt32 := (d.below? UInt32.size).map UInt32.ofNat

/-- Number of 64 bits. -/
def word64? (d : Data) : Option UInt64 := (d.below? UInt64.size).map UInt64.ofNat

/-- The items of a list, each read. -/
def listOf? {α : Type} (read : Data → Option α) : Data → Option (List α)
  | .list items => items.mapM read
  | _ => none

/-! ## Choices and records -/

/-- One of several named values: its name, or a record of the name with void content. -/
def choice? {α : Type} (form : Form) (names : List (String × α)) : Data → Option α
  | .text s => names.lookup s
  | .record [(s, content)] => if form.isVoid content then names.lookup s else none
  | _ => none

/-- Contents of the named fields, each absent or not, of a record or of a list that stands
for one. A closed record has no other fields. -/
def members? (form : Form) (closed : Bool) (names : List String) :
    Data → Option (List (Option Data))
  | .record fields =>
    if closed && fields.any (fun field => !names.contains field.1) then none
    else if (fields.map (·.1)).Nodup then some (names.map fun name => fields.lookup name)
    else none
  | .list items =>
    if items.length ≤ names.length ∨ form.longLists then
      some ((List.range names.length).map (items[·]?))
    else none
  | _ => none

/-- A field that must be there. -/
def required {α : Type} (read : Data → Option α) (field : Option Data) : Option α :=
  field.bind read

/-- A field that may be absent, with its default. -/
def defaulted {α : Type} (default : α) (read : Data → Option α) : Option Data → Option α
  | none => some default
  | some d => read d

@[simp] theorem defaulted_none {α : Type} (a : α) (read : Data → Option α) :
    defaulted a read none = some a := rfl

@[simp] theorem defaulted_some {α : Type} (a : α) (read : Data → Option α) (d : Data) :
    defaulted a read (some d) = read d := rfl

@[simp] theorem required_some {α : Type} (read : Data → Option α) (d : Data) :
    required read (some d) = read d := rfl

theorem below?_ofNat {bound n : Nat} (h : n < bound) :
    (Data.int n).below? bound = some n := by
  simp [below?, h]

@[simp] theorem byte?_toNat (n : UInt8) : (Data.int n.toNat).byte? = some n := by
  simp [byte?, below?_ofNat n.toNat_lt]

@[simp] theorem word16?_toNat (n : UInt16) : (Data.int n.toNat).word16? = some n := by
  simp [word16?, below?_ofNat n.toNat_lt]

@[simp] theorem word32?_toNat (n : UInt32) : (Data.int n.toNat).word32? = some n := by
  simp [word32?, below?_ofNat n.toNat_lt]

@[simp] theorem word64?_toNat (n : UInt64) : (Data.int n.toNat).word64? = some n := by
  simp [word64?, below?_ofNat n.toNat_lt]

end Data

end LiftRig
