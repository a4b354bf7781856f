import LiftRig.CommandLine.Run
import LiftRig.Driver.Double
import LiftRig.Proofs.ByteOrder
import Mathlib.Data.List.Induction

/-!
# Histories of a table of drivers

Drivers are offered to a table one after the other, under names that may be taken, empty or the
beginning of one another. Main statement: after every history, from no driver or from the built-in
ones, the table is a map that is written once. A name is refused exactly if it is taken, the names
are those accepted so far and ascend by their bytes, and each name stands for what it stood for
first.
-/

namespace LiftRig

universe u

namespace Registry

variable {α : Type u} {r : Registry α} {name : String} {a : α} {entries : List (String × α)}

/-! ## One registration -/

/-- The names ascend, and none occurs twice. -/
def Ordered (r : Registry α) : Prop := r.names.Pairwise (· < ·)

/-- The table after a driver was offered to it. -/
def offer (r : Registry α) (entry : String × α) : Registry α :=
  match r.register entry.1 entry.2 with
  | .ok r' => r'
  | .error _ => r

/-- A name that stands for something is listed. -/
theorem contains_iff_mem_names : r.contains name = true ↔ name ∈ r.names := by
  rw [contains, find?, List.lookup_isSome_iff, names, List.mem_map]
  refine exists_congr fun entry => and_congr_right fun _ => ?_
  rw [beq_iff_eq]
  exact eq_comm

theorem find?_eq_none_iff : r.find? name = none ↔ name ∉ r.names := by
  rw [← contains_iff_mem_names, contains, Bool.not_eq_true, Option.isSome_eq_false_iff,
    Option.isNone_iff_eq_none]

/-- A name that is taken is refused. -/
theorem register_of_mem (h : name ∈ r.names) (a : α) : r.register name a =
    .error (.badConfiguration ("driver '" ++ name ++ "' is registered twice")) :=
  if_pos (contains_iff_mem_names.2 h)

/-- A new name is accepted. -/
theorem register_of_not_mem (h : name ∉ r.names) (a : α) :
    r.register name a = .ok ⟨insertIn name a r.entries⟩ :=
  if_neg (mt contains_iff_mem_names.1 h)

theorem offer_of_mem (h : name ∈ r.names) (a : α) : r.offer (name, a) = r := by
  rw [offer, register_of_mem h]

theorem offer_of_not_mem (h : name ∉ r.names) (a : α) :
    r.offer (name, a) = ⟨insertIn name a r.entries⟩ := by
  rw [offer, register_of_not_mem h]

theorem mem_insertIn {entry : String × α} :
    entry ∈ insertIn name a entries ↔ entry = (name, a) ∨ entry ∈ entries := by
  induction entries with
  | nil => rw [insertIn, List.mem_singleton, List.mem_nil_iff, or_false]
  | cons head rest ih =>
    rw [insertIn]
    split
    · exact List.mem_cons
    · rw [List.mem_cons, List.mem_cons, ih]
      exact or_left_comm

/-- A new name takes its place among the others. -/
theorem pairwise_insertIn (h : (entries.map Prod.fst).Pairwise (· < ·))
    (hnew : name ∉ entries.map Prod.fst) :
    ((insertIn name a entries).map Prod.fst).Pairwise (· < ·) := by
  induction entries with
  | nil => exact List.pairwise_singleton _ _
  | cons head rest ih =>
    obtain ⟨hhead, hrest⟩ := List.pairwise_cons.1 h
    rw [insertIn]
    by_cases hlt : name < head.1
    · rw [if_pos hlt]
      refine List.pairwise_cons.2 ⟨fun other hother => ?_, h⟩
      rcases List.mem_cons.1 hother with rfl | hother
      · exact hlt
      · exact hlt.trans (hhead other hother)
    · rw [if_neg hlt]
      have hgt : head.1 < name :=
        lt_of_le_of_ne (not_lt.1 hlt) fun h => hnew (h ▸ List.mem_cons_self)
      have hothers := ih hrest fun hmem => hnew (List.mem_cons_of_mem _ hmem)
      refine List.pairwise_cons.2 ⟨fun other hother => ?_, hothers⟩
      obtain ⟨entry, hentry, rfl⟩ := List.mem_map.1 hother
      rcases mem_insertIn.1 hentry with rfl | hentry
      · exact hgt
      · exact hhead _ (List.mem_map_of_mem hentry)

theorem Ordered.offer (h : r.Ordered) (entry : String × α) : (r.offer entry).Ordered := by
  by_cases hmem : entry.1 ∈ r.names
  · rw [offer_of_mem hmem]
    exact h
  · rw [offer_of_not_mem hmem]
    exact pairwise_insertIn h hmem

/-- A name that is offered is listed afterwards, and so is what was listed. -/
theorem mem_names_offer (r : Registry α) (entry : String × α) :
    name ∈ (r.offer entry).names ↔ name = entry.1 ∨ name ∈ r.names := by
  by_cases hmem : entry.1 ∈ r.names
  · rw [offer_of_mem hmem]
    exact ⟨.inr, fun h => h.elim (fun he => he ▸ hmem) id⟩
  · rw [offer_of_not_mem hmem, names, names, List.mem_map, List.mem_map]
    simp only [mem_insertIn, exists_eq_or_imp]
    exact or_congr eq_comm Iff.rfl

/-- What a name stands for is kept, and a new name stands for what was offered. -/
theorem find?_offer (r : Registry α) (entry : String × α) (name : String) :
    (r.offer entry).find? name = (r.find? name).or ([entry].lookup name) := by
  have hone : [entry].lookup name = if name = entry.1 then some entry.2 else none :=
    lookup_cons_ite name entry.1 entry.2 []
  rw [hone]
  by_cases hmem : entry.1 ∈ r.names
  · rw [offer_of_mem hmem]
    by_cases hname : name = entry.1
    · obtain ⟨b, hb⟩ := Option.isSome_iff_exists.1 (contains_iff_mem_names.2 hmem)
      rw [hname, hb, Option.some_or]
    · rw [if_neg hname, Option.or_none]
  · have hfree := find?_eq_none_iff.2 hmem
    rw [offer_of_not_mem hmem]
    refine (lookup_insertIn name entry.2 hfree).trans ?_
    by_cases hname : name = entry.1
    · rw [if_pos hname, if_pos hname, hname, hfree, Option.none_or]
    · rw [if_neg hname, if_neg hname, Option.or_none]
      rfl

/-! ## Histories -/

/-- The table after drivers were offered to it one after the other. -/
def offerAll (r : Registry α) (calls : List (String × α)) : Registry α := calls.foldl offer r

theorem offerAll_append (r : Registry α) (calls more : List (String × α)) :
    r.offerAll (calls ++ more) = (r.offerAll calls).offerAll more := List.foldl_append

theorem offerAll_concat (r : Registry α) (calls : List (String × α)) (entry : String × α) :
    r.offerAll (calls ++ [entry]) = (r.offerAll calls).offer entry := offerAll_append r calls _

theorem Ordered.offerAll (h : r.Ordered) (calls : List (String × α)) :
    (r.offerAll calls).Ordered := by
  induction calls generalizing r with
  | nil => exact h
  | cons entry rest ih => exact ih (h.offer entry)

/-- Each name stands for what it stood for first. -/
theorem find?_offerAll (r : Registry α) (calls : List (String × α)) (name : String) :
    (r.offerAll calls).find? name = (r.entries ++ calls).lookup name := by
  rw [List.lookup_append]
  induction calls generalizing r with
  | nil => exact Option.or_none.symm
  | cons entry rest ih =>
    refine (ih (r.offer entry)).trans ?_
    have hoffer : (r.offer entry).entries.lookup name =
        (r.entries.lookup name).or ([entry].lookup name) := find?_offer r entry name
    have hcons : (entry :: rest).lookup name = ([entry].lookup name).or (rest.lookup name) :=
      (List.lookup_append : ([entry] ++ rest).lookup name = _)
    rw [hoffer, hcons, Option.or_assoc]

theorem mem_names_offerAll_of_mem (h : name ∈ r.names) (calls : List (String × α)) :
    name ∈ (r.offerAll calls).names := by
  induction calls generalizing r with
  | nil => exact h
  | cons entry rest ih => exact ih ((mem_names_offer r entry).2 (.inr h))

/-- The name was accepted in the course of the history. -/
def Accepted (r : Registry α) (calls : List (String × α)) (name : String) : Prop :=
  ∃ done a later, calls = done ++ (name, a) :: later ∧
    ∃ r', (r.offerAll done).register name a = .ok r'

/-- The names are those of the beginning and those accepted. -/
theorem mem_names_offerAll (r : Registry α) (calls : List (String × α)) (name : String) :
    name ∈ (r.offerAll calls).names ↔ name ∈ r.names ∨ r.Accepted calls name := by
  constructor
  · intro h
    induction calls using List.reverseRecOn with
    | nil => exact .inl h
    | append_singleton calls entry ih =>
      -- If the name was not listed before the last call, it is the last call that was accepted.
      by_cases hbefore : name ∈ (r.offerAll calls).names
      · refine (ih hbefore).imp_right ?_
        rintro ⟨done, a, later, rfl, haccepted⟩
        exact ⟨done, a, later ++ [entry], by simp, haccepted⟩
      · rw [offerAll_concat] at h
        obtain rfl := ((mem_names_offer _ entry).1 h).resolve_right hbefore
        exact .inr ⟨calls, entry.2, [], rfl, _, register_of_not_mem hbefore entry.2⟩
  · rintro (h | ⟨done, a, later, rfl, -⟩)
    · exact mem_names_offerAll_of_mem h calls
    · rw [List.append_cons, offerAll_append, offerAll_concat]
      exact mem_names_offerAll_of_mem ((mem_names_offer _ _).2 (.inl rfl)) later

theorem ordered_empty : ({} : Registry α).Ordered := List.Pairwise.nil

theorem ordered_builtin (instants : Nat → Nat) : (CommandLine.builtin instants).Ordered :=
  List.pairwise_singleton _ _

/-- A table that is a map written once, after a history of registrations from another one. -/
structure WrittenOnce (r₀ : Registry α) (calls : List (String × α)) (r : Registry α) : Prop where
  /-- A name is accepted exactly if it is not listed. -/
  accepted : ∀ name a, (∃ r', r.register name a = .ok r') ↔ name ∉ r.names
  /-- A name that is listed is refused, and the table left as it was. -/
  refused : ∀ name a, name ∈ r.names → r.offer (name, a) = r ∧
    r.register name a =
      .error (.badConfiguration ("driver '" ++ name ++ "' is registered twice"))
  /-- The names ascend by their bytes. -/
  ascending : r.names.Pairwise fun s t => Text.bytes s < Text.bytes t
  /-- The names are those of the beginning and those accepted. -/
  listed : ∀ name, name ∈ r.names ↔ name ∈ r₀.names ∨ r₀.Accepted calls name
  contained : ∀ name, r.contains name = true ↔ name ∈ r.names
  created : ∀ name, (∃ a, r.create name = .ok a) ↔ name ∈ r.names
  /-- What is created is what was first registered under the name. -/
  first : ∀ name, r.create name =
    match (r₀.entries ++ calls).lookup name with
    | some a => .ok a
    | none => .error (.driverNotFound name)
  /-- Nothing that is registered later changes what is created. -/
  lasting : ∀ name a, r.create name = .ok a → ∀ more, (r.offerAll more).create name = .ok a

theorem create_eq_ok_iff : r.create name = .ok a ↔ r.find? name = some a := by
  rw [create]
  cases r.find? name <;> simp

theorem create_of_find?_eq_none (h : r.find? name = none) :
    r.create name = .error (.driverNotFound name) := by
  simp only [create, h]

/-- A table whose names ascend is written once, whatever is offered to it. -/
theorem Ordered.writtenOnce (h : r.Ordered) (calls : List (String × α)) :
    WrittenOnce r calls (r.offerAll calls) where
  accepted name a := by
    refine ⟨?_, fun hnew => ⟨_, register_of_not_mem hnew a⟩⟩
    rintro ⟨r', haccepted⟩ hmem
    cases (register_of_mem hmem a).symm.trans haccepted
  refused name a hmem := ⟨offer_of_mem hmem a, register_of_mem hmem a⟩
  ascending := (h.offerAll calls).imp Text.bytes_lt_bytes.2
  listed := mem_names_offerAll r calls
  contained name := contains_iff_mem_names
  created name := by
    simp only [create_eq_ok_iff]
    rw [← contains_iff_mem_names, contains, Option.isSome_iff_exists]
  first name := by
    have hfind := find?_offerAll r calls name
    cases hfirst : (r.entries ++ calls).lookup name with
    | some a => exact create_eq_ok_iff.2 (hfind.trans hfirst)
    | none => exact create_of_find?_eq_none (hfind.trans hfirst)
  lasting name a hcreated more := by
    rw [create_eq_ok_iff] at hcreated ⊢
    rw [find?_offerAll, List.lookup_append]
    have hfound : (r.offerAll calls).entries.lookup name = some a := hcreated
    rw [hfound, Option.some_or]

end Registry

open Registry

/-- From no driver or from the built-in ones, after every history of registrations, the table is a
map that is written once. -/
theorem registry_is_written_once (instants : Nat → Nat) {r₀ : Registry Driver}
    (hstart : r₀ = {} ∨ r₀ = CommandLine.builtin instants) (calls : List (String × Driver)) :
    WrittenOnce r₀ calls (r₀.offerAll calls) := by
  rcases hstart with rfl | rfl
  · exact ordered_empty.writtenOnce calls
  · exact (ordered_builtin instants).writtenOnce calls

/-- The test double is offered under the name of the simulator, under an empty name and under a
beginning of the simulator's name, and the simulator under the last two again. -/
theorem registry_is_written_once_with_alike_names :
    let start := CommandLine.builtin id
    let calls : List (String × Driver) := [("simulation", Double.driver), ("", Double.driver),
      ("sim", Double.driver), ("", Simulator.driver), ("sim", Simulator.driver)]
    let r := start.offerAll calls
    WrittenOnce start calls r ∧ WrittenOnce {} calls (({} : Registry Driver).offerAll calls) ∧
      r.names = ["", "sim", "simulation"] ∧
      (({} : Registry Driver).offerAll calls).names = r.names ∧
      r.create "" = .ok Double.driver ∧ r.create "sim" = .ok Double.driver ∧
      r.create "simulation" = .ok (Simulator.driver.onClock id) ∧
      r.create "si" = .error (.driverNotFound "si") := by
  intro start calls r
  have hbuiltin := registry_is_written_once id (.inr rfl) calls
  have hempty := registry_is_written_once id (.inl rfl) calls
  refine ⟨hbuiltin, hempty, ?_, ?_, hbuiltin.first "", hbuiltin.first "sim",
    hbuiltin.first "simulation", hbuiltin.first "si"⟩
  · rfl
  · rfl

end LiftRig
