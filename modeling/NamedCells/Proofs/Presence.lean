import Mathlib.Data.List.Sort
import Mathlib.Data.String.Basic
import Mathlib.Tactic.TFAE
import NamedCells.Proofs.RegistryInvariant
import NamedCells.Proofs.Utf8Order

/-!
# Presence

Whether there is a cell can be asked in many ways: directly, by looking through the list of all
names, or by trying to read, assign or remove the cell.  In an engine that was made and used by its
operations all of these agree for every string, also for one that is no well-formed name: what is
asked directly does not check the name, but no cell is ever stored under a bad one.

The list of all names has each name once, in ascending order of the bytes.  It is what comes of
sorting the names in whatever order they are collected, so nothing about the order of creations and
removals can be read off it.

## Main results

* `Registry.lookup_succeeds_iff`, `Registry.assign_succeeds_iff`, `Registry.remove_succeeds_iff` —
  when the operations on a cell succeed.
* `Registry.Sound.good_of_contains` — only well-formed names are taken.
* `Registry.mergeSort_eq_names` — the order in which names are collected does not matter.
* `Registry.names_ascending`, `Registry.names_congr` — the list of names is in order, and follows
  from what is present.
* `present_in_every_sense` — **presence is one notion.**
-/

namespace NamedCells

namespace Registry

variable {r s : Registry} {name : String} {value : Binary64}

/-! ### Success -/

theorem contains_iff : r.contains name = true ↔ ∃ cell, r.get? name = some cell := by
  rw [contains_eq_isSome_get?, Option.isSome_iff_exists]

theorem lookup_succeeds_iff :
    (∃ cell, r.lookup name = .ok cell) ↔ Name.fault? name = none ∧ r.contains name = true := by
  constructor
  · rintro ⟨cell, found⟩
    have outcome := r.lookup_outcome name
    rw [found] at outcome
    cases outcome with
    | found good _ taken => exact ⟨good, contains_iff.mpr ⟨cell, taken⟩⟩
  · rintro ⟨good, present⟩
    obtain ⟨cell, taken⟩ := contains_iff.mp present
    exact ⟨cell, (LookupOutcome.found good cell taken).eq⟩

theorem assign_succeeds_iff :
    (∃ previous, (r.assign name value).1 = .ok previous) ↔
      Name.fault? name = none ∧ r.Admits value ∧ r.contains name = true := by
  constructor
  · rintro ⟨previous, done⟩
    have outcome := r.assign_outcome name value
    generalize r.assign name value = result at outcome done
    cases outcome with
    | badName | badValue | absent => cases done
    | assigned good admitted cell taken =>
      exact ⟨good, admitted, contains_iff.mpr ⟨cell, taken⟩⟩
  · rintro ⟨good, admitted, present⟩
    obtain ⟨cell, taken⟩ := contains_iff.mp present
    exact ⟨_, congrArg Prod.fst (AssignOutcome.assigned good admitted cell taken).eq⟩

theorem remove_succeeds_iff :
    (∃ previous, (r.remove name).1 = .ok previous) ↔
      Name.fault? name = none ∧ r.contains name = true := by
  constructor
  · rintro ⟨previous, done⟩
    have outcome := r.remove_outcome name
    generalize r.remove name = result at outcome done
    cases outcome with
    | badName | absent => cases done
    | removed good cell taken => exact ⟨good, contains_iff.mpr ⟨cell, taken⟩⟩
  · rintro ⟨good, present⟩
    obtain ⟨cell, taken⟩ := contains_iff.mp present
    exact ⟨_, congrArg Prod.fst (RemoveOutcome.removed good cell taken).eq⟩

/-- Only well-formed names are taken. -/
theorem Sound.good_of_contains {config : EngineConfig} (sound : r.Sound config)
    (present : r.contains name = true) : Name.fault? name = none := by
  obtain ⟨cell, taken⟩ := contains_iff.mp present
  exact (sound.cells name cell taken).good

/-! ### The list of names -/

/-- Each name is collected once. -/
theorem names_nodup (r : Registry) : r.names.Nodup :=
  (List.mergeSort_perm _ _).nodup_iff.mpr Std.ExtTreeMap.nodup_keys

/-- **The order in which names are collected does not matter**: once sorted, they are the list. -/
theorem mergeSort_eq_names {collected : List String} (distinct : collected.Nodup)
    (all : ∀ name, name ∈ collected ↔ r.contains name = true) : collected.mergeSort = r.names := by
  have sameNames : collected.Perm r.names := by
    rw [List.perm_ext_iff_of_nodup distinct r.names_nodup]
    intro name
    rw [all name, mem_names]
  exact ((List.mergeSort_perm _ _).trans sameNames).eq_of_sortedLE List.sortedLE_mergeSort
    List.sortedLE_mergeSort

theorem names_ascending (r : Registry) : r.names.Pairwise (· < ·) :=
  (List.sortedLE_mergeSort.sortedLT_of_nodup r.names_nodup).pairwise

theorem length_names (r : Registry) : r.names.length = r.size :=
  (List.length_mergeSort _).trans Std.ExtTreeMap.length_keys

theorem isEmpty_names (r : Registry) : r.names.isEmpty = r.isEmpty := by
  rw [Bool.eq_iff_iff, List.isEmpty_iff, ← List.length_eq_zero_iff, length_names, isEmpty,
    Std.ExtTreeMap.isEmpty_eq_size_beq_zero, beq_iff_eq, size]

/-- The list of names follows from what is present. -/
theorem names_congr (same : ∀ name, r.contains name = s.contains name) : r.names = s.names := by
  apply mergeSort_eq_names Std.ExtTreeMap.nodup_keys
  intro name
  rw [Std.ExtTreeMap.mem_keys, Std.ExtTreeMap.mem_iff_contains, ← same name, contains]

end Registry

namespace Engine

variable {g : Engine} {name : String} {value : Binary64}

/-! ### Engines -/

theorem get_succeeds_iff :
    (∃ value, (g.get name).1 = .ok value) ↔ ∃ cell, g.registry.lookup name = .ok cell := by
  simp only [get, afterReading]
  cases g.registry.lookup name <;> simp [Except.map]

/-- **Presence is one notion**, wherever only well-formed names are taken. -/
theorem presence_tfae {config : EngineConfig} (sound : g.registry.Sound config) (name : String) :
    [g.contains name = true,
      name ∈ g.names,
      ∃ value, (g.get name).1 = .ok value,
      ∃ cell, (g.cell name).1 = .ok cell,
      ∀ value : Binary64, value.isFinite = true → ∃ previous, (g.set name value).1 = .ok previous,
      ∃ value, (g.remove name).1 = .ok value].TFAE := by
  have good : g.contains name = true → Name.fault? name = none := sound.good_of_contains
  tfae_have 1 ↔ 2 := Registry.mem_names.symm
  tfae_have 1 ↔ 4 := by
    rw [show (∃ cell, (g.cell name).1 = .ok cell) ↔ _ from Registry.lookup_succeeds_iff]
    exact ⟨fun present => ⟨good present, present⟩, fun found => found.2⟩
  tfae_have 3 ↔ 4 := get_succeeds_iff
  tfae_have 1 → 5 := by
    intro present value finite
    exact Registry.assign_succeeds_iff.mpr ⟨good present, .inr finite, present⟩
  tfae_have 5 → 1 := by
    intro assigns
    have zero := Registry.assign_succeeds_iff.mp (assigns ⟨0⟩ (by decide))
    exact zero.2.2
  tfae_have 1 ↔ 6 := by
    rw [show (∃ value, (g.remove name).1 = .ok value) ↔ _ from Registry.remove_succeeds_iff]
    exact ⟨fun present => ⟨good present, present⟩, fun found => found.2⟩
  tfae_finish

end Engine

/-- **Presence is one notion.**  After any run of a new engine, whatever its policy:

* For every string, well formed or not, it is the same to ask whether there is a cell, to look for
  the string in the list of names, and to find that a reading of the value or of the record, an
  assignment of any finite value, or a removal succeeds.
* The list of names is strictly ascending in the order of the bytes of the names, has as many
  entries as there are cells, and is empty iff the engine says that it is empty.
* However the names of all cells are collected, each once, to sort them gives this list.
* Two runs, be it under different policies, that leave the same cells present leave the same list
  of names. -/
theorem present_in_every_sense (config : EngineConfig) (ops : List Operation) :
    let g := ((Engine.new config).run ops).2
    (∀ name : String,
      [g.contains name = true,
        name ∈ g.names,
        ∃ value, (g.get name).1 = .ok value,
        ∃ cell, (g.cell name).1 = .ok cell,
        ∀ value : Binary64, value.isFinite = true → ∃ previous, (g.set name value).1 = .ok previous,
        ∃ value, (g.remove name).1 = .ok value].TFAE) ∧
    g.names.Pairwise (fun s t => s.toUTF8.data.toList < t.toUTF8.data.toList) ∧
    g.names.length = g.size ∧
    (g.isEmpty = true ↔ g.names = []) ∧
    (∀ collected : List String, collected.Nodup →
      (∀ name, name ∈ collected ↔ g.contains name = true) → collected.mergeSort = g.names) ∧
    ∀ (otherConfig : EngineConfig) (otherOps : List Operation),
      let k := ((Engine.new otherConfig).run otherOps).2
      (∀ name, k.contains name = true ↔ g.contains name = true) → k.names = g.names := by
  intro g
  have sound : g.registry.Sound config := Engine.sound_run config ops
  refine ⟨Engine.presence_tfae sound, ?_, g.registry.length_names, ?_,
    fun _ => Registry.mergeSort_eq_names, ?_⟩
  · exact g.registry.names_ascending.imp Utf8.toUTF8_lt_toUTF8
  · rw [← List.isEmpty_iff]
    exact Bool.eq_iff_iff.mp g.registry.isEmpty_names.symm
  · intro otherConfig otherOps k same
    exact Registry.names_congr fun name => Bool.eq_iff_iff.mpr (same name)

/-- Two runs leave the same two cells, one after removals and in the other order.  The names are
listed in the same order, in which a character of one byte comes before one of three; the name
with a blank in front is refused wherever it is tried. -/
theorem present_in_every_sense_reordered :
    let g := ((Engine.new {}).run [.create "€" ⟨1⟩, .create "z" ⟨2⟩]).2
    let k := ((Engine.new { maxCells := 3 }).run
      [.create "b" ⟨0⟩, .create "z" ⟨1⟩, .create " z" ⟨1⟩, .remove "b", .create "€" ⟨2⟩]).2
    g.names = ["z", "€"] ∧ k.names = g.names ∧ ¬ ∃ value, (k.remove " z").1 = .ok value := by
  intro g k
  obtain ⟨first, -, -, -, -, agree⟩ :=
    present_in_every_sense {} [.create "€" ⟨1⟩, .create "z" ⟨2⟩]
  obtain ⟨every, -⟩ := present_in_every_sense { maxCells := 3 }
    [.create "b" ⟨0⟩, .create "z" ⟨1⟩, .create " z" ⟨1⟩, .remove "b", .create "€" ⟨2⟩]
  have sorted : ["z", "€"].mergeSort = ["z", "€"] := List.mergeSort_of_pairwise (by decide)
  have listed : g.names = ["z", "€"] := sorted
  have listed' : k.names = ["z", "€"] := sorted
  have same : ∀ name, k.contains name = true ↔ g.contains name = true := by
    intro name
    have inK : k.contains name = true ↔ name ∈ k.names := (every name).out 0 1
    have inG : g.contains name = true ↔ name ∈ g.names := (first name).out 0 1
    rw [inK, inG, listed, listed']
  have refused : k.contains " z" = true ↔ ∃ value, (k.remove " z").1 = .ok value :=
    (every " z").out 0 5
  refine ⟨listed, agree _ _ same, ?_⟩
  rw [← refused]
  decide

end NamedCells
