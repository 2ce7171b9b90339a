/-!
Maps from texts to values, kept as lists of entries in ascending order of their keys.  Two maps
with the same entries are equal.
-/

namespace TokenAcquisition

def Ascending {V : Type} (entries : List (String × V)) : Prop :=
  entries.Pairwise fun a b => a.1 < b.1

/-- Puts an entry in its place; an entry of the same key gives way. -/
def insertEntry {V : Type} (key : String) (value : V) : List (String × V) → List (String × V)
  | [] => [(key, value)]
  | entry :: rest =>
      if key < entry.1 then (key, value) :: entry :: rest
      else if key = entry.1 then (key, value) :: rest
      else entry :: insertEntry key value rest

theorem fst_mem_insertEntry {V : Type} {key : String} {value : V} {entries : List (String × V)}
    {entry : String × V} (member : entry ∈ insertEntry key value entries) :
    entry = (key, value) ∨ entry ∈ entries := by
  induction entries with
  | nil => simp_all [insertEntry]
  | cons head rest ih =>
      unfold insertEntry at member
      split at member
      · simpa using member
      · split at member
        · rcases List.mem_cons.mp member with same | inRest
          · exact .inl same
          · exact .inr (by simp [inRest])
        · rcases List.mem_cons.mp member with same | inRest
          · exact .inr (by simp [same])
          · rcases ih inRest with found | found
            · exact .inl found
            · exact .inr (by simp [found])

theorem ascending_insertEntry {V : Type} {key : String} {value : V} {entries : List (String × V)}
    (ascending : Ascending entries) : Ascending (insertEntry key value entries) := by
  induction entries with
  | nil => simp [insertEntry, Ascending]
  | cons head rest ih =>
      have ⟨above, inOrder⟩ := List.pairwise_cons.mp ascending
      unfold insertEntry
      split
      · next smaller =>
          refine List.pairwise_cons.mpr ⟨fun entry member => ?_, ascending⟩
          rcases List.mem_cons.mp member with same | inRest
          · simpa [same] using smaller
          · exact String.lt_trans smaller (above entry inRest)
      · next notSmaller =>
          split
          · next same =>
              exact List.pairwise_cons.mpr ⟨fun entry member => same ▸ above entry member, inOrder⟩
          · next different =>
              refine List.pairwise_cons.mpr ⟨fun entry member => ?_, ih inOrder⟩
              rcases fst_mem_insertEntry member with same | inRest
              · subst same
                have atMost : head.1 ≤ key := String.not_lt.mp notSmaller
                exact Classical.byContradiction fun notLess =>
                  different (String.le_antisymm (String.not_lt.mp notLess) atMost)
              · exact above entry inRest

structure SortedMap (V : Type) where
  entries : List (String × V)
  ascending : Ascending entries

namespace SortedMap

variable {V : Type}

def empty : SortedMap V :=
  ⟨[], List.Pairwise.nil⟩

instance : Inhabited (SortedMap V) := ⟨empty⟩

def insert (m : SortedMap V) (key : String) (value : V) : SortedMap V :=
  ⟨insertEntry key value m.entries, ascending_insertEntry m.ascending⟩

def erase (m : SortedMap V) (key : String) : SortedMap V :=
  ⟨m.entries.filter fun entry => entry.1 ≠ key, m.ascending.filter _⟩

def find? (m : SortedMap V) (key : String) : Option V :=
  m.entries.lookup key

def size (m : SortedMap V) : Nat :=
  m.entries.length

/-- The map of entries, of which later ones replace earlier ones of the same key. -/
def ofList (entries : List (String × V)) : SortedMap V :=
  entries.foldl (fun m entry => m.insert entry.1 entry.2) empty

end SortedMap

end TokenAcquisition
