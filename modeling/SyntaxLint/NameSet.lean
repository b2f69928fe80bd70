/-!
# Sets of names

A `NameSet` is a set of names, listed in increasing order of their code points, each name once.
The order is part of the type, so two sets with the same names are equal (`NameSet.ext_mem`), and
what is written of a set depends on nothing but its names.
-/

namespace SyntaxLint

/-- A set of names. -/
structure NameSet where
  toList : List String
  increasing : toList.Pairwise (· < ·)
  deriving DecidableEq

namespace NameSet

/-- Put a name into an increasing list of names, unless it is there already. -/
def insertInto (name : String) : List String → List String
  | [] => [name]
  | first :: rest =>
    if name < first then name :: first :: rest
    else if name = first then first :: rest
    else first :: insertInto name rest

theorem mem_insertInto {name other : String} {names : List String} :
    other ∈ insertInto name names ↔ other = name ∨ other ∈ names := by
  induction names with
  | nil => simp [insertInto]
  | cons first rest ih =>
    unfold insertInto
    split
    · simp
    · split
      · next h =>
        subst h
        simp
      · simp only [List.mem_cons, ih]
        constructor
        · rintro (h | h | h)
          · exact .inr (.inl h)
          · exact .inl h
          · exact .inr (.inr h)
        · rintro (h | h | h)
          · exact .inr (.inl h)
          · exact .inl h
          · exact .inr (.inr h)

theorem insertInto_increasing {name : String} {names : List String}
    (h : names.Pairwise (· < ·)) : (insertInto name names).Pairwise (· < ·) := by
  induction names with
  | nil => simp [insertInto]
  | cons first rest ih =>
    rw [List.pairwise_cons] at h
    unfold insertInto
    split
    · next hlt =>
      refine List.pairwise_cons.2 ⟨fun other hother => ?_, List.pairwise_cons.2 h⟩
      rcases List.mem_cons.1 hother with rfl | hrest
      · exact hlt
      · exact String.lt_trans hlt (h.1 other hrest)
    · next hnlt =>
      split
      · exact List.pairwise_cons.2 h
      · next hne =>
        refine List.pairwise_cons.2 ⟨fun other hother => ?_, ih h.2⟩
        rcases mem_insertInto.1 hother with rfl | hrest
        · have hle : first ≤ other := String.not_lt.1 hnlt
          exact Classical.byContradiction fun hge =>
            hne (String.le_antisymm (String.not_lt.1 hge) hle)
        · exact h.1 other hrest

/-- The set without names. -/
def empty : NameSet :=
  ⟨[], .nil⟩

/-- The set with one more name. -/
def insert (names : NameSet) (name : String) : NameSet :=
  ⟨insertInto name names.toList, insertInto_increasing names.increasing⟩

/-- The set of the names of a list. -/
def ofList (names : List String) : NameSet :=
  names.foldl insert empty

/-- Whether a name is in the set. -/
def contains (names : NameSet) (name : String) : Bool :=
  names.toList.contains name

instance : Membership String NameSet :=
  ⟨fun names name => name ∈ names.toList⟩

theorem mem_def {names : NameSet} {name : String} : name ∈ names ↔ name ∈ names.toList :=
  Iff.rfl

@[simp] theorem contains_eq_true {names : NameSet} {name : String} :
    names.contains name = true ↔ name ∈ names := by
  simp [contains, mem_def]

@[simp] theorem not_mem_empty (name : String) : name ∉ empty := by
  simp [mem_def, empty]

@[simp] theorem mem_insert {names : NameSet} {name other : String} :
    other ∈ names.insert name ↔ other = name ∨ other ∈ names :=
  mem_insertInto

/-- Names that are put in one after another are all in the set, whatever their order. -/
theorem mem_foldl_insert {names : List String} {set : NameSet} {name : String} :
    name ∈ names.foldl insert set ↔ name ∈ names ∨ name ∈ set := by
  induction names generalizing set with
  | nil => simp
  | cons first rest ih =>
    rw [List.foldl_cons, ih, mem_insert, List.mem_cons, or_left_comm, or_assoc]

@[simp] theorem mem_ofList {names : List String} {name : String} :
    name ∈ ofList names ↔ name ∈ names := by
  simp [ofList, mem_foldl_insert]

/-- A set is determined by its names. -/
theorem ext_mem {a b : NameSet} (h : ∀ name, name ∈ a ↔ name ∈ b) : a = b := by
  obtain ⟨as, ha⟩ := a
  obtain ⟨bs, hb⟩ := b
  suffices as = bs by subst this; rfl
  simp only [mem_def] at h
  induction as generalizing bs with
  | nil =>
    cases bs with
    | nil => rfl
    | cons first rest => simpa using h first
  | cons x xs ih =>
    cases bs with
    | nil => simpa using h x
    | cons y ys =>
      rw [List.pairwise_cons] at ha hb
      have hxy : x = y := by
        rcases List.mem_cons.1 ((h x).1 (by simp)) with hx | hx
        · exact hx
        · rcases List.mem_cons.1 ((h y).2 (by simp)) with hy | hy
          · exact hy.symm
          · exact absurd (ha.1 y hy) (String.lt_asymm (hb.1 x hx))
      subst hxy
      congr 1
      refine ih ha.2 ys hb.2 fun name => ?_
      constructor
      · intro hname
        rcases List.mem_cons.1 ((h name).1 (List.mem_cons_of_mem _ hname)) with rfl | hys
        · exact absurd (ha.1 _ hname) (String.lt_irrefl _)
        · exact hys
      · intro hname
        rcases List.mem_cons.1 ((h name).2 (List.mem_cons_of_mem _ hname)) with rfl | hxs
        · exact absurd (hb.1 _ hname) (String.lt_irrefl _)
        · exact hxs

end NameSet

end SyntaxLint
