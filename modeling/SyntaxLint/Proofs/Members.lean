import Mathlib
import SyntaxLint.Proofs.RawTree

/-!
# Which members of an object matter

An object stands for an element by its members under four names, and by nothing else: not by the
order of the members, nor by what stands under other names.  A member under one of the four names
must not be repeated, and `children` may be left out, which is the same as an empty list.

`Json.Adjusts` is one change of a kind that should not matter, made in any object of a value, however
deep, and `Json.Rearranged` is any number of them.  A change inside a child may decide whether the
child is an element, and with that whether the object around it is a rule element or a token, and so
on up to the whole value.  So all that is ever asked of a value is kept together in its `Reading`:
the text, the line, the element and the sequence of elements that it may stand for.  One change at the
bottom leaves the reading as it is, and an object whose members have the same readings has the same
reading (`reading_object_congr`), so nothing changes on the way up.

What fits an object is said by its members alone (`FitsRule`, `FitsToken`).  If both variants fit, it
is the rule element that is read; a token is read exactly where no rule element fits.
-/

namespace SyntaxLint

namespace RawElement

/-- The names of the members that matter to an element. -/
def memberNames : List String :=
  ["rule", "line", "children", "token"]

end RawElement

/-! ## Changes that should not matter -/

namespace Json

/-- One change to an object somewhere in a value: its members are put in another order, a member is
inserted under a name that does not matter, or an empty list of children is inserted where there was
no member of that name. -/
inductive Adjusts : Json → Json → Prop where
  | reorder {members reordered : List (String × Json)} :
      members.Perm reordered → Adjusts (.object members) (.object reordered)
  | insert {before after : List (String × Json)} {name : String} (value : Json) :
      name ∉ RawElement.memberNames →
      Adjusts (.object (before ++ after)) (.object (before ++ (name, value) :: after))
  | noChildren {before after : List (String × Json)} :
      (∀ member ∈ before ++ after, member.1 ≠ "children") →
      Adjusts (.object (before ++ after)) (.object (before ++ ("children", .array []) :: after))
  | item {before after : List Json} {item changed : Json} :
      Adjusts item changed →
      Adjusts (.array (before ++ item :: after)) (.array (before ++ changed :: after))
  | member {before after : List (String × Json)} {name : String} {value changed : Json} :
      Adjusts value changed →
      Adjusts (.object (before ++ (name, value) :: after))
        (.object (before ++ (name, changed) :: after))

/-- Two values of which one becomes the other by such changes, made or taken back one by one. -/
def Rearranged : Json → Json → Prop :=
  Relation.EqvGen Adjusts

end Json

/-- A forest whose list of elements has a first one is that element in front of a forest. -/
lemma Forest.exists_of_toList_eq_cons {κ : Type} {forest : Forest κ} {element : Element κ}
    {after : List (Element κ)} (h : forest.toList = element :: after) :
    ∃ rest, forest = .cons element rest ∧ rest.toList = after := by
  cases forest with
  | nil => exact absurd h (by simp [toList])
  | token t rest =>
    obtain ⟨rfl, rfl⟩ := List.cons.inj h
    exact ⟨rest, rfl, rfl⟩
  | node kind line inner rest =>
    obtain ⟨rfl, rfl⟩ := List.cons.inj h
    exact ⟨rest, rfl, rfl⟩

namespace RawElement

variable {members others : List (String × Json)} {name : String} {value other : Json}

/-! ## What is asked of a value -/

/-- All that a value can be read as when it is part of an element. -/
structure Reading where
  text : Option String
  line : Option UInt32
  element : Option RawElement
  elements : Option (Forest String)

/-- What a value can be read as. -/
def reading (value : Json) : Reading :=
  ⟨text? value, line? value, ofJson? value, forest? value⟩

/-- What the members of a name can be read as. -/
def readingsOf (name : String) (members : List (String × Json)) : List Reading :=
  (valuesOf name members).map reading

lemma valuesOf_append (name : String) (members others : List (String × Json)) :
    valuesOf name (members ++ others) = valuesOf name members ++ valuesOf name others := by
  rw [valuesOf, valuesOf, valuesOf, List.filter_append, List.map_append]

lemma valuesOf_cons_self (name : String) (value : Json) (members : List (String × Json)) :
    valuesOf name ((name, value) :: members) = value :: valuesOf name members := by
  simp [valuesOf]

lemma valuesOf_cons_of_ne {label : String} (h : label ≠ name) (value : Json)
    (members : List (String × Json)) :
    valuesOf name ((label, value) :: members) = valuesOf name members := by
  simp [valuesOf, h]

lemma valuesOf_eq_nil_iff :
    valuesOf name members = [] ↔ ∀ member ∈ members, member.1 ≠ name := by
  simp [valuesOf]

lemma textOf?_eq_readings (name : String) (members : List (String × Json)) :
    textOf? name members = only? ((readingsOf name members).map Reading.text) := by
  rw [textOf?, readingsOf, List.map_map]
  rfl

lemma lineOf?_eq_readings (members : List (String × Json)) :
    lineOf? members = only? ((readingsOf "line" members).map Reading.line) := by
  rw [lineOf?, readingsOf, List.map_map]
  rfl

lemma childrenEntries_eq_map (members : List (String × Json)) :
    childrenEntries members = (valuesOf "children" members).map forest? := by
  induction members with
  | nil => rw [childrenEntries]; rfl
  | cons member members ih =>
    obtain ⟨name, value⟩ := member
    rw [childrenEntries]
    by_cases hname : name = "children"
    · rw [if_pos hname, hname, valuesOf_cons_self, List.map_cons, ih]
    · rw [if_neg hname, valuesOf_cons_of_ne hname, ih]

lemma childrenEntries_eq_readings (members : List (String × Json)) :
    childrenEntries members = (readingsOf "children" members).map Reading.elements := by
  rw [childrenEntries_eq_map, readingsOf, List.map_map]
  rfl

/-! ## Order and repetition -/

/-- Where one entry is asked for, the order does not matter. -/
lemma only?_perm {α : Type} {entries others : List (Option α)} (h : entries.Perm others) :
    only? entries = only? others := by
  refine Option.ext fun entry => ?_
  rw [only?_eq_some_iff, only?_eq_some_iff]
  constructor
  · rintro rfl
    exact List.perm_singleton.1 h.symm
  · rintro rfl
    exact List.perm_singleton.1 h

lemma childrenOf?_eq_only? {entries : List (Option (Forest String))} (h : entries ≠ []) :
    childrenOf? entries = only? entries := by
  cases entries with
  | nil => exact absurd rfl h
  | cons entry entries => rfl

lemma childrenOf?_perm {entries others : List (Option (Forest String))}
    (h : entries.Perm others) : childrenOf? entries = childrenOf? others := by
  by_cases hnil : entries = []
  · rw [hnil, List.nil_perm] at h
    rw [hnil, h]
  · have hothers : others ≠ [] := fun hempty => hnil (List.perm_nil.1 (hempty ▸ h))
    rw [childrenOf?_eq_only? hnil, childrenOf?_eq_only? hothers, only?_perm h]

/-- An object is read by what its members under the four names can be read as. -/
lemma reading_object_congr
    (hsame : ∀ name ∈ ["rule", "line", "token"],
      (readingsOf name members).Perm (readingsOf name others))
    (hchildren : childrenOf? (childrenEntries members) = childrenOf? (childrenEntries others)) :
    reading (.object members) = reading (.object others) := by
  have htext : ∀ name ∈ ["rule", "line", "token"], textOf? name members = textOf? name others := by
    intro name hname
    rw [textOf?_eq_readings, textOf?_eq_readings, only?_perm ((hsame name hname).map _)]
  have hline : lineOf? members = lineOf? others := by
    rw [lineOf?_eq_readings, lineOf?_eq_readings, only?_perm ((hsame "line" (by simp)).map _)]
  have helement : ofJson? (.object members) = ofJson? (.object others) := by
    rw [ofJson?, ofJson?, rule?, rule?, token?, token?, htext "rule" (by simp),
      htext "token" (by simp), hline, hchildren]
  rw [reading, reading, helement]
  simp [text?, line?, forest?]

/-! ## One change -/

lemma readingsOf_insert {label : String} (h : label ≠ name) (value : Json)
    (before after : List (String × Json)) :
    readingsOf name (before ++ (label, value) :: after) = readingsOf name (before ++ after) := by
  rw [readingsOf, readingsOf, valuesOf_append, valuesOf_append, valuesOf_cons_of_ne h]

lemma readingsOf_member (h : reading value = reading other) (name label : String)
    (before after : List (String × Json)) :
    readingsOf name (before ++ (label, value) :: after) =
      readingsOf name (before ++ (label, other) :: after) := by
  by_cases hname : label = name
  · subst hname
    simp only [readingsOf, valuesOf_append, valuesOf_cons_self, List.map_append, List.map_cons, h]
  · rw [readingsOf_insert hname, readingsOf_insert hname]

/-- The elements of an array depend on what its items can be read as. -/
lemma items?_append_congr {item changed : Json} (h : ofJson? item = ofJson? changed)
    (before after : List Json) :
    items? (before ++ item :: after) = items? (before ++ changed :: after) := by
  induction before with
  | nil => rw [List.nil_append, List.nil_append, items?, items?, h]
  | cons first before ih => rw [List.cons_append, List.cons_append, items?, items?, ih]

/-- If the members under each of the four names have the same readings, so has the object. -/
lemma reading_object_of_readings
    (hsame : ∀ name ∈ memberNames, (readingsOf name members).Perm (readingsOf name others)) :
    reading (.object members) = reading (.object others) := by
  refine reading_object_congr (fun name hname => hsame name ?_) ?_
  · simp only [memberNames, List.mem_cons, List.not_mem_nil, or_false] at hname ⊢
    tauto
  · rw [childrenEntries_eq_readings, childrenEntries_eq_readings]
    exact childrenOf?_perm ((hsame "children" (by simp [memberNames])).map _)

/-- **One change does not matter**, however deep it is made. -/
lemma reading_eq_of_adjusts (h : value.Adjusts other) :
    reading value = reading other := by
  induction h with
  | reorder hperm =>
    exact reading_object_of_readings fun name _ => ((hperm.filter _).map _).map _
  | insert value hname =>
    refine reading_object_of_readings fun name hmatters => ?_
    rw [readingsOf_insert]
    rintro rfl
    exact hname hmatters
  | @noChildren before after hnone =>
    have hvalues : valuesOf "children" (before ++ after) = [] := valuesOf_eq_nil_iff.2 hnone
    refine reading_object_congr (fun name hname => ?_) ?_
    · rw [readingsOf_insert]
      rintro rfl
      simp at hname
    · -- An empty list of children is what a missing member stands for.
      rw [valuesOf_append, List.append_eq_nil_iff] at hvalues
      rw [childrenEntries_eq_map, childrenEntries_eq_map, valuesOf_append, valuesOf_append,
        valuesOf_cons_self, hvalues.1, hvalues.2]
      simp [childrenOf?, only?, forest?, items?]
  | item _ ih =>
    have helement : ofJson? _ = ofJson? _ := congrArg Reading.element ih
    simp only [reading, text?, line?, ofJson?, forest?, items?_append_congr helement]
  | member _ ih =>
    refine reading_object_of_readings fun name _ => ?_
    rw [readingsOf_member ih]

/-- Nor does any number of changes. -/
lemma reading_eq_of_rearranged (h : value.Rearranged other) :
    reading value = reading other := by
  induction h with
  | rel value other hstep => exact reading_eq_of_adjusts hstep
  | refl value => rfl
  | symm value other _ ih => exact ih.symm
  | trans value between other _ _ ih ih' => exact ih.trans ih'

/-! ## What fits an object -/

/-- A member is the only one of its name. -/
def Sole (members : List (String × Json)) (name : String) (value : Json) : Prop :=
  ∃ before after, members = before ++ (name, value) :: after ∧
    ∀ member ∈ before ++ after, member.1 ≠ name

/-- The members give a token: one text under `token` and one line. -/
structure FitsToken (members : List (String × Json)) (token : Token) : Prop where
  text : Sole members "token" (.string token.text)
  line : Sole members "line" (.nat token.line.toNat)

/-- The members give a sequence of children: there is no member `children` and there are no elements,
or there is one, and it is an array of which each item stands for the element in its place. -/
def FitsChildren (members : List (String × Json)) (elements : Forest String) : Prop :=
  (∀ member ∈ members, member.1 ≠ "children") ∧ elements = .nil ∨
    ∃ items, Sole members "children" (.array items) ∧
      List.Forall₂ (fun item element => ofJson? item = some element) items elements.toList

/-- The members give a rule element: one text under `rule`, one line and its children. -/
structure FitsRule (members : List (String × Json)) (tree : Tree String) : Prop where
  rule : Sole members "rule" (.string tree.kind)
  line : Sole members "line" (.nat tree.line.toNat)
  children : FitsChildren members tree.elements

lemma sole_iff :
    Sole members name value ↔ valuesOf name members = [value] := by
  constructor
  · rintro ⟨before, after, rfl, hothers⟩
    rw [List.forall_mem_append] at hothers
    rw [valuesOf_append, valuesOf_cons_self, valuesOf_eq_nil_iff.2 hothers.1,
      valuesOf_eq_nil_iff.2 hothers.2, List.nil_append]
  · intro h
    rw [valuesOf, List.map_eq_singleton_iff] at h
    obtain ⟨⟨found, value⟩, hfilter, rfl⟩ := h
    obtain ⟨before, after, rfl, hbefore, hfound, hafter⟩ := List.filter_eq_cons_iff.1 hfilter
    have hname : found = name := by simpa using hfound
    subst hname
    refine ⟨before, after, rfl, List.forall_mem_append.2 ⟨?_, ?_⟩⟩
    · simpa using hbefore
    · simpa using List.filter_eq_nil_iff.1 hafter

/-- No other value stands under the name of an only member. -/
lemma Sole.eq_of_mem (h : Sole members name value) (hmem : (name, other) ∈ members) :
    other = value := by
  have hother : other ∈ valuesOf name members := by
    rw [valuesOf, List.mem_map]
    exact ⟨(name, other), by simpa using hmem, rfl⟩
  rw [sole_iff.1 h] at hother
  exact List.mem_singleton.1 hother

/-- The items of an array stand for a sequence of elements if each stands for the element in its
place. -/
lemma items?_eq_some_iff {items : List Json} {elements : Forest String} :
    items? items = some elements ↔
      List.Forall₂ (fun item element => ofJson? item = some element) items elements.toList := by
  induction items generalizing elements with
  | nil =>
    rw [items?, List.forall₂_nil_left_iff, Option.some.injEq]
    cases elements <;> simp [Forest.toList]
  | cons item items ih =>
    rw [items?, List.forall₂_cons_left_iff]
    constructor
    · intro h
      obtain ⟨element, helement, h⟩ := Option.bind_eq_some_iff.1 h
      obtain ⟨rest, hrest, h⟩ := Option.bind_eq_some_iff.1 h
      obtain rfl : Forest.cons element rest = elements := Option.some.inj h
      exact ⟨element, rest.toList, helement, ih.1 hrest, Forest.toList_cons element rest⟩
    · rintro ⟨element, after, helement, hafter, hsplit⟩
      obtain ⟨rest, rfl, rfl⟩ := Forest.exists_of_toList_eq_cons hsplit
      rw [helement, ih.2 hafter]
      rfl

lemma forest?_eq_some_iff {elements : Forest String} :
    forest? value = some elements ↔
      ∃ items, value = .array items ∧ items? items = some elements := by
  cases value <;> simp [forest?]

lemma childrenOf?_eq_some_iff {elements : Forest String} :
    childrenOf? (childrenEntries members) = some elements ↔ FitsChildren members elements := by
  rw [childrenEntries_eq_map, FitsChildren, ← valuesOf_eq_nil_iff]
  simp only [sole_iff, ← items?_eq_some_iff]
  by_cases hnone : valuesOf "children" members = []
  · simp [hnone, childrenOf?, eq_comm]
  · rw [childrenOf?_eq_only? (by simpa using hnone), only?_eq_some_iff, List.map_eq_singleton_iff]
    simp only [forest?_eq_some_iff, hnone, false_and, false_or]
    constructor
    · rintro ⟨_, hvalues, items, rfl, hitems⟩
      exact ⟨items, hvalues, hitems⟩
    · rintro ⟨items, hvalues, hitems⟩
      exact ⟨_, hvalues, items, rfl, hitems⟩

lemma rule?_eq_some_iff {element : RawElement} :
    rule? members (childrenEntries members) = some element ↔
      ∃ tree, FitsRule members tree ∧ element = .node tree := by
  constructor
  · intro h
    obtain ⟨rule, hrule, h⟩ := Option.bind_eq_some_iff.1 h
    obtain ⟨line, hline, h⟩ := Option.bind_eq_some_iff.1 h
    obtain ⟨elements, helements, h⟩ := Option.bind_eq_some_iff.1 h
    refine ⟨⟨rule, line, elements⟩, ⟨?_, ?_, ?_⟩, (Option.some.inj h).symm⟩
    · exact sole_iff.2 (textOf?_eq_some_iff.1 hrule)
    · exact sole_iff.2 (lineOf?_eq_some_iff.1 hline)
    · exact childrenOf?_eq_some_iff.1 helements
  · rintro ⟨tree, hfits, rfl⟩
    rw [rule?, textOf?_eq_some_iff.2 (sole_iff.1 hfits.rule),
      lineOf?_eq_some_iff.2 (sole_iff.1 hfits.line), childrenOf?_eq_some_iff.2 hfits.children]
    rfl

lemma token?_eq_some_iff {element : RawElement} :
    token? members = some element ↔ ∃ token, FitsToken members token ∧ element = .token token := by
  constructor
  · intro h
    obtain ⟨text, htext, h⟩ := Option.bind_eq_some_iff.1 h
    obtain ⟨line, hline, h⟩ := Option.bind_eq_some_iff.1 h
    refine ⟨⟨text, line⟩, ⟨?_, ?_⟩, (Option.some.inj h).symm⟩
    · exact sole_iff.2 (textOf?_eq_some_iff.1 htext)
    · exact sole_iff.2 (lineOf?_eq_some_iff.1 hline)
  · rintro ⟨token, hfits, rfl⟩
    rw [token?, textOf?_eq_some_iff.2 (sole_iff.1 hfits.text),
      lineOf?_eq_some_iff.2 (sole_iff.1 hfits.line)]
    rfl

/-- An object is read as a rule element exactly if its members give one. -/
lemma ofJson?_eq_node_iff {tree : Tree String} :
    ofJson? (.object members) = some (.node tree) ↔ FitsRule members tree := by
  rw [ofJson?, Option.or_eq_some_iff, rule?_eq_some_iff, token?_eq_some_iff]
  constructor
  · rintro (⟨other, hfits, hsame⟩ | ⟨-, other, -, hsame⟩)
    · cases hsame
      exact hfits
    · exact absurd hsame (by simp)
  · intro hfits
    exact .inl ⟨tree, hfits, rfl⟩

/-- An object is read as a token exactly if its members give one, but no rule element. -/
lemma ofJson?_eq_token_iff {token : Token} :
    ofJson? (.object members) = some (.token token) ↔
      FitsToken members token ∧ ∀ tree, ¬ FitsRule members tree := by
  rw [ofJson?, Option.or_eq_some_iff, rule?_eq_some_iff, token?_eq_some_iff,
    Option.eq_none_iff_forall_ne_some]
  simp only [ne_eq, rule?_eq_some_iff]
  constructor
  · rintro (⟨other, -, hsame⟩ | ⟨hrule, other, hfits, hsame⟩)
    · exact absurd hsame (by simp)
    · cases hsame
      exact ⟨hfits, fun tree htree => hrule _ ⟨tree, htree, rfl⟩⟩
  · rintro ⟨hfits, hrule⟩
    refine .inr ⟨?_, token, hfits, rfl⟩
    rintro _ ⟨tree, htree, -⟩
    exact hrule tree htree

/-- Nothing with a child that is no element is a rule element. -/
lemma not_fitsRule_of_stray_child {items : List Json} {item : Json}
    (hchildren : ("children", .array items) ∈ members) (hitem : item ∈ items)
    (hstray : ofJson? item = none) (tree : Tree String) : ¬ FitsRule members tree := by
  rintro ⟨-, -, ⟨hnone, -⟩ | ⟨others, hsole, hothers⟩⟩
  · exact hnone _ hchildren rfl
  · obtain rfl : items = others := Json.array.inj (hsole.eq_of_mem hchildren)
    have hread : ∀ item ∈ items, ofJson? item ≠ none :=
      ((List.forall₂_and_left _ _).1 (hothers.imp fun _ _ h => ⟨by simp [h], h⟩)).1
    exact hread item hitem hstray

/-! ## Texts -/

/-- Texts of values that stand for the same element, or for none, are read alike. -/
lemma ofText_congr {text text' : String}
    (hvalue : (Document.ofText text).root.toJson? = some value)
    (hother : (Document.ofText text').root.toJson? = some other)
    (htrailing : (Document.ofText text).trailing = (Document.ofText text').trailing)
    (hsame : ofJson? value = ofJson? other) : ofText none text = ofText none text' := by
  rw [ofText, ofText, Decoder.ofText, Decoder.ofText, decoder, decoder, hvalue, hother]
  simp only [withinLimit, Option.all_none, if_true, hsame, htrailing]

/-- **Order and other members do not matter.**  Two values that differ by the order of members, by
members under names that do not matter, or by empty lists of children, in any of their objects, stand
for the same element, or both for none, and texts of them are read alike.  An object is read as a
rule element exactly if its members give one, also if they give a token as well.  An object with a
child that is no element is never read as a rule element, and is read as a token exactly if its
members give one. -/
theorem decoding_ignores_order_and_other_members :
    (∀ value other : Json, value.Rearranged other →
      ofJson? value = ofJson? other ∧
      ∀ text text' : String, (Document.ofText text).root.toJson? = some value →
        (Document.ofText text').root.toJson? = some other →
        (Document.ofText text).trailing = (Document.ofText text').trailing →
        ofText none text = ofText none text') ∧
    (∀ (members : List (String × Json)) (tree : Tree String),
      ofJson? (.object members) = some (.node tree) ↔ FitsRule members tree) ∧
    ∀ (members : List (String × Json)) (items : List Json) (item : Json),
      ("children", .array items) ∈ members → item ∈ items → ofJson? item = none →
        (∀ tree, ofJson? (.object members) ≠ some (.node tree)) ∧
        ∀ token, ofJson? (.object members) = some (.token token) ↔ FitsToken members token := by
  refine ⟨fun value other hrearranged => ?_, fun members tree => ofJson?_eq_node_iff,
    fun members items item hchildren hitem hstray => ?_⟩
  · have hsame : ofJson? value = ofJson? other :=
      congrArg Reading.element (reading_eq_of_rearranged hrearranged)
    exact ⟨hsame, fun text text' hvalue hother htrailing =>
      ofText_congr hvalue hother htrailing hsame⟩
  · have hnone := not_fitsRule_of_stray_child hchildren hitem hstray
    refine ⟨fun tree htree => hnone tree (ofJson?_eq_node_iff.1 htree), fun token => ?_⟩
    rw [ofJson?_eq_token_iff]
    exact and_iff_left hnone

/-- In a child, an empty list of children is inserted; around it, the members are reversed and one
more is added.  An object that gives both a rule element and a token is read as the former, and as
the latter if it gets a child that is no element. -/
theorem decoding_ignores_order_around_changed_child :
    let child : Json := .object [("token", .string "x"), ("line", .nat 2)]
    let padded : Json :=
      .object [("token", .string "x"), ("children", .array []), ("line", .nat 2)]
    let plain : Json :=
      .object [("rule", .string "a"), ("line", .nat 1), ("children", .array [child])]
    let changed : Json :=
      .object [("children", .array [padded]), ("note", .scalar .null), ("line", .nat 1),
        ("rule", .string "a")]
    let both : List (String × Json) :=
      [("rule", .string "a"), ("token", .string "b"), ("line", .nat 3)]
    let stray : Json := .object [("line", .nat 4)]
    (plain.Rearranged changed ∧ ofJson? plain = some (.node ⟨"a", 1, .token ⟨"x", 2⟩ .nil⟩) ∧
      ofJson? changed = some (.node ⟨"a", 1, .token ⟨"x", 2⟩ .nil⟩) ∧
      ofText none
          "\x7b\"rule\":\"a\",\"line\":1,\"children\":[\x7b\"token\":\"x\",\"line\":2\x7d]\x7d" =
        ofText none ("\x7b \"children\": [\x7b\"token\":\"x\",\"children\":[],\"line\":2\x7d], "
          ++ "\"note\": null, \"line\": 1, \"rule\": \"a\" \x7d")) ∧
    (FitsToken both ⟨"b", 3⟩ ∧ FitsRule both ⟨"a", 3, .nil⟩ ∧
      ofJson? (.object both) = some (.node ⟨"a", 3, .nil⟩)) ∧
    (ofJson? stray = none ∧
      ofJson? (.object (both ++ [("children", .array [plain, stray])])) =
        some (.token ⟨"b", 3⟩)) := by
  intro child padded plain changed both stray
  have hplain : ofJson? plain = some (.node ⟨"a", 1, .token ⟨"x", 2⟩ .nil⟩) := by cbv
  have hboth : ofJson? (.object both) = some (.node ⟨"a", 3, .nil⟩) := by cbv
  have hstray : ofJson? stray = none := by cbv
  have hrearranged : plain.Rearranged changed := by
    have hpadded : child.Adjusts padded := @Json.Adjusts.noChildren [_] [_] (by simp)
    have hinside : plain.Adjusts
        (.object [("rule", .string "a"), ("line", .nat 1), ("children", .array [padded])]) :=
      @Json.Adjusts.member [_, _] [] _ _ _ (@Json.Adjusts.item [] [] _ _ hpadded)
    have hreversed := Json.Adjusts.reorder (List.reverse_perm
      [("rule", .string "a"), ("line", .nat 1), ("children", .array [padded])]).symm
    have hnote : Json.Adjusts
        (.object [("children", .array [padded]), ("line", .nat 1), ("rule", .string "a")])
        changed :=
      @Json.Adjusts.insert [_] [_, _] _ _ (by decide)
    exact .trans _ _ _ (.rel _ _ hinside) (.trans _ _ _ (.rel _ _ hreversed) (.rel _ _ hnote))
  obtain ⟨hsame, hrule, hchild⟩ := decoding_ignores_order_and_other_members
  obtain ⟨hchanged, htexts⟩ := hsame plain changed hrearranged
  refine ⟨⟨hrearranged, hplain, hchanged ▸ hplain, htexts _ _ ?_ ?_ ?_⟩,
    ⟨⟨?_, ?_⟩, (hrule _ _).1 hboth, hboth⟩, hstray, ?_⟩
  · cbv
  · cbv
  · cbv
  · exact ⟨[_], [_], rfl, by simp⟩
  · exact ⟨[_, _], [], rfl, by simp⟩
  · refine ((hchild _ [plain, stray] stray (by simp) (by simp) hstray).2 _).2 ⟨?_, ?_⟩
    · exact ⟨[_], [_, _], rfl, by simp⟩
    · exact ⟨[_, _], [_], rfl, by simp⟩

end RawElement

end SyntaxLint
