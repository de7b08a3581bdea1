import Mathlib.Data.List.Sort
import Mathlib.Data.String.Basic
import OpenTrader.Base.JsonText

/-!
# The order of keys

Library `Base`. Sorting by a key forgets the order of a list whose keys are distinct. Sorting the
entries of every mapping in a JSON value forgets the order of its keys, and so the text of the
sorted value stands for the value up to that order.
-/

namespace OpenTrader.Base

/-! ### Sorting by a key -/

section

variable {α β κ : Type} [LinearOrder κ] {key : α → κ} {key' : β → κ}

/-- `sorted(items, key=key)`. -/
def sortBy (key : α → κ) (items : List α) : List α := items.insertionSort fun a b => key a ≤ key b

theorem perm_sortBy (key : α → κ) (items : List α) : (sortBy key items).Perm items :=
  List.perm_insertionSort _ items

variable {R : α → β → Prop} {items as : List α} {bs : List β}

/-- Items with distinct keys are sorted in one way. -/
theorem sortBy_eq_of_perm {items' : List α} (h : items.Perm items')
    (hkeys : ∀ a ∈ items, ∀ b ∈ items, key a = key b → a = b) :
    sortBy key items = sortBy key items' := by
  have hsorted (l : List α) : (sortBy key l).Pairwise fun a b => key a ≤ key b := by
    have : Std.Total fun a b : α => key a ≤ key b := ⟨fun a b => le_total (key a) (key b)⟩
    have : IsTrans α fun a b => key a ≤ key b := ⟨fun _ _ _ => le_trans⟩
    exact List.pairwise_insertionSort _ l
  have hperm : (sortBy key items).Perm (sortBy key items') :=
    (perm_sortBy key items).trans (h.trans (perm_sortBy key items').symm)
  refine hperm.eq_of_pairwise (fun a b ha hb hab hba => ?_) (hsorted items) (hsorted items')
  have ha' := (perm_sortBy key items).mem_iff.mp ha
  have hb' := (perm_sortBy key items).mem_iff.mp (hperm.mem_iff.mpr hb)
  exact hkeys a ha' b hb' (le_antisymm hab hba)

private theorem forall₂_orderedInsert (hk : ∀ a b, R a b → key a = key' b) {a : α} {b : β}
    (hab : R a b) (h : List.Forall₂ R as bs) :
    List.Forall₂ R (as.orderedInsert (fun x y => key x ≤ key y) a)
      (bs.orderedInsert (fun x y => key' x ≤ key' y) b) := by
  induction h with
  | nil => exact .cons hab .nil
  | cons hcd htail ih =>
    rw [List.orderedInsert_cons, List.orderedInsert_cons, hk _ _ hab, hk _ _ hcd]
    split
    · exact .cons hab (.cons hcd htail)
    · exact .cons hcd ih

/-- Lists of items that correspond are sorted alike. -/
theorem forall₂_sortBy (hkey : ∀ a b, R a b → key a = key' b) (h : List.Forall₂ R as bs) :
    List.Forall₂ R (sortBy key as) (sortBy key' bs) := by
  induction h with
  | nil => exact .nil
  | cons hab _ ih => exact forall₂_orderedInsert hkey hab ih

/-- The second list has the items of the first one in another order, each of them replaced by one
that `R` allows. -/
def PermAlike (R : α → β → Prop) (items : List α) (items' : List β) : Prop :=
  ∃ reordered, items.Perm reordered ∧ List.Forall₂ R reordered items'

/-- Distinct keys that are kept undo a change of order. -/
theorem PermAlike.forall₂_sortBy {items' : List β} (h : PermAlike R items items')
    (hkey : ∀ a b, R a b → key a = key' b)
    (hkeys : ∀ a ∈ items, ∀ b ∈ items, key a = key b → a = b) :
    List.Forall₂ R (sortBy key items) (sortBy key' items') := by
  obtain ⟨reordered, hperm, halike⟩ := h
  rw [sortBy_eq_of_perm hperm hkeys]
  exact Base.forall₂_sortBy hkey halike

/-- Items can be replaced before or after they are sorted. -/
theorem map_sortBy {f : α → β} (hkey : ∀ a, key' (f a) = key a) (items : List α) :
    (sortBy key items).map f = sortBy key' (items.map f) := by
  refine List.map_insertionSort _ _ f items ?_
  intro a _ b _
  rw [hkey, hkey]

end

namespace JsonValue

/-! ### The same value in another order of keys -/

/-- Every mapping in the value has distinct keys. -/
inductive Keyed : JsonValue → Prop where
  | scalar (value : JsonScalar) : Keyed (.scalar value)
  | text (value : String) : Keyed (.text value)
  | seq {kind : SequenceKind} {items : List JsonValue} (hitems : ∀ item ∈ items, Keyed item) :
    Keyed (.seq kind items)
  | mapping {entries : List (String × JsonValue)} (hkeys : (entries.map Prod.fst).Nodup)
    (hvalues : ∀ entry ∈ entries, Keyed entry.2) : Keyed (.mapping entries)

variable {entries : List (String × JsonValue)} {items : List JsonValue} {kind : SequenceKind}

theorem keyed_seq_iff : Keyed (.seq kind items) ↔ ∀ item ∈ items, item.Keyed := by
  refine ⟨fun h => ?_, .seq⟩
  cases h with
  | seq hitems => exact hitems

theorem keyed_mapping_iff :
    Keyed (.mapping entries) ↔
      (entries.map Prod.fst).Nodup ∧ ∀ entry ∈ entries, entry.2.Keyed := by
  refine ⟨fun h => ?_, fun h => .mapping h.1 h.2⟩
  cases h with
  | mapping hkeys hvalues => exact ⟨hkeys, hvalues⟩

/-- The entries of one mapping in the value are put in another order. -/
inductive ReorderStep : JsonValue → JsonValue → Prop where
  | entries {entries entries' : List (String × JsonValue)} (hperm : entries.Perm entries') :
    ReorderStep (.mapping entries) (.mapping entries')
  | item {kind : SequenceKind} {before after : List JsonValue} {item item' : JsonValue}
    (hitem : ReorderStep item item') :
    ReorderStep (.seq kind (before ++ item :: after)) (.seq kind (before ++ item' :: after))
  | value {before after : List (String × JsonValue)} {key : String} {value value' : JsonValue}
    (hvalue : ReorderStep value value') :
    ReorderStep (.mapping (before ++ (key, value) :: after))
      (.mapping (before ++ (key, value') :: after))

/-- The values differ in the order of the keys of their mappings at most. -/
def Reorders : JsonValue → JsonValue → Prop := Relation.ReflTransGen ReorderStep

theorem Reorders.refl (x : JsonValue) : Reorders x x := Relation.ReflTransGen.refl

theorem Reorders.trans {x y z : JsonValue} (hxy : Reorders x y) (hyz : Reorders y z) :
    Reorders x z := Relation.ReflTransGen.trans hxy hyz

private theorem ReorderStep.symm {x y : JsonValue} (h : ReorderStep x y) : ReorderStep y x := by
  induction h with
  | entries hperm => exact .entries hperm.symm
  | item _ ih => exact .item ih
  | value _ ih => exact .value ih

theorem Reorders.symm {x y : JsonValue} (h : Reorders x y) : Reorders y x :=
  haveI : Std.Symm ReorderStep := ⟨fun _ _ => ReorderStep.symm⟩
  Relation.ReflTransGen.stdSymm.symm _ _ h

private theorem Reorders.within {x y : JsonValue} (f : JsonValue → JsonValue)
    (hf : ∀ x y, ReorderStep x y → ReorderStep (f x) (f y)) (h : Reorders x y) :
    Reorders (f x) (f y) :=
  Relation.ReflTransGen.lift f hf x y h

/-- Items can be reordered one after the other. -/
theorem Reorders.seq {items' : List JsonValue} (h : List.Forall₂ Reorders items items') :
    Reorders (.seq kind items) (.seq kind items') := by
  have hafter : ∀ before,
      Reorders (.seq kind (before ++ items)) (.seq kind (before ++ items')) := by
    induction h with
    | nil => exact fun before => .refl _
    | @cons item item' after after' hitem _ ih =>
      intro before
      refine (hitem.within (.seq kind <| before ++ · :: after) fun _ _ => .item).trans ?_
      simpa using ih (before ++ [item'])
  exact hafter []

/-- Values of entries can be reordered one after the other. -/
theorem Reorders.mapping {entries' : List (String × JsonValue)}
    (h : List.Forall₂ (fun e e' => e.1 = e'.1 ∧ Reorders e.2 e'.2) entries entries') :
    Reorders (.mapping entries) (.mapping entries') := by
  have hafter : ∀ before,
      Reorders (.mapping (before ++ entries)) (.mapping (before ++ entries')) := by
    induction h with
    | nil => exact fun before => .refl _
    | @cons entry entry' after after' hent _ ih =>
      intro before
      obtain ⟨key, value⟩ := entry
      obtain ⟨key', value'⟩ := entry'
      obtain ⟨rfl, hvalue⟩ := hent
      refine (hvalue.within (fun value => .mapping (before ++ (key, value) :: after))
        fun _ _ => .value).trans ?_
      simpa using ih (before ++ [(key, value')])
  exact hafter []

private theorem Keyed.step {x y : JsonValue} (hx : x.Keyed) (h : ReorderStep x y) : y.Keyed := by
  induction h with
  | entries hperm =>
    rw [keyed_mapping_iff] at hx ⊢
    refine ⟨(hperm.map Prod.fst).nodup_iff.mp hx.1, fun entry hent => ?_⟩
    exact hx.2 entry (hperm.mem_iff.mpr hent)
  | item _ ih =>
    simp only [keyed_seq_iff, List.forall_mem_append, List.forall_mem_cons] at hx ⊢
    exact ⟨hx.1, ih hx.2.1, hx.2.2⟩
  | value _ ih =>
    simp only [keyed_mapping_iff, List.forall_mem_append, List.forall_mem_cons, List.map_append,
      List.map_cons] at hx ⊢
    exact ⟨hx.1, hx.2.1, ih hx.2.2.1, hx.2.2.2⟩

/-! ### Sorted keys -/

/-- The value with the entries of all its mappings sorted by their keys, as `sort_keys=True`
prints it. -/
def sortKeys : JsonValue → JsonValue :=
  fold .scalar .text .seq fun entries => .mapping (sortBy Prod.fst entries)

@[simp] theorem sortKeys_scalar (value : JsonScalar) : sortKeys (.scalar value) = .scalar value :=
  fold_scalar ..

@[simp] theorem sortKeys_text (value : String) : sortKeys (.text value) = .text value :=
  fold_text ..

@[simp] theorem sortKeys_seq (kind : SequenceKind) (items : List JsonValue) :
    sortKeys (.seq kind items) = .seq kind (items.map sortKeys) := fold_seq ..

@[simp] theorem sortKeys_mapping (entries : List (String × JsonValue)) :
    sortKeys (.mapping entries) =
      .mapping (sortBy Prod.fst (entries.map fun e => (e.1, sortKeys e.2))) := fold_mapping ..

private theorem sortKeys_eq_of_step {x y : JsonValue} (hx : x.Keyed) (h : ReorderStep x y) :
    sortKeys x = sortKeys y := by
  induction h with
  | @entries entries entries' hperm =>
    have hkeys := (keyed_mapping_iff.mp hx).1
    rw [sortKeys_mapping, sortKeys_mapping]
    congr 1
    refine sortBy_eq_of_perm (hperm.map _) ?_
    have hnodup : ((entries.map fun e => (e.1, sortKeys e.2)).map Prod.fst).Nodup := by
      simpa [Function.comp_def] using hkeys
    exact fun a ha b hb hab => List.inj_on_of_nodup_map hnodup ha hb hab
  | item _ ih =>
    have hitems := keyed_seq_iff.mp hx
    simp only [sortKeys_seq, List.map_append, List.map_cons]
    rw [ih (hitems _ (by simp))]
  | value _ ih =>
    have hvalues := (keyed_mapping_iff.mp hx).2
    simp only [sortKeys_mapping, List.map_append, List.map_cons]
    rw [ih (hvalues _ (List.mem_append_right _ List.mem_cons_self))]

/-- Values that differ in the order of keys are sorted to the same value. -/
theorem Reorders.sortKeys_eq {x y : JsonValue} (hx : x.Keyed) (h : Reorders x y) :
    sortKeys x = sortKeys y := by
  have hboth : y.Keyed ∧ sortKeys x = sortKeys y := by
    induction h with
    | refl => exact ⟨hx, rfl⟩
    | tail _ hstep ih => exact ⟨ih.1.step hstep, ih.2.trans (sortKeys_eq_of_step ih.1 hstep)⟩
  exact hboth.2

/-- Sorting changes the order of keys only. -/
theorem reorders_sortKeys (x : JsonValue) : Reorders x (sortKeys x) := by
  induction x with
  | scalar | text => simpa using .refl _
  | seq kind items ih =>
    rw [sortKeys_seq]
    refine .seq ?_
    rw [List.forall₂_map_right_iff]
    exact List.forall₂_same.mpr ih
  | mapping entries ih =>
    rw [sortKeys_mapping]
    refine Reorders.trans (.mapping ?_) (Relation.ReflTransGen.single (.entries
      (perm_sortBy Prod.fst (entries.map fun e => (e.1, sortKeys e.2))).symm))
    rw [List.forall₂_map_right_iff]
    exact List.forall₂_same.mpr fun entry hent => ⟨rfl, ih entry hent⟩

/-! ### Canonical text -/

private theorem ReorderStep.normalize {x y : JsonValue} (h : ReorderStep x y) :
    ReorderStep x.normalize y.normalize := by
  induction h with
  | entries hperm =>
    rw [normalize_mapping, normalize_mapping]
    exact .entries (hperm.map _)
  | item _ ih =>
    simp only [normalize_seq, List.map_append, List.map_cons]
    exact .item ih
  | value _ ih =>
    simp only [normalize_mapping, List.map_append, List.map_cons]
    exact .value ih

theorem Reorders.normalize {x y : JsonValue} (h : Reorders x y) :
    Reorders x.normalize y.normalize :=
  h.within _ fun _ _ => ReorderStep.normalize

theorem Keyed.normalize {x : JsonValue} (h : x.Keyed) : x.normalize.Keyed := by
  induction h with
  | scalar value => simpa using .scalar value
  | text value => simpa using .text value
  | seq _ ih =>
    rw [normalize_seq]
    refine .seq fun item hitem => ?_
    obtain ⟨part, hpart, rfl⟩ := List.mem_map.mp hitem
    exact ih part hpart
  | mapping hkeys _ ih =>
    rw [normalize_mapping]
    refine .mapping (by simpa [Function.comp_def] using hkeys) fun entry hent => ?_
    obtain ⟨part, hpart, rfl⟩ := List.mem_map.mp hent
    exact ih part hpart

private theorem normalize_sortKeys (x : JsonValue) :
    (sortKeys x).normalize = sortKeys x.normalize := by
  induction x with
  | scalar | text => simp
  | seq kind items ih => simpa using ih
  | mapping entries ih =>
    have hmap := @map_sortBy _ _ _ _ Prod.fst Prod.fst
      (fun e : String × JsonValue => (e.1, e.2.normalize)) (fun _ => rfl)
    rw [sortKeys_mapping, normalize_mapping, normalize_mapping, sortKeys_mapping, hmap,
      List.map_map, List.map_map]
    congr 2
    exact List.map_congr_left fun entry hent => Prod.ext rfl (ih entry hent)

/-- `json.dumps(_normalize(value), sort_keys=True, separators=(",", ":"), ensure_ascii=True)`. -/
def canonicalText (x : JsonValue) : List Char := dump (sortKeys x.normalize)

/-- Values with the same canonical text are the same up to the order of keys. -/
theorem reorders_of_canonicalText_eq {x y : JsonValue} (h : canonicalText x = canonicalText y) :
    Reorders x.normalize y.normalize := by
  have hsorted : sortKeys x.normalize = sortKeys y.normalize := by
    have hnormal := normalize_eq_of_dump_eq h
    rwa [normalize_sortKeys, normalize_sortKeys, normalize_normalize, normalize_normalize]
      at hnormal
  refine (reorders_sortKeys x.normalize).trans ?_
  rw [hsorted]
  exact (reorders_sortKeys y.normalize).symm

/-! ### Parts and wholes -/

/-- The values differ in the order of keys at most, and sorting their keys makes them equal. -/
structure SameValue (x y : JsonValue) : Prop where
  reorders : Reorders x y
  sorted : sortKeys x.normalize = sortKeys y.normalize

namespace SameValue

variable {x y : JsonValue}

theorem refl (x : JsonValue) : SameValue x x := ⟨.refl x, rfl⟩

theorem of_reorders (hx : x.Keyed) (h : Reorders x y) : SameValue x y :=
  ⟨h, h.normalize.sortKeys_eq hx.normalize⟩

theorem normalize (h : SameValue x y) : SameValue x.normalize y.normalize :=
  ⟨h.reorders.normalize, by rw [normalize_normalize, normalize_normalize, h.sorted]⟩

theorem seq {kind : SequenceKind} {items items' : List JsonValue}
    (h : List.Forall₂ SameValue items items') : SameValue (.seq kind items) (.seq kind items') := by
  refine ⟨.seq (h.imp fun _ _ hitem => hitem.reorders), ?_⟩
  rw [normalize_seq, normalize_seq, sortKeys_seq, sortKeys_seq, List.map_map, List.map_map]
  congr 1
  induction h with
  | nil => rfl
  | cons hitem _ ih =>
    rw [List.map_cons, List.map_cons, ih, Function.comp, Function.comp, hitem.sorted]

theorem mapping {entries entries' : List (String × JsonValue)}
    (h : List.Forall₂ (fun e e' => e.1 = e'.1 ∧ SameValue e.2 e'.2) entries entries') :
    SameValue (.mapping entries) (.mapping entries') := by
  refine ⟨.mapping (h.imp fun _ _ hent => ⟨hent.1, hent.2.reorders⟩), ?_⟩
  rw [normalize_mapping, normalize_mapping, sortKeys_mapping, sortKeys_mapping, List.map_map,
    List.map_map]
  congr 2
  induction h with
  | nil => rfl
  | cons hent _ ih =>
    rw [List.map_cons, List.map_cons, ih, Function.comp, Function.comp, hent.1, hent.2.sorted]

theorem canonicalText_eq (h : SameValue x y) : canonicalText x = canonicalText y := by
  rw [canonicalText, canonicalText, h.sorted]

end SameValue

end JsonValue

/-- A value whose mappings have distinct keys, as a `dict` has. -/
abbrev KeyedValue := { value : JsonValue // value.Keyed }

end OpenTrader.Base
