import Mathlib.Data.List.Forall2
import Mathlib.Data.List.Nodup
import Mathlib.Data.List.Perm.Subperm

/-!
# Fixed-capacity vectors

`HeaplessVec α n` is a list together with the proof that it holds at most `n`
elements, so an over-full vector cannot be built. The operations are those a
`no_std` fixed-capacity vector offers: `push` fails when the vector is full,
`swapRemove` moves the last element into the hole, `retainMut` lets the
predicate change the elements it keeps.

The lemmas say what each operation does to the underlying list, to membership
and to a list of keys `toList.map key`. Distinctness of keys is the property a
table keyed by `key` lives by.
-/

/-- A list of at most `n` elements. -/
@[ext] structure HeaplessVec (α : Type) (n : Nat) where
  toList : List α
  bound : toList.length ≤ n

namespace HeaplessVec

variable {α β : Type} {n : Nat}

/-- The empty vector. -/
def empty : HeaplessVec α n := ⟨[], Nat.zero_le n⟩

/-- Whether the vector holds `n` elements. -/
def isFull (v : HeaplessVec α n) : Bool := v.toList.length == n

/-- Append an element; `none` when the vector is full. -/
def push (v : HeaplessVec α n) (a : α) : Option (HeaplessVec α n) :=
  if h : v.toList.length < n then
    some ⟨v.toList ++ [a], by rw [List.length_append]; exact h⟩
  else
    none

/-- Keep the elements that satisfy `p`. -/
def retain (p : α → Bool) (v : HeaplessVec α n) : HeaplessVec α n :=
  ⟨v.toList.filter p, Nat.le_trans (List.length_filter_le _ _) v.bound⟩

/-- Keep the elements for which `f` says so, each as `f` leaves it. -/
def retainMut (f : α → α × Bool) (v : HeaplessVec α n) : HeaplessVec α n :=
  ⟨v.toList.filterMap fun a => if (f a).2 then some (f a).1 else none,
    Nat.le_trans (List.length_filterMap_le _ _) v.bound⟩

/-- Update every element. -/
def mapAll (f : α → α) (v : HeaplessVec α n) : HeaplessVec α n :=
  ⟨v.toList.map f, by simpa using v.bound⟩

/-- Update the first element of a list that satisfies `p`. -/
def modifyFirstList (p : α → Bool) (f : α → α) : List α → List α
  | [] => []
  | a :: l => if p a then f a :: l else a :: modifyFirstList p f l

theorem length_modifyFirstList (p : α → Bool) (f : α → α) (l : List α) :
    (modifyFirstList p f l).length = l.length := by
  induction l with
  | nil => rfl
  | cons a l ih =>
    unfold modifyFirstList
    split
    · rfl
    · simp [ih]

/-- Update the first element that satisfies `p`. -/
def modifyFirst (p : α → Bool) (f : α → α) (v : HeaplessVec α n) : HeaplessVec α n :=
  ⟨modifyFirstList p f v.toList, by rw [length_modifyFirstList]; exact v.bound⟩

/-- Walk a list with an accumulator, replacing each element. -/
def forEachList (f : β → α → β × α) (b : β) : List α → β × List α
  | [] => (b, [])
  | a :: l => ((forEachList f (f b a).1 l).1, (f b a).2 :: (forEachList f (f b a).1 l).2)

theorem length_forEachList (f : β → α → β × α) (b : β) (l : List α) :
    (forEachList f b l).2.length = l.length := by
  induction l generalizing b with
  | nil => rfl
  | cons a l ih => simp [forEachList, ih]

/-- A `for` loop over the elements, mutably, with an accumulator. -/
def forEach (f : β → α → β × α) (b : β) (v : HeaplessVec α n) : β × HeaplessVec α n :=
  ((forEachList f b v.toList).1,
    ⟨(forEachList f b v.toList).2, by rw [length_forEachList]; exact v.bound⟩)

/-- Remove the element at `i` and move the last element into its place. -/
def swapRemoveList (l : List α) (i : Nat) (h : i < l.length) : List α :=
  (l.set i (l.getLast (List.ne_nil_of_length_pos (Nat.zero_lt_of_lt h)))).dropLast

/-- Remove and return the element at `i`; the last element takes its place. -/
def swapRemove (v : HeaplessVec α n) (i : Nat) (h : i < v.toList.length) :
    α × HeaplessVec α n :=
  (v.toList[i],
    ⟨swapRemoveList v.toList i h, by
      have := v.bound
      simp [swapRemoveList]
      omega⟩)

/-! ## The underlying lists -/

@[simp] theorem toList_empty : (empty : HeaplessVec α n).toList = [] := rfl

@[simp] theorem toList_retain (p : α → Bool) (v : HeaplessVec α n) :
    (v.retain p).toList = v.toList.filter p := rfl

@[simp] theorem toList_retainMut (f : α → α × Bool) (v : HeaplessVec α n) :
    (v.retainMut f).toList =
      v.toList.filterMap fun a => if (f a).2 then some (f a).1 else none := rfl

@[simp] theorem toList_mapAll (f : α → α) (v : HeaplessVec α n) :
    (v.mapAll f).toList = v.toList.map f := rfl

@[simp] theorem toList_modifyFirst (p : α → Bool) (f : α → α) (v : HeaplessVec α n) :
    (v.modifyFirst p f).toList = modifyFirstList p f v.toList := rfl

@[simp] theorem toList_swapRemove (v : HeaplessVec α n) (i : Nat) (h : i < v.toList.length) :
    (v.swapRemove i h).2.toList = swapRemoveList v.toList i h := rfl

/-- A push that succeeds appends. -/
theorem push_eq_some {v w : HeaplessVec α n} {a : α} (h : v.push a = some w) :
    w.toList = v.toList ++ [a] := by
  unfold push at h
  split at h
  · cases h
    rfl
  · cases h

/-- A push fails only on a full vector. -/
theorem push_isSome {v : HeaplessVec α n} (a : α) (h : v.isFull = false) :
    ∃ w, v.push a = some w := by
  have hne : v.toList.length ≠ n := by simpa [isFull] using h
  have hlt : v.toList.length < n := Nat.lt_of_le_of_ne v.bound hne
  exact ⟨_, dif_pos hlt⟩

/-! ## `swapRemove` is removal up to order -/

open List in
/-- Filling the hole at `i` with `z` swaps `z` for the element it replaces. -/
theorem cons_set_perm (l : List α) (i : Nat) (h : i < l.length) (z : α) :
    l[i] :: l.set i z ~ z :: l := by
  induction l generalizing i with
  | nil => exact absurd h (Nat.not_lt_zero _)
  | cons a l ih =>
    cases i with
    | zero => exact Perm.swap _ _ _
    | succ i =>
      have hi : i < l.length := Nat.lt_of_succ_lt_succ h
      calc l[i] :: a :: l.set i z
          ~ a :: l[i] :: l.set i z := Perm.swap _ _ _
        _ ~ a :: z :: l := (ih i hi).cons a
        _ ~ z :: a :: l := Perm.swap _ _ _

open List in
/-- The removed element and the rest are a rearrangement of the list. -/
theorem swapRemoveList_perm (l : List α) (i : Nat) (h : i < l.length) :
    l[i] :: swapRemoveList l i h ~ l := by
  have hne : l ≠ [] := ne_nil_of_length_pos (Nat.zero_lt_of_lt h)
  obtain ⟨init, z, rfl⟩ : ∃ init z, l = init ++ [z] :=
    ⟨l.dropLast, l.getLast hne, (dropLast_append_getLast hne).symm⟩
  unfold swapRemoveList
  rw [getLast_append_singleton]
  by_cases hi : i < init.length
  · -- the hole is inside `init`: the last element replaces it
    rw [set_append_left _ _ hi, dropLast_concat, getElem_append_left hi]
    exact (cons_set_perm init i hi z).trans (perm_append_singleton z init).symm
  · -- the hole is the last element itself
    have hlast : i = init.length := by
      simp only [length_append, length_singleton] at h
      omega
    subst hlast
    rw [set_append_right _ _ (Nat.le_refl _)]
    simp only [Nat.sub_self, set_cons_zero, dropLast_concat, getElem_concat_length]
    exact (perm_append_singleton z init).symm

/-! ## Keys -/

/-- Removing by index keeps keys distinct. -/
theorem nodup_map_swapRemoveList {l : List α} (key : α → β) {i : Nat} (h : i < l.length)
    (hk : (l.map key).Nodup) :
    (key l[i] :: (swapRemoveList l i h).map key).Nodup :=
  ((swapRemoveList_perm l i h).map key).nodup_iff.mpr hk

/-- The keys that survive `retainMut` with a key-preserving predicate. -/
theorem map_filterMap_sublist {l : List α} (key : α → β) (f : α → Option α)
    (hf : ∀ a b, f a = some b → key b = key a) :
    ((l.filterMap f).map key).Sublist (l.map key) := by
  induction l with
  | nil => exact List.Sublist.refl _
  | cons a l ih =>
    rw [List.map_cons]
    cases hfa : f a with
    | none =>
      rw [List.filterMap_cons_none hfa]
      exact ih.trans (List.sublist_cons_self _ _)
    | some b =>
      rw [List.filterMap_cons_some hfa, List.map_cons, hf a b hfa]
      exact ih.cons_cons _

/-- An in-place update that preserves keys leaves the list of keys alone. -/
theorem map_modifyFirstList {l : List α} (key : α → β) (p : α → Bool) (f : α → α)
    (hf : ∀ a, p a → key (f a) = key a) :
    (modifyFirstList p f l).map key = l.map key := by
  induction l with
  | nil => rfl
  | cons a l ih =>
    unfold modifyFirstList
    split
    · next hp => rw [List.map_cons, List.map_cons, hf a hp]
    · rw [List.map_cons, List.map_cons, ih]

/-- Two in-place updates that a view does not tell apart. -/
theorem map_modifyFirstList_congr {key : α → β} {p : α → Bool} {f g : α → α}
    (h : ∀ a, p a → key (f a) = key (g a)) (l : List α) :
    (modifyFirstList p f l).map key = (modifyFirstList p g l).map key := by
  induction l with
  | nil => rfl
  | cons a l ih =>
    unfold modifyFirstList
    split
    · next hp => rw [List.map_cons, List.map_cons, h a hp]
    · rw [List.map_cons, List.map_cons, ih]

/-- An in-place update of an image is the image of an in-place update. -/
theorem modifyFirstList_map {f : α → α} {p : α → Bool} {g : β → β} {q : β → Bool} {h : α → β}
    (hp : ∀ a, q (h a) = p a) (hf : ∀ a, h (f a) = g (h a)) (l : List α) :
    (modifyFirstList p f l).map h = modifyFirstList q g (l.map h) := by
  induction l with
  | nil => rfl
  | cons a l ih =>
    rw [List.map_cons]
    unfold modifyFirstList
    rw [hp]
    split
    · rw [List.map_cons, hf]
    · rw [List.map_cons, ih]

/-- In-place updates that find their element change that one only, and all of them the
same one. -/
theorem modifyFirstList_split_all {l : List α} {p : α → Bool} {a : α} (h : l.find? p = some a) :
    ∃ before after, l = before ++ a :: after ∧ (∀ b ∈ before, p b = false) ∧
      ∀ f, modifyFirstList p f l = before ++ f a :: after := by
  induction l with
  | nil => cases h
  | cons b l ih =>
    by_cases hp : p b
    · rw [List.find?_cons_of_pos hp] at h
      cases h
      refine ⟨[], l, rfl, fun _ hb => absurd hb List.not_mem_nil, fun f => ?_⟩
      unfold modifyFirstList
      rw [if_pos hp]
      rfl
    · rw [List.find?_cons_of_neg hp] at h
      obtain ⟨before, after, rfl, hno, hmod⟩ := ih h
      refine ⟨b :: before, after, rfl, ?_, fun f => ?_⟩
      · intro c hc
        rcases List.mem_cons.mp hc with rfl | hc
        · exact Bool.eq_false_iff.mpr hp
        · exact hno c hc
      · unfold modifyFirstList
        rw [if_neg hp, hmod]
        rfl

/-- An in-place update that finds its element changes that one only. -/
theorem modifyFirstList_split {l : List α} {p : α → Bool} {a : α} (f : α → α)
    (h : l.find? p = some a) :
    ∃ before after, l = before ++ a :: after ∧ (∀ b ∈ before, p b = false) ∧
      modifyFirstList p f l = before ++ f a :: after := by
  obtain ⟨before, after, hsplit, hno, hmod⟩ := modifyFirstList_split_all h
  exact ⟨before, after, hsplit, hno, hmod f⟩

/-- Two lists that differ in one element, element by element. -/
theorem forall₂_replace {R : α → α → Prop} {before after : List α} {a b : α} :
    List.Forall₂ R (before ++ a :: after) (before ++ b :: after) ↔
      (∀ c ∈ before, R c c) ∧ R a b ∧ ∀ c ∈ after, R c c := by
  induction before with
  | nil => simp [List.forall₂_same]
  | cons c before ih => simp [ih, and_assoc]

/-- A loop whose body preserves keys preserves the list of keys. -/
theorem map_forEachList {γ : Type} (key : α → γ) {f : β → α → β × α}
    (hf : ∀ b a, key (f b a).2 = key a) (b : β) (l : List α) :
    (forEachList f b l).2.map key = l.map key := by
  induction l generalizing b with
  | nil => rfl
  | cons a l ih =>
    show key (f b a).2 :: (forEachList f (f b a).1 l).2.map key = _
    rw [hf, ih]
    rfl

/-- A list side by side with itself. -/
theorem mem_zip_self {l : List α} {c d : α} (h : (c, d) ∈ l.zip l) : d = c := by
  induction l with
  | nil => cases h
  | cons x l ih =>
    rcases List.mem_cons.mp h with h | h
    · cases h
      rfl
    · exact ih h

/-- A list side by side with its image. -/
theorem mem_zip_map {f : α → β} {l : List α} {c : α} {d : β} :
    (c, d) ∈ l.zip (l.map f) ↔ c ∈ l ∧ d = f c := by
  induction l with
  | nil => simp
  | cons a l ih =>
    rw [List.map_cons, List.zip_cons_cons, List.mem_cons, List.mem_cons, ih, Prod.mk.injEq]
    constructor
    · rintro (⟨rfl, rfl⟩ | ⟨hc, rfl⟩)
      · exact ⟨.inl rfl, rfl⟩
      · exact ⟨.inr hc, rfl⟩
    · rintro ⟨rfl | hc, rfl⟩
      · exact .inl ⟨rfl, rfl⟩
      · exact .inr ⟨hc, rfl⟩

/-- Two lists that differ in one element, side by side. -/
theorem mem_zip_replace {before after : List α} {a b c d : α}
    (h : (c, d) ∈ (before ++ a :: after).zip (before ++ b :: after)) :
    d = c ∨ c = a ∧ d = b := by
  rw [List.zip_append rfl, List.mem_append, List.zip_cons_cons, List.mem_cons] at h
  rcases h with h | h | h
  · exact .inl (mem_zip_self h)
  · cases h
    exact .inr ⟨rfl, rfl⟩
  · exact .inl (mem_zip_self h)

/-- A loop, side by side with the list it walks. -/
theorem mem_zip_forEachList {f : β → α → β × α} {b : β} {l : List α} {c d : α}
    (h : (c, d) ∈ l.zip (forEachList f b l).2) : ∃ acc, d = (f acc c).2 := by
  induction l generalizing b with
  | nil => cases h
  | cons a l ih =>
    rcases List.mem_cons.mp h with h | h
    · cases h
      exact ⟨b, rfl⟩
    · exact ih h

/-- A loop whose body does the same to an element whatever came before, as long as an
invariant of the loop variable holds, maps the list. -/
theorem forEachList_eq_map {I : β → Prop} {f : β → α → β × α} {g : α → α}
    (hf : ∀ b a, I b → I (f b a).1 ∧ (f b a).2 = g a) {b : β} (hb : I b) (l : List α) :
    (forEachList f b l).2 = l.map g := by
  induction l generalizing b with
  | nil => rfl
  | cons a l ih =>
    show (f b a).2 :: (forEachList f (f b a).1 l).2 = _
    rw [(hf b a hb).2, ih (hf b a hb).1]
    rfl

/-- Every element of an in-place update is an old element, or the image of the
first match. -/
theorem mem_modifyFirstList {l : List α} {p : α → Bool} {f : α → α} {b : α}
    (hb : b ∈ modifyFirstList p f l) :
    b ∈ l ∨ ∃ a, l.find? p = some a ∧ b = f a := by
  induction l with
  | nil => exact .inl hb
  | cons a l ih =>
    unfold modifyFirstList at hb
    split at hb
    · next hp =>
      rcases List.mem_cons.mp hb with rfl | hb
      · exact .inr ⟨a, by simp [hp], rfl⟩
      · exact .inl (List.mem_cons_of_mem _ hb)
    · next hp =>
      rcases List.mem_cons.mp hb with rfl | hb
      · exact .inl List.mem_cons_self
      · rcases ih hb with h | ⟨c, hc, rfl⟩
        · exact .inl (List.mem_cons_of_mem _ h)
        · exact .inr ⟨c, by simpa [hp] using hc, rfl⟩

/-- An element that is not looked for stays. -/
theorem mem_modifyFirstList_of_not {l : List α} {p : α → Bool} (f : α → α) {a : α} (ha : a ∈ l)
    (hp : p a = false) : a ∈ modifyFirstList p f l := by
  induction l with
  | nil => exact ha
  | cons b l ih =>
    unfold modifyFirstList
    rcases List.mem_cons.mp ha with rfl | ha
    · rw [hp]
      exact List.mem_cons_self
    · split
      · exact List.mem_cons_of_mem _ ha
      · exact List.mem_cons_of_mem _ (ih ha)

/-- An in-place update of the last element, where no other is looked for. -/
theorem modifyFirstList_concat {l : List α} {p : α → Bool} (f : α → α) {a : α}
    (hl : ∀ b ∈ l, p b = false) (ha : p a = true) :
    modifyFirstList p f (l ++ [a]) = l ++ [f a] := by
  induction l with
  | nil => simp [modifyFirstList, ha]
  | cons b l ih =>
    rw [List.cons_append]
    unfold modifyFirstList
    rw [hl b List.mem_cons_self, if_neg Bool.false_ne_true,
      ih fun c hc => hl c (List.mem_cons_of_mem _ hc)]
    rfl

/-- An in-place update with nothing to update is the identity. -/
theorem modifyFirstList_of_find?_none {l : List α} {p : α → Bool} {f : α → α}
    (h : l.find? p = none) : modifyFirstList p f l = l := by
  induction l with
  | nil => rfl
  | cons a l ih =>
    have hp : p a = false := by
      simpa using (List.find?_eq_none.mp h) a List.mem_cons_self
    unfold modifyFirstList
    rw [hp, if_neg Bool.false_ne_true, ih]
    simpa [hp] using h

/-- A lookup after an in-place update of what it finds. -/
theorem find?_modifyFirstList {l : List α} {p : α → Bool} {a : α} (f : α → α)
    (h : l.find? p = some a) (hf : p (f a)) : (modifyFirstList p f l).find? p = some (f a) := by
  obtain ⟨before, after, -, hno, hmod⟩ := modifyFirstList_split f h
  rw [hmod, List.find?_append, List.find?_eq_none.mpr fun b hb => by simp [hno b hb],
    Option.none_or, List.find?_cons_of_pos hf]

/-- A lookup for something else. -/
theorem find?_modifyFirstList_of_ne {l : List α} {p p' : α → Bool} (f : α → α)
    (hp : ∀ b, p b → p' b = false) (hf : ∀ b, p b → p' (f b) = false) :
    (modifyFirstList p f l).find? p' = l.find? p' := by
  induction l with
  | nil => rfl
  | cons a l ih =>
    unfold modifyFirstList
    split
    · next ha => simp [hp a ha, hf a ha]
    · rw [List.find?_cons, List.find?_cons, ih]

/-- The first element that satisfies `p` is the one at `findIdx p`. -/
theorem getElem?_modifyFirstList (p : α → Bool) (f : α → α) (l : List α) (i : Nat) :
    (modifyFirstList p f l)[i]? = l[i]?.map fun a => if l.findIdx p = i then f a else a := by
  induction l generalizing i with
  | nil => rfl
  | cons a l ih =>
    unfold modifyFirstList
    rw [List.findIdx_cons]
    cases hp : p a with
    | true => cases i <;> simp
    | false => cases i <;> simp [ih]

/-- What an in-place update does can depend on what it finds. -/
theorem modifyFirstList_const {l : List α} {p : α → Bool} {a : α} (f : α → α)
    (h : l.find? p = some a) :
    modifyFirstList p (fun _ => f a) l = modifyFirstList p f l := by
  induction l with
  | nil => rfl
  | cons b l ih =>
    unfold modifyFirstList
    split
    · next hp =>
      rw [List.find?_cons_of_pos hp] at h
      cases h
      rfl
    · next hp =>
      rw [List.find?_cons_of_neg hp] at h
      rw [ih h]

theorem modifyFirstList_congr {l : List α} {p p' : α → Bool} (f : α → α)
    (h : ∀ a ∈ l, p a = p' a) : modifyFirstList p f l = modifyFirstList p' f l := by
  induction l with
  | nil => rfl
  | cons a l ih =>
    unfold modifyFirstList
    rw [h a List.mem_cons_self, ih fun b hb => h b (List.mem_cons_of_mem _ hb)]

end HeaplessVec
