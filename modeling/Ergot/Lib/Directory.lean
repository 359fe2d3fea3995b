import Mathlib.Data.List.Nodup
import Mathlib.Data.List.Perm.Subperm
import Mathlib.Logic.Relation

/-!
# A directory of names

What an allocator of segment names is for: *links*, each with an ident and a
name, and *leases*, each a name. The name `0` stands for "no name yet" and any
number of links may have it. Otherwise no two links and no two leases share a
name, and no link shares one with a lease.

`Directory.Step` lists what may happen to a directory; `Directory.Wf.step` says
that each of these keeps it well formed. An implementation whose operations are
such steps never hands out a name twice.
-/

/-- Links with an ident and a name, and leased names. -/
structure Directory (ι ν : Type) where
  links : List (ι × ν)
  leases : List ν

namespace Directory

variable {ι ν : Type} [Zero ν]

/-- No ident, no name and no lease occurs twice. -/
structure Wf (d : Directory ι ν) : Prop where
  idents : (d.links.map Prod.fst).Nodup
  names : d.links.Pairwise fun a b => a.2 ≠ 0 → a.2 ≠ b.2
  leases : d.leases.Nodup
  disjoint : ∀ l ∈ d.links, l.2 ≠ 0 → l.2 ∉ d.leases

/-- The empty directory. -/
def empty : Directory ι ν := ⟨[], []⟩

theorem empty_wf : (empty : Directory ι ν).Wf :=
  { idents := List.nodup_nil
    names := List.Pairwise.nil
    leases := List.nodup_nil
    disjoint := fun _ h => absurd h List.not_mem_nil }

/-- What may happen to a directory. -/
inductive Step (d : Directory ι ν) : Directory ι ν → Prop
  /-- A new link, with a fresh name or none. -/
  | attach (i : ι) (n : ν) (hi : i ∉ d.links.map Prod.fst)
      (hn : n = 0 ∨ (n ∉ d.links.map Prod.snd ∧ n ∉ d.leases)) :
      Step d { d with links := d.links ++ [(i, n)] }
  /-- A link goes away; the others may be reordered. -/
  | detach (i : ι) (n : ν) (rest : List (ι × ν)) (h : ((i, n) :: rest).Perm d.links) :
      Step d { d with links := rest }
  /-- A link gets another name. -/
  | renumber (i : ι) (m n : ν) (before after : List (ι × ν))
      (h : d.links = before ++ (i, m) :: after)
      (hn : ∀ l ∈ before ++ after, l.2 ≠ n) (hl : n ∉ d.leases) :
      Step d { d with links := before ++ (i, n) :: after }
  /-- A fresh name is leased. -/
  | lease (n : ν) (hn : ∀ l ∈ d.links, l.2 = n → n = 0) (hl : n ∉ d.leases) :
      Step d { d with leases := d.leases ++ [n] }
  /-- Some leases end; the others may be reordered. -/
  | forget (leases : List ν) (h : leases.Subperm d.leases) : Step d { d with leases }

/-- Any number of steps. -/
def Steps : Directory ι ν → Directory ι ν → Prop := Relation.ReflTransGen Step

theorem Wf.subperm {d : Directory ι ν} (h : d.Wf) {leases : List ν}
    (hs : leases.Subperm d.leases) : Wf { d with leases } := by
  obtain ⟨l, hperm, hsub⟩ := hs
  have hmem : ∀ n ∈ leases, n ∈ d.leases :=
    fun n hn => hsub.subset (hperm.mem_iff.mpr hn)
  exact
    { idents := h.idents
      names := h.names
      leases := hperm.nodup_iff.mp (h.leases.sublist hsub)
      disjoint := fun l hl hne hin => h.disjoint l hl hne (hmem _ hin) }

theorem Wf.detach {d : Directory ι ν} (h : d.Wf) {i : ι} {n : ν} {rest : List (ι × ν)}
    (hp : ((i, n) :: rest).Perm d.links) : Wf { d with links := rest } := by
  have hsymm : ∀ a b : ι × ν, (a.2 ≠ 0 → a.2 ≠ b.2) → b.2 ≠ 0 → b.2 ≠ a.2 := by
    intro a b hab hb heq
    exact hab (heq ▸ hb) heq.symm
  have hidents : (((i, n) :: rest).map Prod.fst).Nodup :=
    ((hp.map Prod.fst).nodup_iff).mpr h.idents
  have hnames : ((i, n) :: rest).Pairwise fun a b => a.2 ≠ 0 → a.2 ≠ b.2 :=
    h.names.perm hp.symm (fun {a b} => hsymm a b)
  rw [List.map_cons, List.nodup_cons] at hidents
  rw [List.pairwise_cons] at hnames
  exact
    { idents := hidents.2
      names := hnames.2
      leases := h.leases
      disjoint := fun l hl => h.disjoint l (hp.mem_iff.mp (List.mem_cons_of_mem _ hl)) }

theorem Wf.attach {d : Directory ι ν} (h : d.Wf) {i : ι} {n : ν}
    (hi : i ∉ d.links.map Prod.fst)
    (hn : n = 0 ∨ (n ∉ d.links.map Prod.snd ∧ n ∉ d.leases)) :
    Wf { d with links := d.links ++ [(i, n)] } := by
  refine
    { idents := ?_
      names := ?_
      leases := h.leases
      disjoint := ?_ }
  · rw [List.map_append]
    refine List.nodup_append.mpr ⟨h.idents, List.nodup_singleton i, ?_⟩
    intro a ha b hb heq
    have hb : b = i := by simpa using hb
    subst hb heq
    exact hi ha
  · refine List.pairwise_append.mpr ⟨h.names, List.pairwise_singleton _ _, ?_⟩
    intro a ha b hb hne heq
    have hb : b = (i, n) := by simpa using hb
    subst hb
    rcases hn with rfl | ⟨hfresh, -⟩
    · exact hne heq
    · exact hfresh (List.mem_map.mpr ⟨a, ha, heq⟩)
  · intro l hl hne hin
    rcases List.mem_append.mp hl with hl | hl
    · exact h.disjoint l hl hne hin
    · have hl : l = (i, n) := by simpa using hl
      subst hl
      rcases hn with rfl | ⟨-, hfresh⟩
      · exact hne rfl
      · exact hfresh hin

theorem Wf.renumber {d : Directory ι ν} (h : d.Wf) {i : ι} {m n : ν}
    {before after : List (ι × ν)} (hd : d.links = before ++ (i, m) :: after)
    (hn : ∀ l ∈ before ++ after, l.2 ≠ n) (hl : n ∉ d.leases) :
    Wf { d with links := before ++ (i, n) :: after } := by
  have hidents := h.idents
  have hnames := h.names
  have hdisj := h.disjoint
  rw [hd] at hidents hnames hdisj
  rw [List.pairwise_append] at hnames
  obtain ⟨hb, ha, hba⟩ := hnames
  rw [List.pairwise_cons] at ha
  refine
    { idents := by simpa using hidents
      names := ?_
      leases := h.leases
      disjoint := ?_ }
  · refine List.pairwise_append.mpr ⟨hb, List.pairwise_cons.mpr ⟨?_, ha.2⟩, ?_⟩
    · intro b hmem _ heq
      exact hn b (List.mem_append_right _ hmem) heq.symm
    · intro a hmem b hb' hne
      rcases List.mem_cons.mp hb' with rfl | hb'
      · exact hn a (List.mem_append_left _ hmem)
      · exact hba a hmem b (List.mem_cons_of_mem _ hb') hne
  · intro l hmem hne
    rcases List.mem_append.mp hmem with hmem | hmem
    · exact hdisj l (List.mem_append_left _ hmem) hne
    · rcases List.mem_cons.mp hmem with rfl | hmem
      · exact hl
      · exact hdisj l (List.mem_append_right _ (List.mem_cons_of_mem _ hmem)) hne

theorem Wf.lease {d : Directory ι ν} (h : d.Wf) {n : ν}
    (hn : ∀ l ∈ d.links, l.2 = n → n = 0) (hl : n ∉ d.leases) :
    Wf { d with leases := d.leases ++ [n] } := by
  refine
    { idents := h.idents
      names := h.names
      leases := ?_
      disjoint := ?_ }
  · refine List.nodup_append.mpr ⟨h.leases, List.nodup_singleton n, ?_⟩
    intro a ha b hb heq
    have hb : b = n := by simpa using hb
    subst hb heq
    exact hl ha
  · intro l hmem hne hin
    rcases List.mem_append.mp hin with hin | hin
    · exact h.disjoint l hmem hne hin
    · have heq : l.2 = n := by simpa using hin
      exact hne (heq ▸ hn l hmem heq)

/-- Every step keeps the directory well formed. -/
theorem Wf.step {d d' : Directory ι ν} (h : d.Wf) (hs : Step d d') : d'.Wf := by
  cases hs with
  | attach i n hi hn => exact h.attach hi hn
  | detach i n rest hp => exact h.detach hp
  | renumber i m n before after hd hn hl => exact h.renumber hd hn hl
  | lease n hn hl => exact h.lease hn hl
  | forget leases hs => exact h.subperm hs

theorem Wf.steps {d d' : Directory ι ν} (h : d.Wf) (hs : Steps d d') : d'.Wf := by
  induction hs with
  | refl => exact h
  | tail _ hstep ih => exact ih.step hstep

end Directory
