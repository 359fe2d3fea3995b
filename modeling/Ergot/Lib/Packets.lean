import Mathlib.Data.List.Forall2
import Mathlib.Data.List.Induction
import Mathlib.Data.List.ReduceOption

/-!
# Frames in packets

A stream of packets of at most `m` elements, where a packet that is shorter ends a frame.

- `packetize` is a frame in packets: full ones, and a short one that may be empty.
- `chunks` is the same without an empty one at the end (`chunks_append`).
- `Cut` is what a stream is cut into at its short packets: the runs that have ended, and the one
  that is open. `Cut.All` has a property of all runs, by what a packet does to one.
- `Cut.seen` is the same for a reader that gives up what it has now and then. Its runs are ends of
  those of the stream (`seen_tailOf`).
-/

namespace Packets

variable {α : Type} {m : Nat}

/-! ## Sending -/

/-- `packetize`, of a list that is no longer than `n`. -/
def packetizeAux (m : Nat) : Nat → List α → List (List α)
  | 0, l => [l]
  | n + 1, l => if l.length < m then [l] else l.take m :: packetizeAux m n (l.drop m)

/-- A frame in packets. -/
def packetize (m : Nat) (l : List α) : List (List α) := packetizeAux m l.length l

/-- `chunks`, of a list that is no longer than `n`. -/
def chunksAux (m : Nat) : Nat → List α → List (List α)
  | 0, _ => []
  | n + 1, l => if l.isEmpty then [] else l.take m :: chunksAux m n (l.drop m)

/-- Pieces of `m` elements, the last of which may be shorter. -/
def chunks (m : Nat) (l : List α) : List (List α) := chunksAux m l.length l

/-- Induction on the packets of a frame. -/
theorem frame_induction {P : List α → Prop} (hm : 0 < m) (short : ∀ l, l.length < m → P l)
    (full : ∀ l, m ≤ l.length → P (l.drop m) → P l) (l : List α) : P l := by
  induction hn : l.length using Nat.strongRecOn generalizing l with
  | _ n ih =>
    by_cases h : l.length < m
    · exact short l h
    · refine full l (Nat.not_lt.mp h) (ih (l.drop m).length ?_ _ rfl)
      rw [List.length_drop]
      omega

/-- The bound does not matter. -/
theorem packetizeAux_eq (hm : 0 < m) {n k : Nat} {l : List α} (hn : l.length ≤ n)
    (hk : l.length ≤ k) : packetizeAux m n l = packetizeAux m k l := by
  induction n generalizing k l with
  | zero =>
    obtain rfl : l = [] := List.eq_nil_of_length_eq_zero (Nat.le_zero.mp hn)
    cases k with
    | zero => rfl
    | succ k => exact (if_pos hm).symm
  | succ n ih =>
    have hdrop : (l.drop m).length = l.length - m := List.length_drop
    cases k with
    | zero =>
      obtain rfl : l = [] := List.eq_nil_of_length_eq_zero (Nat.le_zero.mp hk)
      exact if_pos hm
    | succ k =>
      unfold packetizeAux
      rw [ih (by omega) (by omega : (l.drop m).length ≤ k)]

theorem packetize_of_lt {l : List α} (h : l.length < m) : packetize m l = [l] := by
  unfold packetize
  cases hn : l.length with
  | zero => rfl
  | succ n => exact if_pos h

theorem packetize_of_le (hm : 0 < m) {l : List α} (h : m ≤ l.length) :
    packetize m l = l.take m :: packetize m (l.drop m) := by
  have hdrop : (l.drop m).length = l.length - m := List.length_drop
  unfold packetize
  obtain ⟨n, hn⟩ : ∃ n, l.length = n + 1 := ⟨l.length - 1, by omega⟩
  rw [hn, packetizeAux, if_neg (Nat.not_lt.mpr h),
    packetizeAux_eq hm (by omega) (Nat.le_refl (l.drop m).length)]

theorem chunksAux_eq (hm : 0 < m) {n k : Nat} {l : List α} (hn : l.length ≤ n)
    (hk : l.length ≤ k) : chunksAux m n l = chunksAux m k l := by
  induction n generalizing k l with
  | zero =>
    obtain rfl : l = [] := List.eq_nil_of_length_eq_zero (Nat.le_zero.mp hn)
    cases k <;> rfl
  | succ n ih =>
    have hdrop : (l.drop m).length = l.length - m := List.length_drop
    cases k with
    | zero =>
      obtain rfl : l = [] := List.eq_nil_of_length_eq_zero (Nat.le_zero.mp hk)
      rfl
    | succ k =>
      unfold chunksAux
      rw [ih (by omega) (by omega : (l.drop m).length ≤ k)]

theorem chunks_of_ne_nil (hm : 0 < m) {l : List α} (h : l ≠ []) :
    chunks m l = l.take m :: chunks m (l.drop m) := by
  have hdrop : (l.drop m).length = l.length - m := List.length_drop
  have hpos := List.length_pos_iff.mpr h
  unfold chunks
  obtain ⟨n, hn⟩ : ∃ n, l.length = n + 1 := ⟨l.length - 1, by omega⟩
  rw [hn, chunksAux, if_neg (by simpa using h),
    chunksAux_eq hm (by omega) (Nat.le_refl (l.drop m).length)]

theorem chunks_nil : chunks m ([] : List α) = [] := rfl

/-- No chunk is too long. -/
theorem length_le_of_mem_chunks {l c : List α} (hc : c ∈ chunks m l) : c.length ≤ m := by
  unfold chunks at hc
  generalize l.length = n at hc
  induction n generalizing l with
  | zero => cases hc
  | succ n ih =>
    unfold chunksAux at hc
    split at hc
    · cases hc
    · rcases List.mem_cons.mp hc with rfl | hc
      · exact List.length_take_le m l
      · exact ih hc

/-- What is in a chunk is in the frame. -/
theorem mem_of_mem_chunks {l c : List α} (hc : c ∈ chunks m l) {a : α} (ha : a ∈ c) : a ∈ l := by
  unfold chunks at hc
  generalize l.length = n at hc
  induction n generalizing l with
  | zero => cases hc
  | succ n ih =>
    unfold chunksAux at hc
    split at hc
    · cases hc
    · rcases List.mem_cons.mp hc with rfl | hc
      · exact List.mem_of_mem_take ha
      · exact List.mem_of_mem_drop (ih hc)

/-- The chunks, and an empty packet if none of them is short. -/
theorem chunks_append (hm : 0 < m) {l : List α} (h : l ≠ []) :
    chunks m l ++ (if l.length % m = 0 then [[]] else []) = packetize m l := by
  induction l using frame_induction hm with
  | short l hlt =>
    have hmod : l.length % m ≠ 0 := by
      rw [Nat.mod_eq_of_lt hlt]
      exact Nat.ne_of_gt (List.length_pos_iff.mpr h)
    have hle := Nat.le_of_lt hlt
    rw [chunks_of_ne_nil hm h, if_neg hmod, packetize_of_lt hlt, List.take_of_length_le hle,
      List.drop_eq_nil_of_le hle]
    rfl
  | full l hle ih =>
    rw [chunks_of_ne_nil hm h, packetize_of_le hm hle, List.cons_append]
    have hmod : (l.drop m).length % m = l.length % m := by
      rw [List.length_drop, ← Nat.mod_eq_sub_mod hle]
    by_cases hnil : l.drop m = []
    · -- the last packet was full
      have hzero : l.length % m = 0 := by rw [← hmod, hnil, List.length_nil, Nat.zero_mod]
      rw [hnil, if_pos hzero, packetize_of_lt hm]
      rfl
    · rw [← ih hnil, hmod]

/-- The packets of a frame are not empty together. -/
theorem packetize_ne_nil (m : Nat) (l : List α) : packetize m l ≠ [] := by
  unfold packetize
  cases l with
  | nil => exact List.cons_ne_nil _ _
  | cons a l =>
    rw [List.length_cons, packetizeAux]
    split
    · exact List.cons_ne_nil _ _
    · exact List.cons_ne_nil _ _

/-! ## Receiving -/

/-- The runs of a stream that short packets have ended, and the one that is open. -/
structure Cut (α : Type) where
  ended : List (List α)
  current : List α

namespace Cut

/-- The next packet. -/
def next (m : Nat) (c : Cut α) (packet : List α) : Cut α :=
  if packet.length < m then ⟨c.ended ++ [c.current ++ packet], []⟩
  else ⟨c.ended, c.current ++ packet⟩

/-- The runs of a stream. -/
def of (m : Nat) (packets : List (List α)) : Cut α := packets.foldl (next m) ⟨[], []⟩

/-- Every run satisfies `P`. -/
structure All (P : List α → Prop) (c : Cut α) : Prop where
  ended : ∀ run ∈ c.ended, P run
  current : P c.current

theorem of_append (m : Nat) (packets packets' : List (List α)) :
    of m (packets ++ packets') = packets'.foldl (next m) (of m packets) :=
  List.foldl_append

/-- A run goes on by a packet. -/
theorem All.next {P : List α → Prop} {c : Cut α} (h : c.All P) (hnil : P []) {packet : List α}
    (hrun : P (c.current ++ packet)) : (c.next m packet).All P := by
  unfold Cut.next
  split
  · refine ⟨fun run hmem => ?_, hnil⟩
    rcases List.mem_append.mp hmem with hmem | hmem
    · exact h.ended run hmem
    · rwa [List.mem_singleton.mp hmem]
  · exact ⟨h.ended, hrun⟩

/-- An empty packet ends the run. -/
theorem All.terminate {P : List α → Prop} {c : Cut α} (h : c.All P) (hm : 0 < m) (hnil : P []) :
    (c.next m []).All P ∧ (c.next m []).current = [] := by
  refine ⟨h.next hnil (by rw [List.append_nil]; exact h.current), ?_⟩
  unfold Cut.next
  rw [if_pos (show ([] : List α).length < m from hm)]

/-- All packets of a frame end the run. -/
theorem foldl_packetize (hm : 0 < m) (c : Cut α) (l : List α) :
    (packetize m l).foldl (Cut.next m) c = ⟨c.ended ++ [c.current ++ l], []⟩ := by
  induction l using frame_induction hm generalizing c with
  | short l hlt =>
    rw [packetize_of_lt hlt, List.foldl_cons, List.foldl_nil, Cut.next, if_pos hlt]
  | full l hle ih =>
    have hfull : ¬ (l.take m).length < m := by
      rw [List.length_take_of_le hle]
      exact Nat.lt_irrefl m
    rw [packetize_of_le hm hle, List.foldl_cons, ih, Cut.next, if_neg hfull, List.append_assoc,
      List.take_append_drop]

theorem current_packetize (hm : 0 < m) (c : Cut α) (l : List α) :
    ((packetize m l).foldl (Cut.next m) c).current = [] := by
  rw [foldl_packetize hm]

/-- Where there is no short packet at the end of a frame, its run stays open. -/
theorem foldl_chunks (hm : 0 < m) (c : Cut α) {l : List α} (h : l ≠ []) :
    (chunks m l).foldl (Cut.next m) c =
      if l.length % m = 0 then ⟨c.ended, c.current ++ l⟩ else ⟨c.ended ++ [c.current ++ l], []⟩ := by
  have hall := foldl_packetize hm c l
  rw [← chunks_append hm h, List.foldl_append] at hall
  split
  · next hzero =>
    rw [if_pos hzero, List.foldl_cons, List.foldl_nil, Cut.next, if_pos (by simpa using hm),
      List.append_nil, Cut.mk.injEq] at hall
    obtain ⟨hended, hlast⟩ := List.append_inj' hall.1 rfl
    rw [← hended, ← List.singleton_inj.mp hlast]
  · next hne => rwa [if_neg hne] at hall

/-- Some packets of a frame, and then no more. -/
theorem foldl_take_chunks (hm : 0 < m) (c : Cut α) (l : List α) (n : Nat) :
    (∃ p, p <+: l ∧ ((chunks m l).take n).foldl (Cut.next m) c = ⟨c.ended, c.current ++ p⟩) ∨
      ((chunks m l).take n).foldl (Cut.next m) c = ⟨c.ended ++ [c.current ++ l], []⟩ := by
  induction l using frame_induction hm generalizing c n with
  | short l hlt =>
    by_cases hnil : l = []
    · refine .inl ⟨[], List.nil_prefix, ?_⟩
      rw [hnil, chunks_nil, List.take_nil, List.append_nil]
      rfl
    · cases n with
      | zero => exact .inl ⟨[], List.nil_prefix, by rw [List.append_nil]; rfl⟩
      | succ n =>
        refine .inr ?_
        have hle := Nat.le_of_lt hlt
        have hone : (chunks m l).take (n + 1) = [l] := by
          rw [chunks_of_ne_nil hm hnil, List.take_of_length_le hle, List.drop_eq_nil_of_le hle,
            List.take_succ_cons, chunks_nil, List.take_nil]
        rw [hone, List.foldl_cons, List.foldl_nil, Cut.next, if_pos hlt]
  | full l hle ih =>
    cases n with
    | zero => exact .inl ⟨[], List.nil_prefix, by rw [List.append_nil]; rfl⟩
    | succ n =>
      have hnil : l ≠ [] := by
        rintro rfl
        exact absurd (Nat.lt_of_lt_of_le hm hle) (Nat.lt_irrefl 0)
      have hfull : ¬ (l.take m).length < m := by
        rw [List.length_take_of_le hle]
        exact Nat.lt_irrefl m
      have hnext : c.next m (l.take m) = ⟨c.ended, c.current ++ l.take m⟩ := by
        rw [Cut.next, if_neg hfull]
      rw [chunks_of_ne_nil hm hnil, List.take_succ_cons, List.foldl_cons, hnext]
      rcases ih ⟨c.ended, c.current ++ l.take m⟩ n with ⟨p, hp, hrest⟩ | hrest
      · refine .inl ⟨l.take m ++ p, ?_, by rw [hrest, List.append_assoc]⟩
        obtain ⟨rest, hrest⟩ := hp
        exact ⟨rest, by rw [List.append_assoc, hrest, List.take_append_drop]⟩
      · refine .inr ?_
        rw [hrest, List.append_assoc, List.take_append_drop]

theorem ended_prefix_foldl (m : Nat) (packets : List (List α)) (c : Cut α) :
    c.ended <+: (packets.foldl (Cut.next m) c).ended := by
  induction packets generalizing c with
  | nil => exact List.prefix_refl _
  | cons packet packets ih =>
    refine List.IsPrefix.trans ?_ (ih (c.next m packet))
    unfold Cut.next
    split
    · exact List.prefix_append _ _
    · exact List.prefix_refl _

theorem ended_prefix_of (m : Nat) {packets packets' : List (List α)} (h : packets <+: packets') :
    (of m packets).ended <+: (of m packets').ended := by
  obtain ⟨rest, rfl⟩ := h
  rw [of_append]
  exact ended_prefix_foldl m rest _

/-! ### With gaps -/

/-- The next packet, or (`none`) the run that is open is given up. -/
def see (m : Nat) (c : Cut α) : Option (List α) → Cut α
  | some packet => c.next m packet
  | none => { c with current := [] }

/-- The runs of a stream that is read with gaps. -/
def seen (m : Nat) (events : List (Option (List α))) : Cut α := events.foldl (see m) ⟨[], []⟩

@[simp] theorem seen_nil (m : Nat) : seen m ([] : List (Option (List α))) = ⟨[], []⟩ := rfl

@[simp] theorem seen_append_singleton (m : Nat) (events : List (Option (List α)))
    (event : Option (List α)) : seen m (events ++ [event]) = (seen m events).see m event := by
  rw [seen, List.foldl_append]
  rfl

/-- Without gaps. -/
theorem seen_map_some (m : Nat) (packets : List (List α)) :
    seen m (packets.map some) = of m packets := by
  rw [seen, List.foldl_map]
  rfl

/-- A cut that has ends of the runs of another, in the same order. -/
structure TailOf (c c' : Cut α) : Prop where
  ended : List.SublistForall₂ (· <:+ ·) c.ended c'.ended
  current : c.current <:+ c'.current

theorem sublistForall₂_append {β γ : Type} {R : β → γ → Prop} {l : List β} {l' : List γ} {b : β}
    {c : γ} (h : List.SublistForall₂ R l l') (hbc : R b c) :
    List.SublistForall₂ R (l ++ [b]) (l' ++ [c]) := by
  obtain ⟨k, hforall, hsub⟩ := List.sublistForall₂_iff.mp h
  refine List.sublistForall₂_iff.mpr ⟨k ++ [c], ?_, hsub.append (List.Sublist.refl _)⟩
  exact List.rel_append hforall (.cons hbc .nil)

theorem sublistForall₂_of_sublist {β γ : Type} {R : β → γ → Prop} {l : List β} {l' l'' : List γ}
    (h : List.SublistForall₂ R l l') (hsub : l'.Sublist l'') : List.SublistForall₂ R l l'' := by
  obtain ⟨k, hforall, hk⟩ := List.sublistForall₂_iff.mp h
  exact List.sublistForall₂_iff.mpr ⟨k, hforall, hk.trans hsub⟩

/-- Two relations after one another. -/
theorem sublistForall₂_comp {β γ δ : Type} {R : β → γ → Prop} {S : γ → δ → Prop}
    {T : β → δ → Prop} (hcomp : ∀ b c d, R b c → S c d → T b d) {l : List β} {l' : List γ}
    {l'' : List δ} (h : List.SublistForall₂ R l l') (h' : List.SublistForall₂ S l' l'') :
    List.SublistForall₂ T l l'' := by
  induction h' generalizing l with
  | nil =>
    cases h
    exact .nil
  | cons hcd _ ih =>
    cases h with
    | nil => exact .nil
    | cons hbc h => exact .cons (hcomp _ _ _ hbc hcd) (ih h)
    | cons_right h => exact .cons_right (ih h)
  | cons_right _ ih => exact .cons_right (ih h)

theorem TailOf.next {c c' : Cut α} (h : c.TailOf c') (m : Nat) (packet : List α) :
    (c.next m packet).TailOf (c'.next m packet) := by
  have hrun : c.current ++ packet <:+ c'.current ++ packet := by
    obtain ⟨front, hfront⟩ := h.current
    exact ⟨front, by rw [← hfront, List.append_assoc]⟩
  unfold Cut.next
  split
  · exact ⟨sublistForall₂_append h.ended hrun, List.nil_suffix⟩
  · exact ⟨h.ended, hrun⟩

/-- A reader has ends of the runs that there are for one that gives up nothing. -/
theorem seen_tailOf (m : Nat) (events : List (Option (List α))) :
    (seen m events).TailOf (of m events.reduceOption) := by
  induction events using List.reverseRecOn with
  | nil => exact ⟨.nil, List.nil_suffix⟩
  | append_singleton events event ih =>
    rw [seen_append_singleton, List.reduceOption_append]
    cases event with
    | none =>
      rw [List.reduceOption_cons_of_none, List.reduceOption_nil, List.append_nil]
      exact ⟨ih.ended, List.nil_suffix⟩
    | some packet =>
      rw [List.reduceOption_cons_of_some, List.reduceOption_nil, of_append]
      exact ih.next m packet

end Cut

end Packets
